import FacetedSearch.Proofs.Text.Blank
import FacetedSearch.Text.Numeral

/-!
# The grammar of numerals

Which texts are numerals is told by a grammar, without a word about how they are read.  The reader
takes the longest run of digits that it can, and so it matters what may follow one: whatever does in
the grammar is neither a digit nor an underscore.

* `Numeral.Digits`, `Numeral.Mantissa`, `Numeral.Exponent`, `Numeral.Real` — the grammar.
* `Numeral.Written` — a numeral with white space around it.
* `Numeral.digits_of_digitRun`, `Numeral.digitRun_append` — what is read as digits.
* `Numeral.isSome_exponent?_iff`, `Numeral.isSome_realWith?_iff` — the parts of a numeral.
* `Numeral.isSome_real?_iff` — the texts that are read are those of the grammar.
-/

set_option autoImplicit false

namespace FacetedSearch

namespace Numeral

open Text

/-! ## The grammar -/

/-- A decimal digit of some script. -/
def IsDigit (c : Char) : Prop := (digit? c).isSome

instance : DecidablePred IsDigit := fun c => inferInstanceAs (Decidable ((digit? c).isSome = true))

/-- Digits, at least one, with at most one underscore between two of them. -/
inductive Digits : List Char → Prop where
  | last {c : Char} (digit : IsDigit c) : Digits [c]
  | next {c : Char} {cs : List Char} (digit : IsDigit c) (more : Digits cs) : Digits (c :: cs)
  | underscore {c : Char} {cs : List Char} (digit : IsDigit c) (more : Digits cs) :
      Digits (c :: '_' :: cs)

/-- An optional sign. -/
inductive Sign : List Char → Prop where
  | none : Sign []
  | plus : Sign ['+']
  | minus : Sign ['-']

/-- Digits without a point, or with one after, before or between them. -/
inductive Mantissa : List Char → Prop where
  | whole {ds : List Char} (whole : Digits ds) : Mantissa ds
  | pointed {ds : List Char} (whole : Digits ds) : Mantissa (ds ++ ['.'])
  | part {ps : List Char} (part : Digits ps) : Mantissa ('.' :: ps)
  | both {ds ps : List Char} (whole : Digits ds) (part : Digits ps) : Mantissa (ds ++ '.' :: ps)

/-- An optional exponent. -/
inductive Exponent : List Char → Prop where
  | none : Exponent []
  | given {e : Char} {s ds : List Char} (letter : e = 'e' ∨ e = 'E') (sign : Sign s)
      (digits : Digits ds) : Exponent (e :: (s ++ ds))

/-- A word for infinity or for no number, in any case. -/
def Word (cs : List Char) : Prop :=
  cs.map Char.toLower ∈ ["inf".toList, "infinity".toList, "nan".toList]

/-- A word or a decimal number, with or without a sign. -/
inductive Real : List Char → Prop where
  | word {s w : List Char} (sign : Sign s) (word : Word w) : Real (s ++ w)
  | decimal {s m e : List Char} (sign : Sign s) (mantissa : Mantissa m) (exponent : Exponent e) :
      Real (s ++ (m ++ e))

/-- A word or a decimal number with white space around it. -/
def Written (cs : List Char) : Prop :=
  ∃ before text after, cs = before ++ text ++ after ∧ (∀ c ∈ before, isWhiteSpace c) ∧
    (∀ c ∈ after, isWhiteSpace c) ∧ Real text

/-! ## Digits -/

theorem Digits.exists_cons {text : List Char} (h : Digits text) :
    ∃ c cs, text = c :: cs ∧ IsDigit c := by
  cases h with
  | last h | next h | underscore h => exact ⟨_, _, rfl, h⟩

/-- A text that does not go on with digits. -/
def Stops (cs : List Char) : Prop := ∀ c ∈ cs.head?, ¬ IsDigit c ∧ c ≠ '_'

theorem stops_nil : Stops [] := nofun

theorem stops_cons {c : Char} {cs : List Char} (h : ¬ IsDigit c) (hc : c ≠ '_') :
    Stops (c :: cs) := by
  rintro _ ⟨⟩
  exact ⟨h, hc⟩

theorem moreDigits_digit {c : Char} {d : Nat} (h : digit? c = some d) (cs : List Char) :
    moreDigits (c :: cs) = (d :: (moreDigits cs).1, (moreDigits cs).2) := by
  cases cs <;> simp [moreDigits, h]

theorem moreDigits_underscore {c : Char} (h : IsDigit c) (cs : List Char) :
    moreDigits ('_' :: c :: cs) = moreDigits (c :: cs) := by
  obtain ⟨d, hd⟩ := Option.isSome_iff_exists.1 h
  have hunderscore : digit? '_' = none := by decide
  rw [moreDigits_digit hd]
  simp [moreDigits, hunderscore, hd]

/-- Where there is no digit, and none after an underscore, nothing is read. -/
theorem moreDigits_of_not_digit {c : Char} {cs : List Char} (h : ¬ IsDigit c)
    (hc : c = '_' → ∀ c' ∈ cs.head?, ¬ IsDigit c') : moreDigits (c :: cs) = ([], c :: cs) := by
  have hdigit : digit? c = none := Option.not_isSome_iff_eq_none.1 h
  cases cs with
  | nil => simp [moreDigits, hdigit]
  | cons c' cs =>
    by_cases hunderscore : c = '_'
    · have hnext : digit? c' = none :=
        Option.not_isSome_iff_eq_none.1 (hc hunderscore c' rfl)
      simp [moreDigits, hdigit, hnext]
    · simp [moreDigits, hdigit, hunderscore]

theorem moreDigits_of_stops {cs : List Char} (h : Stops cs) : moreDigits cs = ([], cs) := by
  cases cs with
  | nil => rfl
  | cons c cs =>
    obtain ⟨hdigit, hunderscore⟩ := h c rfl
    exact moreDigits_of_not_digit hdigit fun hc => absurd hc hunderscore

/-- What is read from a digit on are digits. -/
theorem digits_of_moreDigits :
    (c : Char) → (cs : List Char) → IsDigit c →
      ∃ text, Digits text ∧ c :: cs = text ++ (moreDigits (c :: cs)).2
  | c, [], h => by
    obtain ⟨d, hd⟩ := Option.isSome_iff_exists.1 h
    exact ⟨[c], .last h, by rw [moreDigits_digit hd]; rfl⟩
  | c, c' :: cs, h => by
    obtain ⟨d, hd⟩ := Option.isSome_iff_exists.1 h
    rw [moreDigits_digit hd]
    by_cases hnext : IsDigit c'
    · obtain ⟨text, htext, hcs⟩ := digits_of_moreDigits c' cs hnext
      exact ⟨c :: text, .next h htext, congrArg (c :: ·) hcs⟩
    · by_cases hafter : c' = '_' ∧ ∃ c'' ∈ cs.head?, IsDigit c''
      · obtain ⟨rfl, c'', hhead, hdigit⟩ := hafter
        obtain ⟨cs, rfl⟩ := List.head?_eq_some_iff.1 hhead
        obtain ⟨text, htext, hcs⟩ := digits_of_moreDigits c'' cs hdigit
        refine ⟨c :: '_' :: text, .underscore h htext, ?_⟩
        rw [moreDigits_underscore hdigit]
        exact congrArg (c :: '_' :: ·) hcs
      · refine ⟨[c], .last h, ?_⟩
        rw [moreDigits_of_not_digit hnext]
        · rfl
        · exact fun hc c'' hhead hdigit => hafter ⟨hc, c'', hhead, hdigit⟩
termination_by _ cs => cs.length

/-- Digits are read to their end, if the text does not go on with digits. -/
theorem Digits.moreDigits_append {text rest : List Char} (h : Digits text) (hrest : Stops rest) :
    (moreDigits (text ++ rest)).2 = rest := by
  induction h with
  | last hc =>
    obtain ⟨d, hd⟩ := Option.isSome_iff_exists.1 hc
    rw [List.singleton_append, moreDigits_digit hd, moreDigits_of_stops hrest]
  | next hc _ ih =>
    obtain ⟨d, hd⟩ := Option.isSome_iff_exists.1 hc
    rw [List.cons_append, moreDigits_digit hd, ih]
  | underscore hc more ih =>
    obtain ⟨d, hd⟩ := Option.isSome_iff_exists.1 hc
    obtain ⟨c', cs, rfl, hc'⟩ := more.exists_cons
    rw [List.cons_append, List.cons_append, moreDigits_digit hd, List.cons_append,
      moreDigits_underscore hc', ← List.cons_append, ih]

/-- Nothing is read as digits where there is no digit. -/
theorem digitRun_of_not_digit {cs : List Char} (h : ∀ c ∈ cs.head?, ¬ IsDigit c) :
    digitRun cs = ([], cs) := by
  cases cs with
  | nil => rfl
  | cons c cs =>
    have hc : ¬ (digit? c).isSome = true := h c rfl
    rw [digitRun, if_neg hc]

/-- Something is read as digits where there is a digit. -/
theorem digitRun_of_digit {c : Char} (h : IsDigit c) (cs : List Char) :
    (digitRun (c :: cs)).1 ≠ [] ∧ (digitRun (c :: cs)).2 = (moreDigits (c :: cs)).2 := by
  obtain ⟨d, hd⟩ := Option.isSome_iff_exists.1 h
  have hc : (digit? c).isSome = true := h
  rw [digitRun, if_pos hc, moreDigits_digit hd]
  exact ⟨List.cons_ne_nil _ _, rfl⟩

/-- **What is read as digits are digits.** -/
theorem digits_of_digitRun (cs : List Char) :
    digitRun cs = ([], cs) ∨
      (digitRun cs).1 ≠ [] ∧ ∃ text, Digits text ∧ cs = text ++ (digitRun cs).2 := by
  by_cases h : ∀ c ∈ cs.head?, ¬ IsDigit c
  · exact .inl (digitRun_of_not_digit h)
  · obtain ⟨c, hhead, hc⟩ : ∃ c ∈ cs.head?, IsDigit c := by simpa using h
    obtain ⟨cs, rfl⟩ := List.head?_eq_some_iff.1 hhead
    obtain ⟨hsome, hrest⟩ := digitRun_of_digit hc cs
    rw [hrest]
    exact .inr ⟨hsome, digits_of_moreDigits c cs hc⟩

/-- **Digits are read as digits**, and to their end if the text does not go on with digits. -/
theorem digitRun_append {text rest : List Char} (h : Digits text) (hrest : Stops rest) :
    (digitRun (text ++ rest)).1 ≠ [] ∧ (digitRun (text ++ rest)).2 = rest := by
  obtain ⟨c, cs, rfl, hc⟩ := h.exists_cons
  obtain ⟨hsome, hread⟩ := digitRun_of_digit hc (cs ++ rest)
  exact ⟨hsome, hread.trans (h.moreDigits_append hrest)⟩

/-! ## Sign and exponent -/

/-- A text that does not begin with a sign. -/
def Unsigned (cs : List Char) : Prop := ∀ c ∈ cs.head?, c ≠ '+' ∧ c ≠ '-'

theorem exists_sign (cs : List Char) : ∃ s, Sign s ∧ cs = s ++ (sign cs).2 := by
  unfold sign
  split
  · exact ⟨['-'], .minus, rfl⟩
  · exact ⟨['+'], .plus, rfl⟩
  · exact ⟨[], .none, rfl⟩

theorem sign_of_unsigned {cs : List Char} (h : Unsigned cs) : sign cs = (false, cs) := by
  unfold sign
  split
  · exact absurd rfl (h _ rfl).2
  · exact absurd rfl (h _ rfl).1
  · rfl

theorem sign_append {s rest : List Char} (h : Sign s) (hrest : Unsigned rest) :
    (sign (s ++ rest)).2 = rest := by
  cases h with
  | plus | minus => rfl
  | none => rw [List.nil_append, sign_of_unsigned hrest]

theorem Digits.unsigned_append {text : List Char} (h : Digits text) (rest : List Char) :
    Unsigned (text ++ rest) := by
  obtain ⟨c, cs, rfl, hc⟩ := h.exists_cons
  rintro _ ⟨⟩
  constructor
  · rintro rfl
    exact absurd hc (by decide)
  · rintro rfl
    exact absurd hc (by decide)

theorem isSome_exponent?_cons {e : Char} {cs : List Char} :
    (exponent? digitRun (e :: cs)).isSome ↔
      (e = 'e' ∨ e = 'E') ∧ (digitRun (sign cs).2).1 ≠ [] ∧ (digitRun (sign cs).2).2 = [] := by
  unfold exponent?
  by_cases he : e = 'e' ∨ e = 'E' <;> simp [he]

/-- **What is read as an exponent is one.** -/
theorem isSome_exponent?_iff {cs : List Char} :
    (exponent? digitRun cs).isSome ↔ Exponent cs := by
  constructor
  · intro h
    cases cs with
    | nil => exact .none
    | cons e cs =>
      obtain ⟨he, hsome, hrest⟩ := isSome_exponent?_cons.1 h
      obtain ⟨s, hs, hcs⟩ := exists_sign cs
      rcases digits_of_digitRun (sign cs).2 with hnone | ⟨-, text, htext, hread⟩
      · rw [hnone] at hsome
        exact absurd rfl hsome
      · rw [hrest, List.append_nil] at hread
        rw [hcs, hread]
        exact .given he hs htext
  · rintro (_ | ⟨he, hs, hds⟩)
    · rfl
    · rename_i e s ds
      have hsign := sign_append hs (hds.unsigned_append [])
      have hread := digitRun_append hds stops_nil
      rw [List.append_nil] at hsign hread
      rw [isSome_exponent?_cons, hsign]
      exact ⟨he, hread⟩

/-- What may follow the digits before it does not go on with digits. -/
theorem Exponent.stops {cs : List Char} (h : Exponent cs) : Stops cs := by
  cases h with
  | none => exact stops_nil
  | given he =>
    rcases he with rfl | rfl
    · exact stops_cons (by decide) (by decide)
    · exact stops_cons (by decide) (by decide)

/-! ## Decimal numbers -/

theorem fraction_point (cs : List Char) : fraction digitRun ('.' :: cs) = digitRun cs := rfl

theorem fraction_of_ne {cs : List Char} (h : ∀ c ∈ cs.head?, c ≠ '.') :
    fraction digitRun cs = ([], cs) := by
  unfold fraction
  split
  · exact absurd rfl (h '.' rfl)
  · rfl

theorem Exponent.fraction_eq {cs : List Char} (h : Exponent cs) :
    fraction digitRun cs = ([], cs) := by
  refine fraction_of_ne ?_
  cases h with
  | none => exact nofun
  | given he =>
    rintro _ ⟨⟩
    rcases he with rfl | rfl <;> decide

/-- Of a text the digits before a point are read, and those after it; there have to be some. -/
def ReadsMantissa (cs rest : List Char) : Prop :=
  ((digitRun cs).1 ≠ [] ∨ (fraction digitRun (digitRun cs).2).1 ≠ []) ∧
    (fraction digitRun (digitRun cs).2).2 = rest

/-- A mantissa is read to its end, whatever exponent follows. -/
theorem Mantissa.reads {m e : List Char} (hm : Mantissa m) (he : Exponent e) :
    ReadsMantissa (m ++ e) e := by
  have hpoint (cs : List Char) : Stops ('.' :: cs) := stops_cons (by decide) (by decide)
  have hnone : digitRun e = ([], e) := digitRun_of_not_digit fun c hc => (he.stops c hc).1
  unfold ReadsMantissa
  cases hm with
  | whole hds =>
    obtain ⟨hsome, hrest⟩ := digitRun_append hds he.stops
    rw [hrest, he.fraction_eq]
    exact ⟨.inl hsome, rfl⟩
  | pointed hds =>
    rw [List.append_assoc, List.singleton_append]
    obtain ⟨hsome, hrest⟩ := digitRun_append hds (hpoint e)
    rw [hrest, fraction_point, hnone]
    exact ⟨.inl hsome, rfl⟩
  | part hps =>
    obtain ⟨hsome, hrest⟩ := digitRun_append hps he.stops
    rw [List.cons_append, digitRun_of_not_digit fun c hc => (hpoint _ c hc).1, fraction_point]
    exact ⟨.inr hsome, hrest⟩
  | both hds hps =>
    rename_i ds ps
    rw [List.append_assoc, List.cons_append]
    obtain ⟨hsome, hrest⟩ := digitRun_append hds (hpoint (ps ++ e))
    rw [hrest, fraction_point]
    exact ⟨.inl hsome, (digitRun_append hps he.stops).2⟩

/-- What is read as a mantissa is one. -/
theorem exists_mantissa {cs rest : List Char} (h : ReadsMantissa cs rest) :
    ∃ m, Mantissa m ∧ cs = m ++ rest := by
  obtain ⟨hsome, rfl⟩ := h
  rcases digits_of_digitRun cs with hnone | ⟨-, ds, hds, hcs⟩
  · rw [hnone] at hsome ⊢
    by_cases hpoint : ∀ c ∈ cs.head?, c ≠ '.'
    · rw [fraction_of_ne hpoint] at hsome
      simp at hsome
    · obtain ⟨cs, rfl⟩ : ∃ cs', cs = '.' :: cs' := by
        simpa [List.head?_eq_some_iff] using hpoint
      rcases digits_of_digitRun cs with hnone | ⟨-, ps, hps, hcs⟩
      · rw [fraction_point, hnone] at hsome
        simp at hsome
      · exact ⟨'.' :: ps, .part hps, congrArg ('.' :: ·) hcs⟩
  · generalize (digitRun cs).2 = rest at hcs
    subst hcs
    by_cases hpoint : ∀ c ∈ rest.head?, c ≠ '.'
    · rw [fraction_of_ne hpoint]
      exact ⟨ds, .whole hds, rfl⟩
    · obtain ⟨rest, rfl⟩ : ∃ rest', rest = '.' :: rest' := by
        simpa [List.head?_eq_some_iff] using hpoint
      rw [fraction_point]
      rcases digits_of_digitRun rest with hnone | ⟨-, ps, hps, hrest⟩
      · refine ⟨ds ++ ['.'], .pointed hds, ?_⟩
        rw [hnone, List.append_assoc]
        rfl
      · refine ⟨ds ++ '.' :: ps, .both hds hps, ?_⟩
        rw [List.append_assoc]
        exact congrArg (ds ++ '.' :: ·) hrest

/-! ## Words -/

theorem isSome_special?_iff {negative : Bool} {cs : List Char} :
    (special? negative cs).isSome ↔ Word cs := by
  have hword (s : String) : String.ofList (cs.map Char.toLower) = s ↔
      cs.map Char.toLower = s.toList := by
    rw [← String.toList_inj, String.toList_ofList]
  have hwords : Word cs ↔ (cs.map Char.toLower = "inf".toList ∨
      cs.map Char.toLower = "infinity".toList) ∨ cs.map Char.toLower = "nan".toList := by
    simp only [Word, List.mem_cons, List.not_mem_nil, or_false, or_assoc]
  unfold special?
  simp only [hword, hwords]
  split
  · rename_i h
    exact ⟨fun _ => .inl h, fun _ => rfl⟩
  · rename_i h
    split
    · rename_i hnan
      exact ⟨fun _ => .inr hnan, fun _ => rfl⟩
    · rename_i hnan
      exact ⟨nofun, fun h' => absurd h' (not_or.2 ⟨h, hnan⟩)⟩

theorem toLower_eq_or (c : Char) : c.toLower = c ∨ 65 ≤ c.toNat ∧ c.toNat ≤ 90 := by
  unfold Char.toLower
  split
  · rename_i h
    exact .inr ⟨UInt32.le_iff_toNat_le.1 h.1, UInt32.le_iff_toNat_le.1 h.2⟩
  · exact .inl rfl

/-- What a word is made of are letters. -/
theorem Word.isLetter {cs : List Char} (h : Word cs) : ∀ c ∈ cs, 65 ≤ c.toNat ∧ c.toNat ≤ 122 := by
  intro c hc
  have hletters : ∀ w ∈ ["inf".toList, "infinity".toList, "nan".toList],
      ∀ l ∈ w, 97 ≤ l.toNat ∧ l.toNat ≤ 122 := by simp
  rcases toLower_eq_or c with hlower | hupper
  · have hmem := hletters _ h _ (List.mem_map_of_mem hc)
    rw [hlower] at hmem
    omega
  · omega

theorem Word.unsigned {cs : List Char} (h : Word cs) : Unsigned cs := by
  intro c hc
  have hletter := h.isLetter c (List.mem_of_mem_head? hc)
  constructor
  · rintro rfl
    exact absurd hletter (by decide)
  · rintro rfl
    exact absurd hletter (by decide)

/-! ## Numerals -/

theorem Mantissa.unsigned_append {m : List Char} (h : Mantissa m) (rest : List Char) :
    Unsigned (m ++ rest) := by
  cases h with
  | whole hds => exact hds.unsigned_append rest
  | pointed hds =>
    rw [List.append_assoc]
    exact hds.unsigned_append _
  | part hps =>
    rintro _ ⟨⟩
    decide
  | both hds hps =>
    rw [List.append_assoc]
    exact hds.unsigned_append _

theorem isSome_realWith?_sign {cs : List Char} :
    (realWith? digitRun cs).isSome ↔
      Word (sign cs).2 ∨ ∃ rest, ReadsMantissa (sign cs).2 rest ∧ Exponent rest := by
  rw [← @isSome_special?_iff (sign cs).1]
  have hsome : (∃ rest, ReadsMantissa (sign cs).2 rest ∧ Exponent rest) ↔
      ((digitRun (sign cs).2).1 ≠ [] ∨ (fraction digitRun (digitRun (sign cs).2).2).1 ≠ []) ∧
        (exponent? digitRun (fraction digitRun (digitRun (sign cs).2).2).2).isSome := by
    simp only [ReadsMantissa, isSome_exponent?_iff]
    exact ⟨fun ⟨_, ⟨hread, hrest⟩, he⟩ => ⟨hread, hrest ▸ he⟩, fun h => ⟨_, ⟨h.1, rfl⟩, h.2⟩⟩
  rw [hsome]
  unfold realWith?
  cases hspecial : special? (sign cs).1 (sign cs).2 with
  | some x => simp [hspecial]
  | none =>
    by_cases hnone : (digitRun (sign cs).2).1 = [] ∧
        (fraction digitRun (digitRun (sign cs).2).2).1 = []
    · simp [hspecial, hnone]
    · have hread := not_and_or.1 hnone
      simp [hspecial, hnone, hread]

/-- **The numerals that are read are those of the grammar.** -/
theorem isSome_realWith?_iff {cs : List Char} : (realWith? digitRun cs).isSome ↔ Real cs := by
  rw [isSome_realWith?_sign]
  constructor
  · obtain ⟨s, hs, hcs⟩ := exists_sign cs
    rintro (hword | ⟨e, hread, he⟩)
    · rw [hcs]
      exact .word hs hword
    · obtain ⟨m, hm, hunsigned⟩ := exists_mantissa hread
      rw [hcs, hunsigned]
      exact .decimal hs hm he
  · rintro (⟨hs, hword⟩ | ⟨hs, hm, he⟩)
    · rw [sign_append hs hword.unsigned]
      exact .inl hword
    · rename_i s m e
      rw [sign_append hs (hm.unsigned_append e)]
      exact .inr ⟨e, hm.reads he, he⟩

/-! ## White space around a numeral -/

/-- What a numeral is made of: digits, and characters between the plus and the last letter. -/
def IsPlain (c : Char) : Prop := IsDigit c ∨ 43 ≤ c.toNat ∧ c.toNat ≤ 122

theorem IsPlain.not_isWhiteSpace {c : Char} (h : IsPlain c) : ¬ isWhiteSpace c := by
  intro hspace
  -- no white space lies among the ten digits of a script
  have hzeros : ∀ z ∈ zeros, 0x20 < z ∧ (z + 9 < 0x85 ∨ 0xa0 < z) ∧
      (z + 9 < 0x1680 ∨ 0x1680 < z) ∧ (z + 9 < 0x2000 ∨ 0x205f < z) ∧
      (z + 9 < 0x3000 ∨ 0x3000 < z) := by decide
  simp only [isWhiteSpace, Bool.or_eq_true, Bool.and_eq_true, decide_eq_true_eq, beq_iff_eq]
    at hspace
  rcases h with hdigit | hplain
  · obtain ⟨d, hd⟩ := Option.isSome_iff_exists.1 hdigit
    obtain ⟨z, hz, -⟩ := Option.map_eq_some_iff.1 hd
    have hbetween : z ≤ c.toNat ∧ c.toNat < z + 10 := by simpa using List.find?_some hz
    have hzero := hzeros z (List.mem_of_find?_eq_some hz)
    omega
  · omega

theorem Digits.isPlain {cs : List Char} (h : Digits cs) : ∀ c ∈ cs, IsPlain c := by
  induction h with
  | last hc => exact List.forall_mem_singleton.2 (.inl hc)
  | next hc _ ih => exact List.forall_mem_cons.2 ⟨.inl hc, ih⟩
  | underscore hc _ ih =>
    exact List.forall_mem_cons.2 ⟨.inl hc, List.forall_mem_cons.2 ⟨.inr (by decide), ih⟩⟩

theorem Sign.isPlain {cs : List Char} (h : Sign cs) : ∀ c ∈ cs, IsPlain c := by
  cases h with
  | none => exact nofun
  | plus | minus => exact List.forall_mem_singleton.2 (.inr (by decide))

theorem Mantissa.isPlain {cs : List Char} (h : Mantissa cs) : ∀ c ∈ cs, IsPlain c := by
  have hpoint : IsPlain '.' := .inr (by decide)
  cases h with
  | whole hds => exact hds.isPlain
  | pointed hds =>
    exact List.forall_mem_append.2 ⟨hds.isPlain, List.forall_mem_singleton.2 hpoint⟩
  | part hps => exact List.forall_mem_cons.2 ⟨hpoint, hps.isPlain⟩
  | both hds hps =>
    exact List.forall_mem_append.2 ⟨hds.isPlain, List.forall_mem_cons.2 ⟨hpoint, hps.isPlain⟩⟩

theorem Exponent.isPlain {cs : List Char} (h : Exponent cs) : ∀ c ∈ cs, IsPlain c := by
  cases h with
  | none => exact nofun
  | given he hs hds =>
    refine List.forall_mem_cons.2 ⟨.inr ?_, List.forall_mem_append.2 ⟨hs.isPlain, hds.isPlain⟩⟩
    rcases he with rfl | rfl <;> decide

theorem Real.isPlain {cs : List Char} (h : Real cs) : ∀ c ∈ cs, IsPlain c := by
  cases h with
  | word hs hword =>
    refine List.forall_mem_append.2 ⟨hs.isPlain, fun c hc => .inr ?_⟩
    have hletter := hword.isLetter c hc
    omega
  | decimal hs hm he =>
    exact List.forall_mem_append.2 ⟨hs.isPlain, List.forall_mem_append.2 ⟨hm.isPlain, he.isPlain⟩⟩

/-- **The texts that are read as numbers are those of the grammar**, with white space around. -/
theorem isSome_real?_iff {cs : List Char} : (real? cs).isSome ↔ Written cs := by
  unfold real?
  rw [isSome_realWith?_iff]
  constructor
  · intro h
    obtain ⟨before, after, hcs, hbefore, hafter⟩ := exists_trim isWhiteSpace cs
    exact ⟨before, _, after, hcs, hbefore, hafter, h⟩
  · rintro ⟨before, text, after, rfl, hbefore, hafter, h⟩
    rw [trim_append hbefore hafter (.of_forall fun c hc => (h.isPlain c hc).not_isWhiteSpace)]
    exact h

end Numeral

end FacetedSearch
