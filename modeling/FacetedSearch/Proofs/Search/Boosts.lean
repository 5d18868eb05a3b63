import FacetedSearch.Proofs.Json.Members
import FacetedSearch.Proofs.Number.Value
import FacetedSearch.Proofs.Text.Decimal
import FacetedSearch.Search.Body

/-!
# Boosted fields in free text

Free text is searched for in fields, each of them named with its boost if it has one.  What is sent
for a field tells its name and, if the boost is a whole number, the exact boost, however large.

* `BoostField.IsBoosted`, `BoostField.HasWholeBoost` — boosts that are sent, and boosts that can be
  read off what is sent.
* `BoostField.Rendered` — what an entry tells of its field, and `BoostField.Rendered.unique`, that a
  whole boost is told in full.
* `BoostField.rendered_term` — what is sent for a field.
* `Settings.freeText_boosts` — what is sent for a list of fields.
-/

set_option autoImplicit false

namespace FacetedSearch

namespace BoostField

variable {b b' : BoostField} {entry : String} {x : Double} {n : Nat}

/-- The boost is a number above zero, or infinite. -/
def IsBoosted (b : BoostField) : Prop :=
  ∃ x v, b.boost = some x ∧ x.number? = some v ∧ v.IsPositive

/-- There is no boost, or it is a whole number above zero. -/
def HasWholeBoost (b : BoostField) : Prop :=
  b.boost = none ∨ ∃ (x : Double) (n : Nat), b.boost = some x ∧ x.number? = some (.finite n) ∧ 0 < n

/-- What comes after the first `^`. -/
def suffix (entry : String) : List Char := (entry.toList.dropWhile (· ≠ '^')).tail

/-- What an entry tells of its field. -/
structure Rendered (b : BoostField) (entry : String) : Prop where
  name : entry.toList.takeWhile (· ≠ '^') = b.field.toList
  marked : '^' ∈ entry.toList ↔ b.IsBoosted
  bare : ¬ b.IsBoosted → entry = b.field
  whole : ∀ (x : Double) (n : Nat), b.boost = some x → x.number? = some (.finite n) → 0 < n →
    Text.IsDecimal (suffix entry) n ∧ Numeral.integer? (suffix entry) = some (n : Int)

theorem isBoosted_iff : b.IsBoosted ↔ ∃ x, b.boost = some x ∧ x.isPositive = true := by
  simp only [IsBoosted, Double.isPositive_iff]
  exact ⟨fun ⟨x, v, hx, hv⟩ => ⟨x, hx, v, hv⟩, fun ⟨x, hx, v, hv⟩ => ⟨x, v, hx, hv⟩⟩

theorem isBoosted_of_whole (hx : b.boost = some x) (hn : x.number? = some (.finite n))
    (hpos : 0 < n) : b.IsBoosted :=
  ⟨x, _, hx, hn, Nat.cast_pos.2 hpos⟩

/-- **An entry tells its field in full**, if the boost is whole. -/
theorem Rendered.unique (h : b.Rendered entry) (h' : b'.Rendered entry) (hb : b.HasWholeBoost)
    (hb' : b'.HasWholeBoost) : b = b' := by
  have hfield : b.field = b'.field := String.toList_inj.1 (h.name.symm.trans h'.name)
  have hmarked : b.IsBoosted ↔ b'.IsBoosted := h.marked.symm.trans h'.marked
  have hboost : b.boost = b'.boost := by
    rcases hb with hnone | ⟨x, n, hx, hn, hpos⟩ <;> rcases hb' with hnone' | ⟨y, m, hy, hm, hpos'⟩
    · exact hnone.trans hnone'.symm
    · obtain ⟨z, -, hz, -⟩ := hmarked.2 (isBoosted_of_whole hy hm hpos')
      rw [hnone] at hz
      cases hz
    · obtain ⟨z, -, hz, -⟩ := hmarked.1 (isBoosted_of_whole hx hn hpos)
      rw [hnone'] at hz
      cases hz
    · have hread := (h.whole x n hx hn hpos).2.symm.trans (h'.whole y m hy hm hpos').2
      obtain rfl : n = m := Int.ofNat.inj (Option.some.inj hread)
      rcases Double.eq_or_zeros_of_number? hn hm with rfl | ⟨hzero, -⟩
      · exact hx.trans hy.symm
      · -- a zero is not above zero
        rw [Double.isZero_iff, hn] at hzero
        simp only [Option.some.injEq, Number.finite.injEq, Nat.cast_eq_zero] at hzero
        omega
  cases b
  cases b'
  congr

/-! ## What is sent -/

theorem toList_term_of_boosted (hx : b.boost = some x) (hpositive : x.isPositive = true) :
    b.term.toList = b.field.toList ++ '^' :: (boostText x).toList := by
  unfold term
  rw [hx]
  dsimp only
  rw [if_pos hpositive]
  simp

theorem term_of_not_boosted (h : ¬ b.IsBoosted) : b.term = b.field := by
  unfold term
  cases hx : b.boost with
  | none => rfl
  | some x => exact if_neg fun hpositive => h (isBoosted_iff.2 ⟨x, hx, hpositive⟩)

/-- A whole boost is written in decimal. -/
theorem toList_boostText (h : x.number? = some (.finite n)) :
    (boostText x).toList = Nat.toDigits 10 n := by
  have hint : x.toInt? = some (n : Int) := Double.toInt?_eq_some_iff.2 h
  unfold boostText
  rw [hint]
  exact Nat.toList_repr

/-- No whole boost has more digits than are read. -/
theorem length_toDigits_le (h : x.number? = some (.finite n)) :
    (Nat.toDigits 10 n).length ≤ Numeral.digitLimit := by
  rw [Nat.length_toDigits_le_iff (by decide) (by decide)]
  have hlt : (n : ℚ) < (2 ^ 1024 : Nat) := by
    rw [Nat.cast_pow, Nat.cast_ofNat]
    exact Double.lt_of_number? h
  have hpow {k l : Nat} (hkl : k ≤ l) : 2 ^ k ≤ 10 ^ l :=
    (Nat.pow_le_pow_left (by decide) k).trans (Nat.pow_le_pow_right (by decide) hkl)
  exact (Nat.cast_lt.1 hlt).trans_le (hpow (by decide))

theorem forall_ne_mark {name : List Char} (h : '^' ∉ name) :
    ∀ c ∈ name, decide (c ≠ '^') = true :=
  fun _ hc => decide_eq_true fun heq => h (heq ▸ hc)

/-- The first `^` is the one after the name. -/
theorem cut_at_mark {name : List Char} (h : '^' ∉ name) (rest : List Char) :
    (name ++ '^' :: rest).takeWhile (· ≠ '^') = name ∧
      (name ++ '^' :: rest).dropWhile (· ≠ '^') = '^' :: rest := by
  have hname := forall_ne_mark h
  constructor
  · rw [List.takeWhile_append_of_pos hname, List.takeWhile_cons_of_neg (by simp), List.append_nil]
  · rw [List.dropWhile_append_of_pos hname, List.dropWhile_cons_of_neg (by simp)]

/-- What is sent for a field tells its name, and its boost if it is whole. -/
theorem rendered_term (h : '^' ∉ b.field.toList) : b.Rendered b.term := by
  by_cases hboosted : b.IsBoosted
  · obtain ⟨x, hx, hpositive⟩ := isBoosted_iff.1 hboosted
    have hterm := toList_term_of_boosted hx hpositive
    obtain ⟨hname, hsuffix⟩ := cut_at_mark h (boostText x).toList
    refine ⟨?_, ?_, fun hnot => absurd hboosted hnot, fun y n hy hn hpos => ?_⟩
    · rw [hterm, hname]
    · rw [hterm]
      exact iff_of_true (by simp) hboosted
    · obtain rfl : x = y := Option.some.inj (hx.symm.trans hy)
      have hdigits : suffix b.term = Nat.toDigits 10 n := by
        rw [suffix, hterm, hsuffix, List.tail_cons, toList_boostText hn]
      have hdecimal := Text.isDecimal_toDigits n
      rw [hdigits]
      exact ⟨hdecimal,
        (Numeral.integer?_of_isDecimal hdecimal).trans (if_pos (length_toDigits_le hn))⟩
  · rw [term_of_not_boosted hboosted]
    refine ⟨List.takeWhile_eq_self_iff.2 (forall_ne_mark h), iff_of_false h hboosted,
      fun _ => rfl, ?_⟩
    exact fun x n hx hn hpos => absurd (isBoosted_of_whole hx hn hpos) hboosted

end BoostField

/-! ## Lists of fields -/

/-- What is one by one sent alike for two lists is sent for one list. -/
theorem BoostField.eq_of_map_term {bs bs' : List BoostField}
    (h : ∀ b ∈ bs, '^' ∉ b.field.toList ∧ b.HasWholeBoost)
    (h' : ∀ b ∈ bs', '^' ∉ b.field.toList ∧ b.HasWholeBoost)
    (heq : bs.map term = bs'.map term) : bs = bs' := by
  induction bs generalizing bs' with
  | nil => exact (List.map_eq_nil_iff.1 heq.symm).symm
  | cons b bs ih =>
    cases bs' with
    | nil => cases heq
    | cons b' bs' =>
      obtain ⟨hb, hbs⟩ := List.forall_mem_cons.1 h
      obtain ⟨hb', hbs'⟩ := List.forall_mem_cons.1 h'
      obtain ⟨hfirst, hothers⟩ := List.cons.inj heq
      have hsame : b = b' :=
        (rendered_term hb.1).unique (hfirst ▸ rendered_term hb'.1) hb.2 hb'.2
      rw [hsame, ih hbs hbs' hothers]

/-- **Boosts are sent without loss.**  The fields are named one by one and in order, unless there
are none, in which case nothing is said of fields.  The name is followed by `^` and the boost exactly
when the boost is above zero, and a boost that is whole is written in decimal, so that it is read
back as it was.  Two lists without other boosts are only named alike if they are the same. -/
theorem Settings.freeText_boosts (s : Settings) (text : Json) (bs : List BoostField)
    (hbs : ∀ b ∈ bs, '^' ∉ b.field.toList) :
    (∃ body, (s.freeText text bs).toJson = .obj [("query_string", .obj body)] ∧
      body.lookup "fields" =
        if bs = [] then none else some (.arr (bs.map fun b => .str b.term))) ∧
    (∀ b ∈ bs, b.Rendered b.term) ∧
    ∀ bs' : List BoostField, (∀ b ∈ bs', '^' ∉ b.field.toList) →
      (∀ b ∈ bs ++ bs', b.HasWholeBoost) →
      bs.map BoostField.term = bs'.map BoostField.term → bs = bs' := by
  refine ⟨⟨_, rfl, ?_⟩, fun b hb => BoostField.rendered_term (hbs b hb),
    fun bs' hbs' hwhole heq => ?_⟩
  · cases bs with
    | nil => rfl
    | cons b bs =>
      rw [if_neg (List.cons_ne_nil b bs), List.map_map]
      rfl
  · obtain ⟨hleft, hright⟩ := List.forall_mem_append.1 hwhole
    exact BoostField.eq_of_map_term (fun b hb => ⟨hbs b hb, hleft b hb⟩)
      (fun b hb => ⟨hbs' b hb, hright b hb⟩) heq

/-- The number nearest to a one and twenty-three zeros is sent digit by digit. -/
theorem Settings.freeText_boosts_large :
    let bs : List BoostField := [⟨"title", some (.ofDecimal false 1 23)⟩, ⟨"body", none⟩]
    let bs' : List BoostField :=
      [⟨"title", some (.ofInt 99999999999999991611392)⟩, ⟨"body", none⟩]
    (∃ body, (standard.freeText (.str "tent") bs).toJson = .obj [("query_string", .obj body)] ∧
      body.lookup "fields" = some (.arr [.str "title^99999999999999991611392", .str "body"])) ∧
    (∀ b ∈ bs, b.Rendered b.term) ∧ bs = bs' := by
  intro bs bs'
  have hnames : ∀ b ∈ bs, '^' ∉ b.field.toList := by decide
  have hnames' : ∀ b ∈ bs', '^' ∉ b.field.toList := by decide
  have hint (x : Double) (hx : x.toInt? = some 99999999999999991611392) (field : String) :
      BoostField.HasWholeBoost ⟨field, some x⟩ :=
    .inr ⟨x, 99999999999999991611392, rfl, Double.toInt?_eq_some_iff.1 hx, by decide⟩
  have hwhole : ∀ b ∈ bs ++ bs', b.HasWholeBoost := by
    have hread := hint (.ofDecimal false 1 23) (by decide +kernel) "title"
    have hread' := hint (.ofInt 99999999999999991611392) (by decide +kernel) "title"
    have hbare : BoostField.HasWholeBoost ⟨"body", none⟩ := .inl rfl
    simp [bs, bs', hread, hread', hbare]
  have hterms : bs.map BoostField.term = bs'.map BoostField.term := by decide +kernel
  obtain ⟨⟨body, hjson, hfields⟩, hrendered, hsame⟩ :=
    freeText_boosts standard (.str "tent") bs hnames
  refine ⟨⟨body, hjson, hfields.trans ?_⟩, hrendered, hsame bs' hnames' hwhole hterms⟩
  decide +kernel

end FacetedSearch
