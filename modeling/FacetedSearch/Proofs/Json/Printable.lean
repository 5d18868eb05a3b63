import FacetedSearch.Json.Reader
import FacetedSearch.Json.Text
import FacetedSearch.Proofs.Json.Members
import FacetedSearch.Proofs.Outcome
import FacetedSearch.Proofs.Text.Decimal

/-!
# Values that can be written

A value has a text unless an integer in it is too long.  No such integer comes out of JSON text: a
reader that takes no more digits than can be written gives values that can be written, whatever they
are put together from.

* `Numeral.isWritable_iff` — the integers that can be written.
* `Json.exists_text_iff`, `Json.text_of_not_isPrintable` — the values that have a text.
* `Json.isPrintable_of_read` — what is read from JSON text can be written.
-/

set_option autoImplicit false

namespace FacetedSearch

/-! ## Integers -/

namespace Numeral

theorem isWritable_iff {n : Int} : isWritable n ↔ n.natAbs < 10 ^ digitLimit := by
  rw [isWritable, decide_eq_true_iff]
  exact Nat.length_toDigits_le_iff (by decide) (by decide)

/-- The least integer that cannot be written. -/
theorem not_isWritable_pow : ¬ isWritable (10 ^ 4300 : Nat) := by
  rw [isWritable_iff, Int.natAbs_natCast, digitLimit]
  exact lt_irrefl _

/-- Digits stand for a number with no more digits. -/
theorem foldl_digits_lt {ds : List Nat} (h : ∀ d ∈ ds, d < 10) (n : Nat) :
    ds.foldl (fun n d => 10 * n + d) n < (n + 1) * 10 ^ ds.length := by
  induction ds generalizing n with
  | nil => simp
  | cons d ds ih =>
    obtain ⟨hd, hds⟩ := List.forall_mem_cons.1 h
    calc ds.foldl (fun n d => 10 * n + d) (10 * n + d)
        < (10 * n + d + 1) * 10 ^ ds.length := ih hds _
      _ ≤ ((n + 1) * 10) * 10 ^ ds.length := Nat.mul_le_mul_right _ (by omega)
      _ = (n + 1) * 10 ^ (d :: ds).length := by
        rw [List.length_cons, Nat.pow_succ', Nat.mul_assoc]

theorem ofDigits_lt {ds : List Nat} (h : ∀ d ∈ ds, d < 10) : ofDigits ds < 10 ^ ds.length := by
  have hlt := foldl_digits_lt h 0
  rwa [Nat.zero_add, Nat.one_mul] at hlt

/-- A number of so few digits can be written, with either sign. -/
theorem isWritable_signed (negative : Bool) {ds : List Nat} (h : ∀ d ∈ ds, d < 10)
    (hlength : ds.length ≤ digitLimit) : isWritable (Double.signed negative (ofDigits ds)) := by
  have habs : (Double.signed negative (ofDigits ds)).natAbs = ofDigits ds := by
    cases negative <;> simp [Double.signed]
  rw [isWritable_iff, habs]
  exact (ofDigits_lt h).trans_le (Nat.pow_le_pow_right (by decide) hlength)

end Numeral

namespace Text

theorem lt_of_asciiDigit? {c : Char} {d : Nat} (h : asciiDigit? c = some d) : d < 10 := by
  unfold asciiDigit? at h
  split at h
  · cases h
    omega
  · cases h

theorem asciiDigits_lt (cs : List Char) : ∀ d ∈ (asciiDigits cs).1, d < 10 := by
  intro d hd
  obtain ⟨c, -, hc⟩ := List.mem_filterMap.1 hd
  exact lt_of_asciiDigit? hc

end Text

namespace Json

/-! ## Values that have a text -/

theorem arePrintable_iff {xs : List Json} : arePrintable xs ↔ ∀ x ∈ xs, x.isPrintable := by
  induction xs with
  | nil => simp [arePrintable]
  | cons x xs ih => rw [arePrintable, Bool.and_eq_true_iff, ih, List.forall_mem_cons]

theorem membersArePrintable_iff {ms : Members} :
    membersArePrintable ms ↔ ∀ m ∈ ms, m.2.isPrintable := by
  induction ms with
  | nil => simp [membersArePrintable]
  | cons m ms ih => rw [membersArePrintable, Bool.and_eq_true_iff, ih, List.forall_mem_cons]

theorem text_of_not_isPrintable {x : Json} (h : ¬ x.isPrintable) : x.text = .error .value := by
  cases x with
  | null | bool | float | str => exact absurd rfl h
  | int | arr | obj => exact if_neg h

/-- A value has a text when it can be written. -/
theorem exists_text_iff {x : Json} : (∃ s, x.text = .ok s) ↔ x.isPrintable := by
  constructor
  · rintro ⟨s, hs⟩
    by_contra h
    rw [text_of_not_isPrintable h] at hs
    cases hs
  · intro h
    have hquoted : x.quoted = .ok x.shown := if_pos h
    cases x with
    | str s => exact ⟨s, rfl⟩
    | null | bool | int | float | arr | obj => exact ⟨_, hquoted⟩

/-! ## What is read from JSON text -/

section Reader

variable {limits : Limits} {cs rest : List Char} {x : Json}

theorem readWhole_lt (cs : List Char) : ∀ d ∈ (readWhole cs).1, d < 10 := by
  unfold readWhole
  split
  · exact List.forall_mem_singleton.2 (by decide)
  · exact Text.asciiDigits_lt _

theorem isPrintable_of_readNumber (hlimits : limits.digits ≤ Numeral.digitLimit)
    (h : readNumber limits cs = .ok (x, rest)) : x.isPrintable := by
  unfold readNumber at h
  dsimp only at h
  split at h
  · cases h
  · split at h
    · split at h
      · cases h
      · next hlength =>
        cases h
        exact Numeral.isWritable_signed _ (readWhole_lt _) ((Nat.not_lt.1 hlength).trans hlimits)
    · cases h
      rfl

theorem isPrintable_of_readAtom (hlimits : limits.digits ≤ Numeral.digitLimit)
    (h : readAtom limits cs = .ok (x, rest)) : x.isPrintable := by
  unfold readAtom at h
  split at h
  · next found hfound =>
    cases h
    obtain ⟨⟨word, value⟩, hword, hafter⟩ := List.exists_of_findSome?_eq_some hfound
    obtain ⟨_, -, hvalue⟩ := Option.map_eq_some_iff.1 hafter
    cases hvalue
    have hwords : ∀ w ∈ words, w.2.isPrintable := by
      simp [words, isPrintable]
    exact hwords _ hword
  · exact isPrintable_of_readNumber hlimits h

/-- Of members given more than once the last one is kept.  All that are kept can be written if all
that were given can. -/
theorem membersArePrintable_ofList {ms : Members} (h : ∀ m ∈ ms, m.2.isPrintable) :
    ∀ m ∈ Members.ofList ms, m.2.isPrintable := by
  have hfold (acc : Members) (hacc : ∀ m ∈ acc, m.2.isPrintable) :
      ∀ m ∈ ms.foldl (fun acc m => Members.insert m.1 m.2 acc) acc, m.2.isPrintable := by
    induction ms generalizing acc with
    | nil => exact hacc
    | cons n ms ih =>
      obtain ⟨hn, hms⟩ := List.forall_mem_cons.1 h
      refine ih hms _ fun m hm => ?_
      rcases Members.mem_of_mem_insert hm with rfl | hm
      · exact hn
      · exact hacc m hm
  exact hfold [] (List.forall_mem_nil _)

/-- Whatever a reader of values, items or members gives can be written, if what it was given can. -/
theorem isPrintable_of_readers (hlimits : limits.digits ≤ Numeral.digitLimit) (n : Nat) :
    (∀ depth cs x rest, readValue limits n depth cs = .ok (x, rest) → x.isPrintable) ∧
    (∀ depth acc cs x rest, (∀ y ∈ acc, y.isPrintable) →
      readItems limits n depth acc cs = .ok (x, rest) → x.isPrintable) ∧
    (∀ depth acc cs x rest, (∀ m ∈ acc, m.2.isPrintable) →
      readMembers limits n depth acc cs = .ok (x, rest) → x.isPrintable) := by
  induction n with
  | zero => exact ⟨nofun, nofun, nofun⟩
  | succ n ih =>
    obtain ⟨ihvalue, ihitems, ihmembers⟩ := ih
    refine ⟨fun depth cs x rest h => ?_, fun depth acc cs x rest hacc h => ?_,
      fun depth acc cs x rest hacc h => ?_⟩
    · rw [readValue.eq_def] at h
      dsimp only at h
      split at h
      · split at h <;> cases h
        rfl
      · split at h
        · cases h
        · split at h
          · cases h
            rfl
          · exact ihmembers _ _ _ _ _ (List.forall_mem_nil _) h
      · split at h
        · cases h
        · split at h
          · cases h
            rfl
          · exact ihitems _ _ _ _ _ (List.forall_mem_nil _) h
      · exact isPrintable_of_readAtom hlimits h
    · rw [readItems.eq_def] at h
      dsimp only at h
      split at h
      · cases h
      · next y _ hvalue =>
        have hitems : ∀ z ∈ y :: acc, z.isPrintable :=
          List.forall_mem_cons.2 ⟨ihvalue _ _ _ _ hvalue, hacc⟩
        split at h
        · exact ihitems _ _ _ _ _ hitems h
        · cases h
          exact arePrintable_iff.2 fun y hy => hitems y (List.mem_reverse.1 hy)
        · cases h
    · rw [readMembers.eq_def] at h
      dsimp only at h
      split at h
      · split at h
        · cases h
        · split at h
          · split at h
            · cases h
            · next y _ hvalue =>
              have hmembers (key : String) : ∀ m ∈ (key, y) :: acc, m.2.isPrintable :=
                List.forall_mem_cons.2 ⟨ihvalue _ _ _ _ hvalue, hacc⟩
              split at h
              · exact ihmembers _ _ _ _ _ (hmembers _) h
              · cases h
                refine membersArePrintable_iff.2 (membersArePrintable_ofList fun m hm => ?_)
                exact hmembers _ m (List.mem_reverse.1 hm)
              · cases h
          · cases h
      · cases h

/-- **What is read from JSON text can be written**, if no longer integers are read than are
written. -/
theorem isPrintable_of_read (hlimits : limits.digits ≤ Numeral.digitLimit)
    (h : Json.read limits cs = .ok x) : x.isPrintable := by
  obtain ⟨⟨y, rest⟩, hvalue, h⟩ := bind_eq_ok_iff.1 h
  dsimp only at h
  split at h
  · cases h
    exact (isPrintable_of_readers hlimits _).1 _ _ _ _ hvalue
  · cases h

end Reader

end Json

end FacetedSearch
