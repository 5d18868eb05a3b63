import FacetedSearch.Proofs.Text.Numeral
import Mathlib.Algebra.Group.Nat.Defs

/-!
# Numbers written in decimal

A natural number is written with the digits `0` to `9`, the first of which is not zero unless it is
the only one.  What is written is read back as the number if it does not have more digits than are
read; otherwise it is refused.

* `Text.IsDecimal` — the decimal text of a number.
* `Text.isDecimal_toDigits` — what is written for a number.
* `Numeral.integer?_of_isDecimal`, `Numeral.integer?_toDigits` — decimal text is read as the number.
-/

set_option autoImplicit false

namespace FacetedSearch

namespace Text

/-- One of the digits `0` to `9`. -/
def IsAsciiDigit (c : Char) : Prop := '0'.toNat ≤ c.toNat ∧ c.toNat ≤ '9'.toNat

/-- The text has digits only, none of them a zero that could be left out, and they stand for the
number. -/
structure IsDecimal (cs : List Char) (n : Nat) : Prop where
  nonempty : cs ≠ []
  digits : ∀ c ∈ cs, IsAsciiDigit c
  leading : cs.head? = some '0' → cs = ['0']
  value : cs.foldl (fun n c => 10 * n + (c.toNat - '0'.toNat)) 0 = n

theorem isAsciiDigit_of_isDigit {c : Char} (h : c.isDigit) : IsAsciiDigit c := by
  simpa [Char.isDigit, IsAsciiDigit, UInt32.le_iff_toNat_le] using h

/-- No zero stands in front, but for the number zero. -/
theorem head?_toDigits {n : Nat} (h : (Nat.toDigits 10 n).head? = some '0') : n = 0 := by
  induction n using Nat.strongRecOn with
  | ind n ih =>
    rw [Nat.toDigits_eq_if (by decide)] at h
    split at h
    · simpa using h
    · -- the first digit is that of the number without its last digit, which is not zero
      have hsome : Nat.toDigits 10 (n / 10) ≠ [] := Nat.toDigits_ne_nil
      have hzero := ih (n / 10) (by omega)
      obtain ⟨c, cs, hcs⟩ := List.exists_cons_of_ne_nil hsome
      rw [hcs] at h hzero
      have := hzero h
      omega

/-- What is written for a number. -/
theorem isDecimal_toDigits (n : Nat) : IsDecimal (Nat.toDigits 10 n) n where
  nonempty := Nat.toDigits_ne_nil
  digits c hc := isAsciiDigit_of_isDigit (Nat.isDigit_of_mem_toDigits (by decide) (by decide) hc)
  leading h := by
    rw [head?_toDigits h]
    rfl
  value := Nat.ofDigitChars_ten_toDigits

end Text

namespace Numeral

open Text

theorem digit?_of_isAsciiDigit {c : Char} (h : IsAsciiDigit c) :
    digit? c = some (c.toNat - '0'.toNat) := by
  obtain ⟨hlower, hupper⟩ := h
  obtain ⟨others, hzeros⟩ : ∃ others, zeros = 0x30 :: others := ⟨_, rfl⟩
  have hfirst : zeros.find? (fun z => decide (z ≤ c.toNat) && decide (c.toNat < z + 10)) =
      some 0x30 := by
    rw [hzeros]
    refine List.find?_cons_of_pos ?_
    simp at hlower hupper ⊢
    omega
  unfold digit?
  rw [hfirst]
  rfl

theorem moreDigits_of_asciiDigits {cs : List Char} (h : ∀ c ∈ cs, IsAsciiDigit c) :
    moreDigits cs = (cs.map fun c => c.toNat - '0'.toNat, []) := by
  induction cs with
  | nil => rfl
  | cons c cs ih =>
    obtain ⟨hc, hcs⟩ := List.forall_mem_cons.1 h
    rw [moreDigits_digit (digit?_of_isAsciiDigit hc), ih hcs]
    rfl

/-- **Decimal text is read as the number that it stands for**, unless it is too long. -/
theorem integer?_of_isDecimal {cs : List Char} {n : Nat} (h : IsDecimal cs n) :
    integer? cs = if cs.length ≤ digitLimit then some (n : Int) else none := by
  have hdigit : ∀ c ∈ cs, (digit? c).isSome = true := fun c hc => by
    rw [digit?_of_isAsciiDigit (h.digits c hc)]
    rfl
  have htrim : trim isWhiteSpace cs = cs :=
    (Bare.of_forall fun c hc => IsPlain.not_isWhiteSpace (.inl (hdigit c hc))).trim_eq_self
  obtain ⟨c, rest, rfl⟩ := List.exists_cons_of_ne_nil h.nonempty
  have hunsigned : Unsigned (c :: rest) := by
    rintro _ ⟨⟩
    obtain ⟨hlower, -⟩ := h.digits c List.mem_cons_self
    constructor
    · rintro rfl
      exact absurd hlower (by decide)
    · rintro rfl
      exact absurd hlower (by decide)
  have hrun : digitRun (c :: rest) = ((c :: rest).map fun c => c.toNat - '0'.toNat, []) := by
    rw [digitRun, if_pos (hdigit c List.mem_cons_self), moreDigits_of_asciiDigits h.digits]
  unfold integer?
  rw [htrim, sign_of_unsigned hunsigned]
  dsimp only
  rw [hrun]
  by_cases hlength : (c :: rest).length ≤ digitLimit
  · rw [if_pos (by simpa using hlength), if_pos hlength, ofDigits, List.foldl_map, h.value]
    rfl
  · rw [if_neg (by simpa using hlength), if_neg hlength]

/-- What is written for a number is read as that number, unless it has too many digits. -/
theorem integer?_toDigits (n : Nat) :
    integer? (Nat.toDigits 10 n) = if n < 10 ^ digitLimit then some (n : Int) else none := by
  have hlength : (Nat.toDigits 10 n).length ≤ digitLimit ↔ n < 10 ^ digitLimit :=
    Nat.length_toDigits_le_iff (by decide) (by decide)
  simp only [integer?_of_isDecimal (isDecimal_toDigits n), hlength]

end Numeral

end FacetedSearch
