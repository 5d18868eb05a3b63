import FacetedSearch.Number.Double
import Mathlib.Algebra.Order.Field.Power
import Mathlib.Data.Rat.Cast.Order
import Mathlib.Tactic.Linarith
import Mathlib.Tactic.NormNum
import Mathlib.Tactic.Positivity
import Mathlib.Tactic.Ring

/-!
# The numbers that patterns stand for

A bit pattern stands for a rational number, for an infinity or for no number at all.  Apart from the
two zeros no number has two patterns, so comparing patterns compares the numbers.

* `Number`, `Double.number?` — what a pattern stands for.
* `Double.toInt?_eq_some_iff` — when a pattern stands for an integer.
* `Double.sameNumber_iff` — patterns are the same number when they stand for the same number.
* `Double.isPositive_iff`, `Double.lt_of_number?` — numbers above zero, and how far they go.
-/

set_option autoImplicit false

namespace FacetedSearch

/-- What can be stood for: a rational number or an infinity. -/
inductive Number where
  | finite (value : ℚ)
  | infinite (negative : Bool)
  deriving DecidableEq

/-- The number is greater than zero. -/
def Number.IsPositive : Number → Prop
  | finite value => 0 < value
  | infinite negative => negative = false

namespace Double

/-- The rational number with a sign, a significand and a power of two. -/
def rational (negative : Bool) (significand : Nat) (exponent : Int) : ℚ :=
  (if negative then -1 else 1) * (significand * 2 ^ exponent)

/-- What a pattern stands for, unless it stands for no number. -/
def number? (x : Double) : Option Number :=
  match x.value with
  | .notANumber => none
  | .infinite negative => some (.infinite negative)
  | .finite negative significand exponent => some (.finite (rational negative significand exponent))

theorem rational_eq_zero_iff {negative : Bool} {m : Nat} {e : Int} :
    rational negative m e = 0 ↔ m = 0 := by
  have hpow : (2 : ℚ) ^ e ≠ 0 := zpow_ne_zero e two_ne_zero
  cases negative <;> simp [rational, hpow]

/-! ## Integers -/

theorem cast_signed (negative : Bool) (n : Nat) :
    ((signed negative n : Int) : ℚ) = (if negative then -1 else 1) * n := by
  cases negative <;> simp [signed]

/-- A significand with a negative power of two is an integer when the power divides it. -/
theorem mul_zpow_neg_eq_int_iff {m k : Nat} {a : Int} :
    (m : ℚ) * 2 ^ (-(k : Int)) = a ↔ m % 2 ^ k = 0 ∧ ((m / 2 ^ k : Nat) : Int) = a := by
  have hpow : (2 : ℚ) ^ k ≠ 0 := pow_ne_zero k two_ne_zero
  rw [zpow_neg, zpow_natCast, ← div_eq_mul_inv, div_eq_iff hpow]
  constructor
  · intro h
    have hm : (m : Int) = a * ((2 ^ k : Nat) : Int) := by
      rw [Nat.cast_pow]
      exact_mod_cast h
    have hpos : (0 : Int) < ((2 ^ k : Nat) : Int) := by exact_mod_cast Nat.two_pow_pos k
    have hmod : (m : Int) % ((2 ^ k : Nat) : Int) = 0 := by rw [hm, Int.mul_emod_left]
    have hdiv : (m : Int) / ((2 ^ k : Nat) : Int) = a := by
      rw [hm, Int.mul_ediv_cancel _ hpos.ne']
    exact ⟨by exact_mod_cast hmod, by exact_mod_cast hdiv⟩
  · rintro ⟨hmod, rfl⟩
    have hm : m = m / 2 ^ k * 2 ^ k := (Nat.div_mul_cancel (Nat.dvd_of_mod_eq_zero hmod)).symm
    have hcast : (m : ℚ) = ((m / 2 ^ k : Nat) : ℚ) * ((2 ^ k : Nat) : ℚ) := by
      rw [← Nat.cast_mul, ← hm]
    rw [hcast, Nat.cast_pow, Int.cast_natCast]
    rfl

theorem rational_of_nonneg {negative : Bool} {m : Nat} {e : Int} (he : 0 ≤ e) :
    rational negative m e = (signed negative (m * 2 ^ e.toNat) : Int) := by
  obtain ⟨k, rfl⟩ := Int.eq_ofNat_of_zero_le he
  rw [cast_signed, rational, Int.toNat_natCast, zpow_natCast]
  push_cast
  rfl

theorem rational_neg_eq_int_iff {negative : Bool} {m k : Nat} {a : Int} :
    rational negative m (-(k : Int)) = a ↔ m % 2 ^ k = 0 ∧ signed negative (m / 2 ^ k) = a := by
  cases negative with
  | false =>
    rw [rational, if_neg Bool.false_ne_true, one_mul, mul_zpow_neg_eq_int_iff]
    rfl
  | true =>
    have hneg : rational true m (-(k : Int)) = a ↔ (m : ℚ) * 2 ^ (-(k : Int)) = ((-a : Int) : ℚ) := by
      rw [rational, if_pos rfl, Int.cast_neg, neg_one_mul, neg_eq_iff_eq_neg]
    rw [hneg, mul_zpow_neg_eq_int_iff]
    refine and_congr_right fun _ => ?_
    rw [signed, if_pos rfl, neg_eq_iff_eq_neg]

/-- **A pattern stands for an integer exactly when it is read as one.** -/
theorem toInt?_eq_some_iff {x : Double} {a : Int} :
    x.toInt? = some a ↔ x.number? = some (.finite a) := by
  unfold toInt? number?
  cases x.value with
  | notANumber => simp
  | infinite negative => simp
  | finite negative m e =>
    simp only [Option.some.injEq, Number.finite.injEq]
    by_cases he : 0 ≤ e
    · rw [if_pos he, rational_of_nonneg he, Option.some.injEq, Int.cast_inj]
      rfl
    · obtain ⟨k, rfl⟩ : ∃ k : Nat, e = -(k : Int) := ⟨(-e).toNat, by omega⟩
      have htoNat : (-(-(k : Int))).toNat = k := by omega
      rw [if_neg he, htoNat, rational_neg_eq_int_iff]
      show (if m % 2 ^ k = 0 then some (signed negative (m / 2 ^ k)) else none) = some a ↔ _
      split <;> simp [*]

/-! ## Significands and powers -/

/-- A significand and a power as a pattern holds them: of fifty-three bits, or the least power. -/
structure Canonical (m : Nat) (e : Int) : Prop where
  lt : m < 2 ^ 53
  least : -1074 ≤ e
  full : 2 ^ 52 ≤ m ∨ e = -1074

/-- A significand is not so small that a smaller power would do. -/
theorem Canonical.exponent_le {m n : Nat} {d e : Int} (hm : Canonical m d) (hn : Canonical n e)
    (h : (m : ℚ) * 2 ^ d = n * 2 ^ e) : e ≤ d := by
  by_contra hlt
  have hle := hm.least
  have hfull : 2 ^ 52 ≤ n := hn.full.resolve_right (by omega)
  have hn52 : (2 : ℚ) ^ 52 ≤ n := by exact_mod_cast hfull
  have hm53 : (m : ℚ) < 2 ^ 53 := by exact_mod_cast hm.lt
  have hd : (2 : ℚ) ^ d ≠ 0 := zpow_ne_zero d two_ne_zero
  have hsplit : (2 : ℚ) ^ e = 2 ^ (e - d) * 2 ^ d := by
    rw [← zpow_add₀ two_ne_zero, Int.sub_add_cancel]
  rw [hsplit, ← mul_assoc] at h
  have hmn : (m : ℚ) = n * 2 ^ (e - d) := mul_right_cancel₀ hd h
  have htwo : (2 : ℚ) ≤ 2 ^ (e - d) := by
    calc (2 : ℚ) = 2 ^ (1 : Int) := (zpow_one 2).symm
      _ ≤ 2 ^ (e - d) := zpow_le_zpow_right₀ one_le_two (by omega)
  have hbig : (2 : ℚ) ^ 52 * 2 ≤ n * 2 ^ (e - d) :=
    mul_le_mul hn52 htwo zero_le_two (Nat.cast_nonneg n)
  rw [← hmn, ← pow_succ] at hbig
  exact absurd hm53 (not_lt.2 hbig)

theorem Canonical.unique {m n : Nat} {d e : Int} (hm : Canonical m d) (hn : Canonical n e)
    (h : (m : ℚ) * 2 ^ d = n * 2 ^ e) : m = n ∧ d = e := by
  have hde : d = e := le_antisymm (hn.exponent_le hm h.symm) (hm.exponent_le hn h)
  subst hde
  have hpow : (2 : ℚ) ^ d ≠ 0 := zpow_ne_zero d two_ne_zero
  exact ⟨by exact_mod_cast mul_right_cancel₀ hpow h, rfl⟩

/-- Numbers with a sign are equal when both vanish, or when all their parts are equal. -/
theorem eq_of_rational_eq {s t : Bool} {m n : Nat} {d e : Int} (hm : Canonical m d)
    (hn : Canonical n e) (h : rational s m d = rational t n e) :
    m = 0 ∧ n = 0 ∨ s = t ∧ m = n ∧ d = e := by
  by_cases hst : s = t
  · subst hst
    have hsign : (if s then (-1 : ℚ) else 1) ≠ 0 := by cases s <;> simp
    exact .inr ⟨rfl, hm.unique hn (mul_left_cancel₀ hsign h)⟩
  · -- numbers of different signs are only equal when they are zero
    have hd : (0 : ℚ) < 2 ^ d := zpow_pos two_pos d
    have he : (0 : ℚ) < 2 ^ e := zpow_pos two_pos e
    have hmd : (0 : ℚ) ≤ m * 2 ^ d := mul_nonneg (Nat.cast_nonneg m) hd.le
    have hne : (0 : ℚ) ≤ n * 2 ^ e := mul_nonneg (Nat.cast_nonneg n) he.le
    have hzero : (m : ℚ) * 2 ^ d = 0 ∧ (n : ℚ) * 2 ^ e = 0 := by
      unfold rational at h
      cases s <;> cases t
      · exact absurd rfl hst
      · rw [if_neg Bool.false_ne_true, if_pos rfl] at h
        constructor <;> linarith
      · rw [if_neg Bool.false_ne_true, if_pos rfl] at h
        constructor <;> linarith
      · exact absurd rfl hst
    refine .inl ⟨?_, ?_⟩
    · exact_mod_cast (mul_eq_zero.1 hzero.1).resolve_right hd.ne'
    · exact_mod_cast (mul_eq_zero.1 hzero.2).resolve_right he.ne'

/-! ## Patterns -/

/-- What a pattern stands for, read off its fields. -/
theorem value_cases (x : Double) :
    (x.bits.toNat / 2 ^ 52 % 2048 = 2047 ∧ x.bits.toNat % 2 ^ 52 = 0 ∧
      x.value = .infinite (decide (2 ^ 63 ≤ x.bits.toNat))) ∨
    (x.bits.toNat / 2 ^ 52 % 2048 = 2047 ∧ x.bits.toNat % 2 ^ 52 ≠ 0 ∧ x.value = .notANumber) ∨
    (x.bits.toNat / 2 ^ 52 % 2048 ≠ 2047 ∧ ∃ m e,
      x.value = .finite (decide (2 ^ 63 ≤ x.bits.toNat)) m e ∧ Canonical m e ∧
      x.bits.toNat % 2 ^ 52 = m % 2 ^ 52 ∧
      x.bits.toNat / 2 ^ 52 % 2048 = if m < 2 ^ 52 then 0 else (e + 1075).toNat) := by
  have h52 : Nat.pow 2 52 = 2 ^ 52 := rfl
  have h63 : Nat.pow 2 63 = 2 ^ 63 := rfl
  unfold value
  simp only [h52, h63]
  generalize x.bits.toNat / 2 ^ 52 % 2048 = exponent
  have hfraction : x.bits.toNat % 2 ^ 52 < 2 ^ 52 := Nat.mod_lt _ (Nat.two_pow_pos 52)
  generalize x.bits.toNat % 2 ^ 52 = fraction at hfraction
  by_cases hmax : exponent = 2047
  · by_cases hzero : fraction = 0
    · exact .inl ⟨hmax, hzero, by rw [if_pos hmax, if_pos hzero]⟩
    · exact .inr (.inl ⟨hmax, hzero, by rw [if_pos hmax, if_neg hzero]⟩)
  · refine .inr (.inr ⟨hmax, ?_⟩)
    rw [if_neg hmax]
    by_cases hleast : exponent = 0
    · refine ⟨fraction, -1074, by rw [if_pos hleast], ⟨by omega, le_rfl, .inr rfl⟩, ?_, ?_⟩
      · rw [Nat.mod_eq_of_lt hfraction]
      · rw [if_pos hfraction, hleast]
    · have hfull : ¬ 2 ^ 52 + fraction < 2 ^ 52 := by omega
      refine ⟨2 ^ 52 + fraction, exponent - 1075, by rw [if_neg hleast],
        ⟨by omega, by omega, .inl (by omega)⟩, ?_, ?_⟩
      · rw [Nat.add_mod_left, Nat.mod_eq_of_lt hfraction]
      · rw [if_neg hfull]
        omega

/-- A pattern is determined by its fields. -/
theorem eq_of_fields {x y : Double} (hsign : 2 ^ 63 ≤ x.bits.toNat ↔ 2 ^ 63 ≤ y.bits.toNat)
    (hexponent : x.bits.toNat / 2 ^ 52 % 2048 = y.bits.toNat / 2 ^ 52 % 2048)
    (hfraction : x.bits.toNat % 2 ^ 52 = y.bits.toNat % 2 ^ 52) : x = y := by
  have hx : x.bits.toNat < 2 ^ 64 := x.bits.toNat_lt
  have hy : y.bits.toNat < 2 ^ 64 := y.bits.toNat_lt
  have hbits : x.bits.toNat = y.bits.toNat := by omega
  have heq : x.bits = y.bits := UInt64.toNat_inj.1 hbits
  cases x
  cases y
  exact congrArg Double.mk heq

theorem fields_of_infinite {x : Double} {negative : Bool}
    (h : x.number? = some (.infinite negative)) :
    decide (2 ^ 63 ≤ x.bits.toNat) = negative ∧ x.bits.toNat / 2 ^ 52 % 2048 = 2047 ∧
      x.bits.toNat % 2 ^ 52 = 0 := by
  unfold number? at h
  rcases value_cases x with ⟨hexponent, hfraction, hv⟩ | ⟨-, -, hv⟩ | ⟨-, m, e, hv, -⟩
  · rw [hv] at h
    cases h
    exact ⟨rfl, hexponent, hfraction⟩
  · rw [hv] at h
    cases h
  · rw [hv] at h
    cases h

theorem fields_of_finite {x : Double} {q : ℚ} (h : x.number? = some (.finite q)) :
    ∃ m e, x.value = .finite (decide (2 ^ 63 ≤ x.bits.toNat)) m e ∧ Canonical m e ∧
      rational (decide (2 ^ 63 ≤ x.bits.toNat)) m e = q ∧
      x.bits.toNat / 2 ^ 52 % 2048 = (if m < 2 ^ 52 then 0 else (e + 1075).toNat) ∧
      x.bits.toNat % 2 ^ 52 = m % 2 ^ 52 := by
  unfold number? at h
  rcases value_cases x with ⟨-, -, hv⟩ | ⟨-, -, hv⟩ | ⟨-, m, e, hv, hm, hfraction, hexponent⟩
  · rw [hv] at h
    cases h
  · rw [hv] at h
    cases h
  · rw [hv] at h
    cases h
    exact ⟨m, e, hv, hm, rfl, hexponent, hfraction⟩

/-- Patterns that stand for the same number are equal, or both zeros. -/
theorem eq_or_zeros_of_number? {x y : Double} {v : Number} (hx : x.number? = some v)
    (hy : y.number? = some v) : x = y ∨ x.isZero = true ∧ y.isZero = true := by
  cases v with
  | infinite negative =>
    obtain ⟨hsx, hex, hfx⟩ := fields_of_infinite hx
    obtain ⟨hsy, hey, hfy⟩ := fields_of_infinite hy
    have hsign := decide_eq_decide.1 (hsx.trans hsy.symm)
    exact .inl (eq_of_fields hsign (hex.trans hey.symm) (hfx.trans hfy.symm))
  | finite q =>
    obtain ⟨m, d, hvx, hm, hqx, hex, hfx⟩ := fields_of_finite hx
    obtain ⟨n, e, hvy, hn, hqy, hey, hfy⟩ := fields_of_finite hy
    rcases eq_of_rational_eq hm hn (hqx.trans hqy.symm) with ⟨rfl, rfl⟩ | ⟨hsigns, rfl, rfl⟩
    · exact .inr ⟨by simp [isZero, hvx], by simp [isZero, hvy]⟩
    · have hsign := decide_eq_decide.1 hsigns
      exact .inl (eq_of_fields hsign (hex.trans hey.symm) (hfx.trans hfy.symm))

theorem number?_eq_none_iff {x : Double} : x.number? = none ↔ x.isNaN = true := by
  unfold number? isNaN
  cases x.value <;> simp

theorem isZero_iff {x : Double} : x.isZero = true ↔ x.number? = some (.finite 0) := by
  unfold isZero number?
  cases x.value with
  | notANumber | infinite => simp
  | finite negative m e =>
    rw [Option.some.injEq, Number.finite.injEq, rational_eq_zero_iff]
    exact beq_iff_eq

/-- **Patterns are the same number exactly when they stand for the same number.** -/
theorem sameNumber_iff {x y : Double} :
    x.sameNumber y = true ↔ ∃ v, x.number? = some v ∧ y.number? = some v := by
  unfold sameNumber
  rw [Bool.and_eq_true, Bool.and_eq_true, Bool.or_eq_true, Bool.and_eq_true, beq_iff_eq]
  constructor
  · rintro ⟨⟨hx, -⟩, rfl | ⟨hzx, hzy⟩⟩
    · have hsome : x.number? ≠ none := fun h => by simp [number?_eq_none_iff.1 h] at hx
      obtain ⟨v, hv⟩ := Option.ne_none_iff_exists'.1 hsome
      exact ⟨v, hv, hv⟩
    · exact ⟨_, isZero_iff.1 hzx, isZero_iff.1 hzy⟩
  · rintro ⟨v, hx, hy⟩
    have hnumber : ∀ {z : Double}, z.number? = some v → (!z.isNaN) = true := by
      intro z hz
      rw [Bool.not_eq_true', ← Bool.not_eq_true, ← number?_eq_none_iff, hz]
      exact nofun
    exact ⟨⟨hnumber hx, hnumber hy⟩, eq_or_zeros_of_number? hx hy⟩

/-! ## Size -/

theorem isPositive_iff {x : Double} :
    x.isPositive = true ↔ ∃ v, x.number? = some v ∧ v.IsPositive := by
  unfold isPositive number?
  cases x.value with
  | notANumber => simp
  | infinite negative => simp [Number.IsPositive]
  | finite negative m e =>
    have hpow : (0 : ℚ) < 2 ^ e := zpow_pos two_pos e
    have hmagnitude : (0 : ℚ) ≤ m * 2 ^ e := mul_nonneg m.cast_nonneg hpow.le
    cases negative with
    | false => simp [Number.IsPositive, rational, hpow, Nat.pos_iff_ne_zero]
    | true => simp [Number.IsPositive, rational, hmagnitude]

theorem rational_le (negative : Bool) (m : Nat) (e : Int) : rational negative m e ≤ m * 2 ^ e := by
  have hmagnitude : (0 : ℚ) ≤ m * 2 ^ e := mul_nonneg m.cast_nonneg (zpow_pos two_pos e).le
  cases negative with
  | false => exact (one_mul _).le
  | true =>
    rw [rational, if_pos rfl, neg_one_mul]
    exact neg_le_self hmagnitude

/-- A pattern stands for nothing beyond this power of two. -/
theorem lt_of_number? {x : Double} {q : ℚ} (h : x.number? = some (.finite q)) : q < 2 ^ 1024 := by
  unfold number? at h
  rcases value_cases x with ⟨-, -, hv⟩ | ⟨-, -, hv⟩ | ⟨hmax, m, e, hv, hm, -, hexponent⟩
  · rw [hv] at h
    cases h
  · rw [hv] at h
    cases h
  · rw [hv] at h
    cases h
    have he : e ≤ 971 := by
      by_cases hfull : m < 2 ^ 52
      · have := hm.full.resolve_left (Nat.not_le.2 hfull)
        omega
      · rw [if_neg hfull] at hexponent
        omega
    have hpow : (0 : ℚ) < 2 ^ e := zpow_pos two_pos e
    have hlt : (m : ℚ) < 2 ^ 53 := by exact_mod_cast hm.lt
    calc rational (decide (2 ^ 63 ≤ x.bits.toNat)) m e
        ≤ m * 2 ^ e := rational_le _ m e
      _ < 2 ^ 53 * 2 ^ e := mul_lt_mul_of_pos_right hlt hpow
      _ ≤ 2 ^ 53 * 2 ^ (971 : Int) :=
          mul_le_mul_of_nonneg_left (zpow_le_zpow_right₀ one_le_two he) (by positivity)
      _ = 2 ^ 1024 := by rw [zpow_ofNat, ← pow_add]

end Double

end FacetedSearch
