/-!
# Binary floating-point numbers

A number of a document or of a query is either an integer of any size or a 64-bit binary
floating-point number.  The second kind is held as its bit pattern, so that two numbers are equal
exactly when their patterns are; what a pattern stands for is read off by `Double.value`, in exact
integers.

* `Double.value` — the sign, significand and power of two of a pattern, or infinity, or no number.
* `Double.ofRatio` — the nearest pattern to a quotient of natural numbers, a tie going to the even
  significand and an overflow to infinity.
* `Double.toInt?` — the integer a pattern stands for, if it stands for one.
* `Double.sameNumber` — comparison by value: both zeros are equal, and no number equals a pattern
  that stands for none.
-/

set_option autoImplicit false

namespace FacetedSearch

/-- A 64-bit binary floating-point number, held as its bit pattern. -/
structure Double where
  bits : UInt64
  deriving DecidableEq, Repr, Inhabited

namespace Double

/-- What a bit pattern stands for; `finite s m e` is `m * 2 ^ e`, negated when `s` holds. -/
inductive Value where
  | notANumber
  | infinite (negative : Bool)
  | finite (negative : Bool) (significand : Nat) (exponent : Int)
  deriving DecidableEq, Repr

/-- The pattern's fields: one sign bit, eleven bits of exponent, fifty-two bits of fraction. -/
def value (x : Double) : Value :=
  let n := x.bits.toNat
  let negative := decide (Nat.pow 2 63 ≤ n)
  let exponent : Nat := n / Nat.pow 2 52 % 2048
  let fraction : Nat := n % Nat.pow 2 52
  if exponent = 2047 then
    if fraction = 0 then .infinite negative else .notANumber
  else if exponent = 0 then .finite negative fraction (-1074)
  else .finite negative (Nat.pow 2 52 + fraction) ((exponent : Int) - 1075)

/-- The pattern with the given magnitude bits and sign. -/
def ofMagnitude (negative : Bool) (magnitude : Nat) : Double :=
  ⟨UInt64.ofNat (if negative then Nat.pow 2 63 + magnitude else magnitude)⟩

/-- Magnitude bits of infinity; every smaller number of magnitude bits is finite. -/
def infinityBits : Nat := 2047 * Nat.pow 2 52

/-- Positive or negative infinity. -/
def infinity (negative : Bool) : Double := ofMagnitude negative infinityBits

/-- The pattern written for "not a number". -/
def notANumber : Double := ofMagnitude false (infinityBits + Nat.pow 2 51)

/-- Zero, with a sign. -/
def zero (negative : Bool) : Double := ofMagnitude negative 0

/-- Ten, the distance of a geographic filter that names none. -/
def ten : Double := ofMagnitude false (1026 * Nat.pow 2 52 + Nat.pow 2 50)

/-- The quotient rounded to the nearest natural number, a tie going to the even one. -/
def roundDiv (num den : Nat) : Nat :=
  let q := num / den
  let r := num % den
  if 2 * r < den then q
  else if den < 2 * r then q + 1
  else if q % 2 = 0 then q else q + 1

/-- `num / (den * 2 ^ k)` as a quotient of natural numbers. -/
def scaled (num den : Nat) (k : Int) : Nat × Nat :=
  (num * Nat.pow 2 (-k).toNat, den * Nat.pow 2 k.toNat)

/--
The nearest number to `num / den`.  The power of two is chosen so that the significand has
fifty-three bits, or is the least one there is; the magnitude bits are then the significand plus
the power counted in units of its highest bit, which also carries a significand that rounds up.
-/
def ofRatio (negative : Bool) (num den : Nat) : Double :=
  if num = 0 then zero negative
  else
    let guess : Int := (num.log2 : Int) - (den.log2 : Int) - 52
    let (n, d) := scaled num den guess
    let k := max (if n / d < Nat.pow 2 52 then guess - 1 else guess) (-1074)
    let (n, d) := scaled num den k
    let magnitude := (k + 1074).toNat * Nat.pow 2 52 + roundDiv n d
    if infinityBits ≤ magnitude then infinity negative else ofMagnitude negative magnitude

/-- The nearest number to an integer; infinite when there is no finite one. -/
def ofInt (n : Int) : Double := ofRatio (decide (n < 0)) n.natAbs 1

/--
The nearest number to `coefficient * 10 ^ exponent`.  Exponents that certainly overflow or vanish
are answered without computing the power.
-/
def ofDecimal (negative : Bool) (coefficient : Nat) (exponent : Int) : Double :=
  if coefficient = 0 then zero negative
  else if 0 ≤ exponent then
    if 1100 < (coefficient.log2 : Int) + 3 * exponent then infinity negative
    else ofRatio negative (coefficient * Nat.pow 10 exponent.toNat) 1
  else if (coefficient.log2 : Int) + 1 + 3 * exponent < -1080 then zero negative
  else ofRatio negative coefficient (Nat.pow 10 (-exponent).toNat)

/-- Whether the pattern stands for no number. -/
def isNaN (x : Double) : Bool :=
  match x.value with
  | .notANumber => true
  | _ => false

/-- Whether the pattern is an ordinary number. -/
def isFinite (x : Double) : Bool :=
  match x.value with
  | .finite _ _ _ => true
  | _ => false

/-- Whether the pattern is one of the two zeros. -/
def isZero (x : Double) : Bool :=
  match x.value with
  | .finite _ m _ => m == 0
  | _ => false

/-- Whether the number is greater than zero. -/
def isPositive (x : Double) : Bool :=
  match x.value with
  | .finite negative m _ => !negative && m != 0
  | .infinite negative => !negative
  | .notANumber => false

/-- The sign applied to a magnitude. -/
def signed (negative : Bool) (magnitude : Nat) : Int :=
  if negative then -(magnitude : Int) else magnitude

/-- The integer that an integral number stands for. -/
def toInt? (x : Double) : Option Int :=
  match x.value with
  | .finite negative m e =>
    if 0 ≤ e then some (signed negative (m * Nat.pow 2 e.toNat))
    else if m % Nat.pow 2 (-e).toNat = 0 then some (signed negative (m / Nat.pow 2 (-e).toNat))
    else none
  | _ => none

/-- The integer part of a finite number, its fraction cut off. -/
def truncate? (x : Double) : Option Int :=
  match x.value with
  | .finite negative m e =>
    some (signed negative (if 0 ≤ e then m * Nat.pow 2 e.toNat else m / Nat.pow 2 (-e).toNat))
  | _ => none

/-- Equality of the numbers stood for. -/
def sameNumber (x y : Double) : Bool :=
  !x.isNaN && !y.isNaN && (x == y || (x.isZero && y.isZero))

end Double

end FacetedSearch
