import FacetedSearch.Number.Double

/-!
# Shortest decimal text of a floating-point number

The text of a number has the fewest significant digits that read back as the same number, and of
several such decimals the one nearest to it.

* `Shortest.digits` — those digits, found by testing, for one digit, two digits and so on, the two
  neighbours of the number on that decimal grid against the interval of reals that round to it.
  All arithmetic is exact.
* `Layout` — how the digits are written: which exponents are positional and which are not.
* `Double.text` — the text itself.
-/

set_option autoImplicit false

namespace FacetedSearch

namespace Shortest

/-- Comparison of the decimal `c * 10 ^ g` with the binary `u * 2 ^ q`. -/
def compareDecimal (c : Nat) (g : Int) (u : Nat) (q : Int) : Ordering :=
  compare (c * Nat.pow 10 g.toNat * Nat.pow 2 (-q).toNat)
    (u * Nat.pow 2 q.toNat * Nat.pow 10 (-g).toNat)

/-- The reals that round to `m * 2 ^ q`, in quarters of `2 ^ q`; the ends count when `closed`. -/
structure Interval where
  lower : Nat
  middle : Nat
  upper : Nat
  exponent : Int
  closed : Bool

/-- Below a power of two the lower neighbour is half as far as the upper one. -/
def Interval.of (m : Nat) (q : Int) : Interval :=
  { lower := if m = Nat.pow 2 52 ∧ -1074 < q then 4 * m - 1 else 4 * m - 2
    middle := 4 * m
    upper := 4 * m + 2
    exponent := q - 2
    closed := m % 2 == 0 }

/-- Whether the decimal `c * 10 ^ g` reads back as the number of the interval. -/
def Interval.holds (i : Interval) (c : Nat) (g : Int) : Bool :=
  let low := compareDecimal c g i.lower i.exponent
  let high := compareDecimal c g i.upper i.exponent
  (low == .gt || (low == .eq && i.closed)) && (high == .lt || (high == .eq && i.closed))

/-- Integer part of the number in units of `10 ^ g`. -/
def Interval.floorAt (i : Interval) (g : Int) : Nat :=
  (i.middle * Nat.pow 2 i.exponent.toNat * Nat.pow 10 (-g).toNat)
    / (Nat.pow 2 (-i.exponent).toNat * Nat.pow 10 g.toNat)

/-- The power of ten of the leading digit: an estimate from the binary logarithm, put right. -/
def Interval.magnitude (i : Interval) : Int :=
  let guess := ((i.middle.log2 : Int) + i.exponent) * 30103 / 100000
  if compareDecimal 1 (guess + 1) i.middle i.exponent == .gt then
    if compareDecimal 1 guess i.middle i.exponent == .gt then guess - 1 else guess
  else guess + 1

/-- Of the two grid neighbours `c` and `c + 1` that read back, the nearer; a tie goes to the even. -/
def Interval.onGrid (i : Interval) (g : Int) : Option Nat :=
  let c := i.floorAt g
  match i.holds c g, i.holds (c + 1) g with
  | true, true =>
    match compareDecimal (2 * c + 1) g (2 * i.middle) i.exponent with
    | .gt => some c
    | .lt => some (c + 1)
    | .eq => some (if c % 2 = 0 then c else c + 1)
  | true, false => some c
  | false, true => some (c + 1)
  | false, false => none

/-- The shortest decimal of `m * 2 ^ q` for a positive `m`: coefficient and power of ten. -/
def digits (m : Nat) (q : Int) : Nat × Int :=
  let i := Interval.of m q
  let top := i.magnitude
  ((List.range 17).findSome? fun (n : Nat) =>
    (i.onGrid (top - n)).map fun c => (c, top - (n : Int))).getD (0, 0)

end Shortest

/-- How decimal digits are laid out: the positional exponents run from `least` up to `limit`. -/
structure Layout where
  least : Int
  limit : Int
  exponentWidth : Nat
  notANumber : String
  infinity : String

namespace Layout

/-- The decimal digits of a natural number without its trailing zeros, and how many those were. -/
def significant (c : Nat) : List Char × Nat :=
  let ds := (toString c).toList
  let zeros := (ds.reverse.takeWhile (· == '0')).length
  (ds.take (ds.length - zeros), zeros)

/-- Digits with leading zeros up to a width. -/
def padded (width n : Nat) : List Char :=
  let ds := (toString n).toList
  List.replicate (width - ds.length) '0' ++ ds

/-- The text of `c * 10 ^ g` for a positive `c`. -/
def decimal (l : Layout) (c : Nat) (g : Int) : List Char :=
  let (ds, zeros) := significant c
  let g := g + zeros
  let exponent := g + (ds.length : Int) - 1
  if l.least ≤ exponent ∧ exponent < l.limit then
    if 0 ≤ g then ds ++ List.replicate g.toNat '0' ++ ['.', '0']
    else if 0 ≤ exponent then
      let whole := (exponent + 1).toNat
      ds.take whole ++ '.' :: ds.drop whole
    else '0' :: '.' :: List.replicate (-exponent - 1).toNat '0' ++ ds
  else
    let mantissa := if ds.length ≤ 1 then ds else ds.take 1 ++ '.' :: ds.drop 1
    let sign := if exponent < 0 then '-' else '+'
    mantissa ++ 'e' :: sign :: padded l.exponentWidth exponent.natAbs

end Layout

/--
Numbers of queries, answers and messages: positional from a ten-thousandth up to ten to the
sixteenth, always with a point or an exponent, an exponent of at least two digits with its sign.
-/
def Layout.plain : Layout :=
  { least := -4, limit := 16, exponentWidth := 2, notANumber := "nan", infinity := "inf" }

/-- The text of a floating-point number under a layout. -/
def Layout.write (l : Layout) (x : Double) : String :=
  match x.value with
  | .notANumber => l.notANumber
  | .infinite negative => if negative then "-" ++ l.infinity else l.infinity
  | .finite negative m q =>
    let body :=
      if m = 0 then ['0', '.', '0']
      else
        let (c, g) := Shortest.digits m q
        l.decimal c g
    String.ofList (if negative then '-' :: body else body)

/-- The text of a floating-point number. -/
def Double.text (x : Double) : String := Layout.plain.write x

end FacetedSearch
