import FacetedSearch.Number.Double
import FacetedSearch.Text.Blank
import FacetedSearch.Text.Digit

/-!
# Numerals

The texts that settings, bounds and counters are read from as numbers.  White space at the ends is
dropped; an integer is an optional sign and digits; a decimal number has digits before or after a
point and may have an exponent; a single underscore may stand between two digits.  The digits of
every script count.

* `Numeral.digitRun` — the longest run of digits at the start of a text.
* `Numeral.integer?` — an integer, of no more digits than `Numeral.digitLimit`.
* `Numeral.isWritable` — whether an integer has no more digits than that.
* `Numeral.real?` — a decimal number, an infinity or no number, rounded to floating point.
-/

set_option autoImplicit false

namespace FacetedSearch.Numeral

open Text

/-- The digits that continue a run: each follows a digit directly or after one underscore. -/
def moreDigits : List Char → List Nat × List Char
  | [] => ([], [])
  | [c] =>
    match digit? c with
    | some d => ([d], [])
    | none => ([], [c])
  | c :: c' :: rest =>
    match digit? c with
    | some d =>
      let (ds, rest) := moreDigits (c' :: rest)
      (d :: ds, rest)
    | none =>
      if c = '_' then
        match digit? c' with
        | some d =>
          let (ds, rest) := moreDigits rest
          (d :: ds, rest)
        | none => ([], c :: c' :: rest)
      else ([], c :: c' :: rest)

/-- The longest run of digits at the start of the text, and what follows it. -/
def digitRun (cs : List Char) : List Nat × List Char :=
  match cs with
  | [] => ([], [])
  | c :: _ => if (digit? c).isSome then moreDigits cs else ([], cs)

/-- The number written by decimal digits, the most significant first. -/
def ofDigits (ds : List Nat) : Nat := ds.foldl (fun n d => 10 * n + d) 0

/-- An optional sign: whether it is a minus, and what follows it. -/
def sign : List Char → Bool × List Char
  | '-' :: rest => (true, rest)
  | '+' :: rest => (false, rest)
  | rest => (false, rest)

/-- No integer is read from more digits than these, and none is written with more. -/
def digitLimit : Nat := 4300

/-- Whether an integer can be written; its sign is no digit. -/
def isWritable (n : Int) : Bool := (Nat.toDigits 10 n.natAbs).length ≤ digitLimit

/-- An integer. -/
def integer? (cs : List Char) : Option Int :=
  let (negative, cs) := sign (trim isWhiteSpace cs)
  let (ds, rest) := digitRun cs
  if !ds.isEmpty && rest.isEmpty && ds.length ≤ digitLimit then
    some (Double.signed negative (ofDigits ds))
  else none

/-- The exponent at the end of a decimal number, zero when there is none. -/
def exponent? (digits : List Char → List Nat × List Char) : List Char → Option Int
  | [] => some 0
  | c :: rest =>
    if c = 'e' ∨ c = 'E' then
      let (negative, rest) := sign rest
      let (ds, rest) := digits rest
      if !ds.isEmpty && rest.isEmpty then some (Double.signed negative (ofDigits ds)) else none
    else none

/-- The digits after a point, if there is one, and what follows them. -/
def fraction (digits : List Char → List Nat × List Char) : List Char → List Nat × List Char
  | '.' :: rest => digits rest
  | rest => ([], rest)

/-- The words for infinity and for no number, in any case. -/
def special? (negative : Bool) (cs : List Char) : Option Double :=
  let word := String.ofList (cs.map Char.toLower)
  if word = "inf" ∨ word = "infinity" then some (Double.infinity negative)
  else if word = "nan" then some Double.notANumber
  else none

/--
A decimal number, an infinity or no number, without blanks.  The argument takes the digits from the
start of a text.
-/
def realWith? (digits : List Char → List Nat × List Char) (cs : List Char) : Option Double :=
  let (negative, cs) := sign cs
  match special? negative cs with
  | some x => some x
  | none =>
    let (whole, rest) := digits cs
    let (part, rest) := fraction digits rest
    if whole.isEmpty && part.isEmpty then none
    else
      (exponent? digits rest).map fun e =>
        Double.ofDecimal negative (ofDigits (whole ++ part)) (e - part.length)

/-- A decimal number, an infinity or no number. -/
def real? (cs : List Char) : Option Double := realWith? digitRun (trim isWhiteSpace cs)

end FacetedSearch.Numeral
