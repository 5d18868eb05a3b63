import FacetedSearch.Text.Numeral
import FacetedSearch.Text.Pieces
import FacetedSearch.Validation.Checked

/-!
# Numerals in checked values

Where a query needs a number it also accepts a numeral in the digits `0` to `9`.  What stands around
the number is dropped first: white space, a plus, zeros in front, a fraction of zeros behind an
integer, and underscores that stand alone inside.  What is left has to be a plain number.

* `PlainNumeral.integer` — a plain integer: an optional minus and digits, no zero in front.
* `PlainNumeral.real?` — a plain number: an infinity, no number, or a decimal number.
* `LenientNumeral.integer`, `LenientNumeral.real?` — the numerals that are accepted.
-/

set_option autoImplicit false

namespace FacetedSearch

open Text Validation

namespace PlainNumeral

/-- The digits at the start of a text that has no sign; a zero stands alone. -/
def magnitude : List Char → List Nat × List Char
  | '0' :: rest => ([0], rest)
  | cs => asciiDigits cs

/-- A plain integer, of no more characters than there may be digits. -/
def integer (cs : List Char) : Except Rule Int :=
  let (negative, unsigned) :=
    match cs with
    | '-' :: rest => (true, rest)
    | rest => (false, rest)
  let (ds, rest) := magnitude unsigned
  if Numeral.digitLimit < ds.length + (if negative then 1 else 0) then .error .intParsingSize
  else if ds.isEmpty || !rest.isEmpty then .error .intParsing
  else .ok (Double.signed negative (Numeral.ofDigits ds))

/-- A plain number. -/
def real? (cs : List Char) : Option Double := Numeral.realWith? asciiDigits cs

end PlainNumeral

namespace LenientNumeral

/-- The text without its underscores, if they only stand alone inside it. -/
def joined? (cs : List Char) : Option (List Char) :=
  let parts := pieces '_' cs
  if 1 < parts.length && parts.all (!·.isEmpty) then some parts.flatten else none

/-- The text without a point and zeros at its end. -/
def withoutFraction (cs : List Char) : List Char :=
  match cs.dropWhile (· != '.') with
  | '.' :: zeros =>
    if !zeros.isEmpty && zeros.all (· == '0') then cs.takeWhile (· != '.') else cs
  | _ => cs

/--
What follows zeros in front, underscores among them being dropped too: a digit, or a minus.  Before
a point and at the end the last character of the run is kept.
-/
def afterZeros? (last : Char) : List Char → Option (List Char)
  | [] => some [last]
  | c :: rest =>
    if c = '0' ∨ c = '_' then afterZeros? c rest
    else if c = '.' then some (last :: c :: rest)
    else if c = '-' ∨ (asciiDigit? c).isSome then some (c :: rest)
    else none

/-- The text without zeros in front; it has to begin with a digit. -/
def withoutZeros? : List Char → Option (List Char)
  | [] => none
  | c :: rest =>
    if c = '0' then afterZeros? c rest
    else if (asciiDigit? c).isSome then some (c :: rest)
    else none

/-- An integer: the sign is kept, and what follows it becomes plain. -/
def integer (cs : List Char) : Except Rule Int :=
  let trimmed := trim isWhiteSpace cs
  let (negative, unsigned) := Numeral.sign trimmed
  match withoutZeros? unsigned with
  | some digits =>
    let digits := withoutFraction digits
    let digits := (joined? digits).getD digits
    PlainNumeral.integer (if negative then '-' :: digits else digits)
  | none => .error .intParsing

/-- A number: plain between white space, or plain without its underscores. -/
def real? (cs : List Char) : Option Double :=
  match PlainNumeral.real? (trim isWhiteSpace cs) with
  | some x => some x
  | none => (joined? cs).bind PlainNumeral.real?

end LenientNumeral

end FacetedSearch
