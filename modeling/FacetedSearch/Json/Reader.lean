import FacetedSearch.Json.Basic
import FacetedSearch.Text.Digit
import FacetedSearch.Text.Numeral
import FacetedSearch.Text.Surrogate

/-!
# Reading JSON text

A total reader.  Numbers without a point or an exponent are integers; the words `NaN`, `Infinity` and
`-Infinity` are numbers too.  A member named twice keeps its first place and its last value.  Reading
stops at the first thing that is malformed, or that goes beyond the limits of the reader.

* `Limits` — how long integers may be and how deep arrays and objects may nest.
* `Json.read` — the value of a text, within limits.
* `Json.parse?` — the value of a text, without limits.
-/

set_option autoImplicit false

namespace FacetedSearch

/-- Why a text is not read. -/
inductive ReadError where
  | malformed
  | beyondLimits
  deriving DecidableEq, Repr

/-- How far a reader goes. -/
structure Limits where
  /-- the digits of an integer -/
  digits : Nat
  /-- the arrays and objects inside of one another -/
  depth : Nat
  deriving DecidableEq, Repr

namespace Json

open Text Numeral

/-- The blanks allowed between tokens. -/
def isSpace (c : Char) : Bool := c == ' ' || c == '\t' || c == '\n' || c == '\r'

/-- The text after the blanks at its start. -/
def skip (cs : List Char) : List Char := cs.dropWhile isSpace

/-- The text after a word at its start. -/
def after? (word : String) (cs : List Char) : Option (List Char) :=
  if word.toList.isPrefixOf cs then some (cs.drop word.length) else none

/-- The value of a hexadecimal digit. -/
def hexValue? (c : Char) : Option Nat :=
  if 'a' ≤ c ∧ c ≤ 'f' then some (c.toNat - 0x57)
  else if 'A' ≤ c ∧ c ≤ 'F' then some (c.toNat - 0x37)
  else asciiDigit? c

/-- The character that a short escape stands for. -/
def shortEscape? : Char → Option Nat
  | '"' => some 0x22
  | '\\' => some 0x5c
  | '/' => some 0x2f
  | 'b' => some 8
  | 'f' => some 12
  | 'n' => some 10
  | 'r' => some 13
  | 't' => some 9
  | _ => none

/-- The characters of a string up to its closing quote, as numbers, the last one first. -/
def readUnits (acc : List Nat) : List Char → Option (List Nat × List Char)
  | [] => none
  | '"' :: rest => some (acc, rest)
  | '\\' :: 'u' :: a :: b :: c :: d :: rest =>
    match hexValue? a, hexValue? b, hexValue? c, hexValue? d with
    | some a, some b, some c, some d =>
      readUnits ((((a * 16 + b) * 16 + c) * 16 + d) :: acc) rest
    | _, _, _, _ => none
  | '\\' :: c :: rest =>
    match shortEscape? c with
    | some n => readUnits (n :: acc) rest
    | none => none
  | c :: rest => if c.toNat < 0x20 ∨ c = '\\' then none else readUnits (c.toNat :: acc) rest

/-- A string after its opening quote. -/
def readString (cs : List Char) : Option (String × List Char) :=
  (readUnits [] cs).map fun (units, rest) => (String.ofList (ofUnits units.reverse), rest)

/-- The digits after a point; a point without digits belongs to what follows. -/
def readFraction : List Char → Option (List Nat) × List Char
  | '.' :: rest =>
    match asciiDigits rest with
    | ([], _) => (none, '.' :: rest)
    | (ds, rest) => (some ds, rest)
  | rest => (none, rest)

/-- An exponent; a mark without digits belongs to what follows. -/
def readExponent : List Char → Option Int × List Char
  | c :: rest =>
    if c = 'e' ∨ c = 'E' then
      let (negative, digits) := sign rest
      match asciiDigits digits with
      | ([], _) => (none, c :: rest)
      | (ds, after) => (some (Double.signed negative (ofDigits ds)), after)
    else (none, c :: rest)
  | [] => (none, [])

/-- The sign of a number, which can only be a minus. -/
def readMinus : List Char → Bool × List Char
  | '-' :: rest => (true, rest)
  | rest => (false, rest)

/-- The digits of a number before a point; a zero stands alone. -/
def readWhole : List Char → List Nat × List Char
  | '0' :: rest => ([0], rest)
  | rest => asciiDigits rest

/-- A number: an integer unless it has a fraction or an exponent. -/
def readNumber (limits : Limits) (cs : List Char) : Except ReadError (Json × List Char) :=
  let (negative, cs) := readMinus cs
  let (whole, rest) := readWhole cs
  if whole.isEmpty then .error .malformed
  else
    let (part, rest) := readFraction rest
    let (exponent, rest) := readExponent rest
    match part, exponent with
    | none, none =>
      if limits.digits < whole.length then .error .beyondLimits
      else .ok (.int (Double.signed negative (ofDigits whole)), rest)
    | part, exponent =>
      let part := part.getD []
      let x := Double.ofDecimal negative (ofDigits (whole ++ part))
        (exponent.getD 0 - part.length)
      .ok (.float x, rest)

/-- The values that are single words. -/
def words : List (String × Json) :=
  [("null", .null), ("true", .bool true), ("false", .bool false),
    ("NaN", .float Double.notANumber), ("Infinity", .float (Double.infinity false)),
    ("-Infinity", .float (Double.infinity true))]

/-- A word or a number. -/
def readAtom (limits : Limits) (cs : List Char) : Except ReadError (Json × List Char) :=
  match words.findSome? fun (word, value) => (after? word cs).map fun rest => (value, rest) with
  | some found => .ok found
  | none => readNumber limits cs

mutual

/--
A value.  The first number bounds the nested readings, the second one the arrays and objects inside
of one another.
-/
def readValue (limits : Limits) : Nat → Nat → List Char → Except ReadError (Json × List Char)
  | 0, _, _ => .error .malformed
  | n + 1, depth, cs =>
    match cs with
    | '"' :: rest =>
      match readString rest with
      | some (s, rest) => .ok (.str s, rest)
      | none => .error .malformed
    | '{' :: rest =>
      match depth with
      | 0 => .error .beyondLimits
      | depth + 1 =>
        match skip rest with
        | '}' :: rest => .ok (.obj [], rest)
        | rest => readMembers limits n depth [] rest
    | '[' :: rest =>
      match depth with
      | 0 => .error .beyondLimits
      | depth + 1 =>
        match skip rest with
        | ']' :: rest => .ok (.arr [], rest)
        | rest => readItems limits n depth [] rest
    | cs => readAtom limits cs

/-- The items of an array from the first on, those read so far in reverse. -/
def readItems (limits : Limits) :
    Nat → Nat → List Json → List Char → Except ReadError (Json × List Char)
  | 0, _, _, _ => .error .malformed
  | n + 1, depth, acc, cs =>
    match readValue limits n depth cs with
    | .error e => .error e
    | .ok (x, rest) =>
      match skip rest with
      | ',' :: rest => readItems limits n depth (x :: acc) (skip rest)
      | ']' :: rest => .ok (.arr (x :: acc).reverse, rest)
      | _ => .error .malformed

/-- The members of an object from the first on, those read so far in reverse. -/
def readMembers (limits : Limits) :
    Nat → Nat → Members → List Char → Except ReadError (Json × List Char)
  | 0, _, _, _ => .error .malformed
  | n + 1, depth, acc, cs =>
    match cs with
    | '"' :: rest =>
      match readString rest with
      | none => .error .malformed
      | some (key, rest) =>
        match skip rest with
        | ':' :: rest =>
          match readValue limits n depth (skip rest) with
          | .error e => .error e
          | .ok (x, rest) =>
            match skip rest with
            | ',' :: rest => readMembers limits n depth ((key, x) :: acc) (skip rest)
            | '}' :: rest => .ok (.obj (Members.ofList ((key, x) :: acc).reverse), rest)
            | _ => .error .malformed
        | _ => .error .malformed
    | _ => .error .malformed

end

/-- The value of a text.  Every nested reading takes a character or follows one that did. -/
def read (limits : Limits) (cs : List Char) : Except ReadError Json := do
  let (x, rest) ← readValue limits (2 * cs.length + 2) limits.depth (skip cs)
  if (skip rest).isEmpty then return x else .error .malformed

/-- The value of a text, which is not longer than any limit. -/
def parse? (s : String) : Option Json :=
  let cs := s.toList
  (read ⟨cs.length, cs.length⟩ cs).toOption

end Json

end FacetedSearch
