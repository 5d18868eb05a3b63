import FacetedSearch.Json.Basic
import FacetedSearch.Number.Shortest
import FacetedSearch.Text.Quoted
import FacetedSearch.Text.Surrogate

/-!
# Writing JSON text

Values are written without blanks, members in their order, and floating-point numbers with a point
or an exponent, so that they stay distinct from integers.  The text holds printable ASCII only: other
characters are escaped, those beyond the first 65536 as a pair of surrogates.

* `Json.render` — the text of a value.
-/

set_option autoImplicit false

namespace FacetedSearch.Json

/-- Numbers as the reader reads them back. -/
def numberLayout : Layout := { Layout.plain with notANumber := "NaN", infinity := "Infinity" }

/-- The escape of one unit. -/
def escapeUnit (n : Nat) : List Char := '\\' :: 'u' :: Text.hexDigits 4 n

/-- The units of a character. -/
def unitsOf (c : Char) : List Nat :=
  match Text.surrogate? c with
  | some u => [u]
  | none =>
    if c.toNat < 0x10000 then [c.toNat]
    else [0xd800 + (c.toNat - 0x10000) / 0x400, 0xdc00 + (c.toNat - 0x10000) % 0x400]

/-- A character inside a string. -/
def escapeChar (c : Char) : List Char :=
  if c = '"' ∨ c = '\\' then ['\\', c]
  else if 0x20 ≤ c.toNat ∧ c.toNat < 0x7f then [c]
  else (unitsOf c).flatMap escapeUnit

/-- A string between quotes. -/
def renderString (s : String) : String :=
  String.ofList ('"' :: s.toList.flatMap escapeChar ++ ['"'])

mutual

/-- The text of a value. -/
def render : Json → String
  | null => "null"
  | bool true => "true"
  | bool false => "false"
  | int n => toString n
  | float x => numberLayout.write x
  | str s => renderString s
  | arr items => "[" ++ ",".intercalate (renderItems items) ++ "]"
  | obj members => "\x7b" ++ ",".intercalate (renderMembers members) ++ "\x7d"

/-- The texts of items. -/
def renderItems : List Json → List String
  | [] => []
  | x :: xs => render x :: renderItems xs

/-- The texts of members. -/
def renderMembers : List (String × Json) → List String
  | [] => []
  | (key, x) :: ms => (renderString key ++ ":" ++ render x) :: renderMembers ms

end

end FacetedSearch.Json
