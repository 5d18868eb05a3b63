/-!
# Lone surrogates

JSON text writes a character beyond the first 65536 as a pair of escapes, the two surrogates of the
pair.  It may also hold one of them alone, for which there is no character.  A private character
stands for it here: it can be kept and compared, and written again as an escape, but UTF-8 has no
form for it, so that it cannot be sent to a client.

* `Text.ofSurrogate`, `Text.surrogate?` — the character that stands for a surrogate, and back.
* `Text.isWellFormed` — whether a text holds no lone surrogate.
-/

set_option autoImplicit false

namespace FacetedSearch.Text

/-- The first of the private characters that stand for surrogates. -/
def surrogateBase : Nat := 0x10f000

/-- Whether a unit is one of the 2048 surrogates. -/
def isSurrogate (u : Nat) : Bool := 0xd800 ≤ u && u < 0xe000

/-- The character that stands for a surrogate. -/
def ofSurrogate (u : Nat) : Char := Char.ofNat (surrogateBase + (u - 0xd800))

/-- The surrogate that a character stands for, if it does. -/
def surrogate? (c : Char) : Option Nat :=
  if surrogateBase ≤ c.toNat ∧ c.toNat < surrogateBase + 0x800 then
    some (c.toNat - surrogateBase + 0xd800)
  else none

/-- Whether a text holds no lone surrogate. -/
def isWellFormed (s : String) : Bool := s.toList.all fun c => (surrogate? c).isNone

/-- The character of a code point; a surrogate is kept as it is. -/
def ofCodePoint (n : Nat) : Char := if isSurrogate n then ofSurrogate n else Char.ofNat n

/-- The characters of a sequence of units, two surrogates in the order of a pair making one. -/
def ofUnits : List Nat → List Char
  | [] => []
  | [u] => [ofCodePoint u]
  | u :: v :: rest =>
    if 0xd800 ≤ u ∧ u < 0xdc00 ∧ 0xdc00 ≤ v ∧ v < 0xe000 then
      Char.ofNat (0x10000 + (u - 0xd800) * 0x400 + (v - 0xdc00)) :: ofUnits rest
    else ofCodePoint u :: ofUnits (v :: rest)

end FacetedSearch.Text
