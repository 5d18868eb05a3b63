import FacetedSearch.Text.Surrogate

/-!
# Encodings

JSON text arrives as octets, in one of the encodings of Unicode.  The first octets tell which: those
of the two characters at the start, which are ASCII, are zero in places that differ from encoding to
encoding.  A mark of the byte order at the start says UTF-8 and does not belong to the text.

* `Encoding` — the encodings, and `Encoding.ofOctets` tells which one is used.
* `Text.decode?` — the text that octets encode.
-/

set_option autoImplicit false

namespace FacetedSearch

/-- The encodings of Unicode; a large number is written with its high octet first or last. -/
inductive Encoding where
  | utf8
  | utf16 (highFirst : Bool)
  | utf32 (highFirst : Bool)
  deriving DecidableEq, Repr

namespace Encoding

/-- The encoding that the octets at the start of a JSON text tell. -/
def ofOctets : List Nat → Encoding
  | a :: b :: c :: d :: _ =>
    if a = 0 then if b = 0 then utf32 true else utf16 true
    else if b = 0 then if c = 0 ∧ d = 0 then utf32 false else utf16 false
    else utf8
  | [a, b] => if a = 0 then utf16 true else if b = 0 then utf16 false else utf8
  | _ => utf8

end Encoding

namespace Text

/-- The octets of a text in UTF-8. -/
def octets (s : String) : List Nat := s.toUTF8.toList.map (·.toNat)

/-- Numbers of two octets each; an odd octet at the end is refused. -/
def pairs? (highFirst : Bool) : List Nat → Option (List Nat)
  | [] => some []
  | [_] => none
  | a :: b :: rest =>
    (pairs? highFirst rest).map ((if highFirst then a * 256 + b else b * 256 + a) :: ·)

/-- Numbers of four octets each, made of two numbers of two octets. -/
def quadruples? (highFirst : Bool) : List Nat → Option (List Nat)
  | [] => some []
  | [_] => none
  | a :: b :: rest =>
    (quadruples? highFirst rest).map ((if highFirst then a * 65536 + b else b * 65536 + a) :: ·)

/-- The characters of code points, none of which may be too large. -/
def ofCodePoints? (ns : List Nat) : Option (List Char) :=
  if ns.all (· < 0x110000) then some (ns.map ofCodePoint) else none

/-- The text without the mark of the byte order at its start. -/
def unmarked (s : String) : List Char :=
  match s.toList with
  | c :: cs => if c = '\ufeff' then cs else c :: cs
  | [] => []

/-- The JSON text that the octets of `s` encode, if they encode one. -/
def decode? (s : String) : Option (List Char) :=
  let os := octets s
  match Encoding.ofOctets os with
  | .utf8 => some (unmarked s)
  | .utf16 highFirst => (pairs? highFirst os).map ofUnits
  | .utf32 highFirst =>
    (pairs? highFirst os).bind fun units => (quadruples? highFirst units).bind ofCodePoints?

end Text

end FacetedSearch
