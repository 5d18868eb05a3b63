/-!
# Blanks

Two notions of blank character, and the text without the blanks at its ends.

* `Text.isWhiteSpace` — the Unicode property `White_Space`.
* `Text.isBlank` — the same with the four information separators.
* `Text.trim` — the text between its leading and trailing blanks.
-/

set_option autoImplicit false

namespace FacetedSearch.Text

/-- The Unicode property `White_Space`. -/
def isWhiteSpace (c : Char) : Bool :=
  let n := c.toNat
  (9 ≤ n && n ≤ 13) || n == 0x20 || n == 0x85 || n == 0xa0 || n == 0x1680
    || (0x2000 ≤ n && n ≤ 0x200a) || n == 0x2028 || n == 0x2029 || n == 0x202f
    || n == 0x205f || n == 0x3000

/-- White space, or one of the separators of files, groups, records and units. -/
def isBlank (c : Char) : Bool :=
  isWhiteSpace c || (0x1c ≤ c.toNat && c.toNat ≤ 0x1f)

/-- The characters between the leading and the trailing ones that satisfy `p`. -/
def trim (p : Char → Bool) (cs : List Char) : List Char :=
  ((cs.dropWhile p).reverse.dropWhile p).reverse

/-- The text without leading and trailing blanks. -/
def strip (s : String) : String := String.ofList (trim isBlank s.toList)

end FacetedSearch.Text
