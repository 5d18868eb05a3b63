import FacetedSearch.Text.Blank

/-!
# Pieces of a text

A separator divides a text into pieces: one more than it has separators.

* `Text.pieces` — all pieces, in order.
* `Text.cutAtLast` — what stands before and after the last separator.
* `Text.items` — the pieces without the blanks around them, those that are empty then left out.
-/

set_option autoImplicit false

namespace FacetedSearch.Text

/-- The pieces between separators; also an empty text is one piece. -/
def pieces (separator : Char) : List Char → List (List Char)
  | [] => [[]]
  | c :: cs =>
    if c = separator then [] :: pieces separator cs
    else
      match pieces separator cs with
      | [] => [[c]]
      | piece :: rest => (c :: piece) :: rest

/-- What stands before and after the last separator, if there is a separator. -/
def cutAtLast (separator : Char) : List Char → Option (List Char × List Char)
  | [] => none
  | c :: cs =>
    match cutAtLast separator cs with
    | some (before, after) => some (c :: before, after)
    | none => if c = separator then some ([], cs) else none

/-- The items of a list that is written with commas: trimmed, and not empty. -/
def items (cs : List Char) : List (List Char) :=
  ((pieces ',' cs).map (trim isBlank)).filter fun item => !item.isEmpty

end FacetedSearch.Text
