import FacetedSearch.Json.Basic
import FacetedSearch.Text.Surrogate

/-!
# Values as clients see them

JSON text has no form for infinities and for patterns that stand for no number.  A client is shown
null in their place, wherever a value of any kind may stand.  Such a value is only shown when it does
not nest too deeply, and it is only sent when all its texts can be.

* `Json.presented` — the value as a client sees it.
* `Json.isWritable` — whether JSON text can hold the value as it is.
* `Json.isWellFormed` — whether no text of the value holds a lone surrogate.
* `Json.levels`, `Json.isShallow` — how deep a value nests, and whether it can be shown.
* `Json.reported` — the value as it is told in a report of what was refused.
-/

set_option autoImplicit false

namespace FacetedSearch.Json

mutual

/-- The value with null for every number that has no text. -/
def presented : Json → Json
  | float x => if x.isFinite then float x else null
  | arr items => arr (presentedItems items)
  | obj members => obj (presentedMembers members)
  | x => x

/-- Items as a client sees them. -/
def presentedItems : List Json → List Json
  | [] => []
  | x :: xs => presented x :: presentedItems xs

/-- Members as a client sees them. -/
def presentedMembers : List (String × Json) → List (String × Json)
  | [] => []
  | (key, x) :: ms => (key, presented x) :: presentedMembers ms

end

mutual

/-- Whether every number in the value is finite. -/
def isWritable : Json → Bool
  | float x => x.isFinite
  | arr items => areWritable items
  | obj members => membersAreWritable members
  | _ => true

/-- Whether every number in the items is finite. -/
def areWritable : List Json → Bool
  | [] => true
  | x :: xs => isWritable x && areWritable xs

/-- Whether every number in the members is finite. -/
def membersAreWritable : List (String × Json) → Bool
  | [] => true
  | (_, x) :: ms => isWritable x && membersAreWritable ms

end

mutual

/-- Whether no text and no name in the value holds a lone surrogate. -/
def isWellFormed : Json → Bool
  | str s => Text.isWellFormed s
  | arr items => areWellFormed items
  | obj members => membersAreWellFormed members
  | _ => true

/-- Whether no text in the items holds a lone surrogate. -/
def areWellFormed : List Json → Bool
  | [] => true
  | x :: xs => isWellFormed x && areWellFormed xs

/-- Whether no text and no name in the members holds a lone surrogate. -/
def membersAreWellFormed : List (String × Json) → Bool
  | [] => true
  | (key, x) :: ms => Text.isWellFormed key && isWellFormed x && membersAreWellFormed ms

end

mutual

/-- How many values stand inside of one another, the value itself included. -/
def levels : Json → Nat
  | arr items => 1 + levelsOfItems items
  | obj members => 1 + levelsOfMembers members
  | _ => 1

/-- The levels of the deepest item. -/
def levelsOfItems : List Json → Nat
  | [] => 0
  | x :: xs => max (levels x) (levelsOfItems xs)

/-- The levels of the deepest member. -/
def levelsOfMembers : List (String × Json) → Nat
  | [] => 0
  | (_, x) :: ms => max (levels x) (levelsOfMembers ms)

end

/-- Values of any kind are shown up to this many levels. -/
def levelLimit : Nat := 255

/-- Whether a value does not nest too deeply to be shown. -/
def isShallow (x : Json) : Bool := x.levels ≤ levelLimit

/-- Members of these names belong to whoever made the object, and are not told. -/
def isInternal (name : String) : Bool := "_sa".toList.isPrefixOf name.toList

mutual

/-- The value without internal members. -/
def reported : Json → Json
  | arr items => arr (reportedItems items)
  | obj members => obj (reportedMembers members)
  | x => x

/-- Items without internal members. -/
def reportedItems : List Json → List Json
  | [] => []
  | x :: xs => reported x :: reportedItems xs

/-- The members that are told. -/
def reportedMembers : List (String × Json) → List (String × Json)
  | [] => []
  | (key, x) :: ms =>
    if isInternal key then reportedMembers ms else (key, reported x) :: reportedMembers ms

end

end FacetedSearch.Json
