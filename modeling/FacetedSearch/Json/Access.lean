import FacetedSearch.Json.Sameness
import FacetedSearch.Text.Numeral

/-!
# Taking values apart

Responses and records come from outside and may have any shape.  Taking such a value apart either
gives its parts or fails with the `Fault` that names what was wrong.

* `Json.get?`, `Json.members` — read an object.
* `Json.elements` — walk through an array, the characters of a string or the names of an object.
* `Json.mentions` — whether an object, an array or a string mentions a name.
* `Json.toInteger`, `Json.toPairs` — read a value as an integer or as a sequence of pairs.
-/

set_option autoImplicit false

namespace FacetedSearch

/-- What is wrong when a value cannot be used as asked. -/
inductive Fault where
  /-- a value of the wrong kind -/
  | type
  /-- a member read from something that has no members -/
  | attribute
  /-- a name that is not there -/
  | key
  /-- a position outside a list -/
  | index
  /-- a value of the right kind that is not admissible -/
  | value
  /-- an infinite number where an integer is needed -/
  | overflow
  deriving DecidableEq, Repr

namespace Json

/-- The members of an object. -/
def members : Json → Except Fault Members
  | obj ms => .ok ms
  | _ => .error .attribute

/-- The member of an object, if it has one of that name. -/
def get? (x : Json) (key : String) : Except Fault (Option Json) :=
  x.members.map (·.lookup key)

/-- The member of an object, or a substitute when it has none of that name. -/
def getD (x : Json) (key : String) (substitute : Json) : Except Fault Json :=
  (x.get? key).map (·.getD substitute)

/-- The values met when walking through a value. -/
def elements : Json → Except Fault (List Json)
  | arr items => .ok items
  | str s => .ok (s.toList.map fun c => str (String.singleton c))
  | obj ms => .ok (ms.map fun m => str m.1)
  | _ => .error .type

/-- Whether the word occurs in the text. -/
def occursIn (word : List Char) : List Char → Bool
  | [] => word.isEmpty
  | c :: cs => word.isPrefixOf (c :: cs) || occursIn word cs

/-- Whether a value mentions a name: as a member, as an item or as a part of its text. -/
def mentions (x : Json) (key : String) : Except Fault Bool :=
  match x with
  | obj ms => .ok (Members.has key ms)
  | arr items => .ok (items.any (same (str key)))
  | str s => .ok (occursIn key.toList s.toList)
  | _ => .error .type

/-- Whether a value can be looked up in a table. -/
def isAtom : Json → Bool
  | arr _ => false
  | obj _ => false
  | _ => true

/-- A value read as an integer: fractions are cut off, texts are read as numerals. -/
def toInteger : Json → Except Fault Int
  | bool b => .ok (countOf b)
  | int n => .ok n
  | float x =>
    match x.truncate? with
    | some n => .ok n
    | none => .error (if x.isNaN then .value else .overflow)
  | str s =>
    match Numeral.integer? s.toList with
    | some n => .ok n
    | none => .error .value
  | _ => .error .type

/-- A pair of values, given as a sequence of two; the first one names the second one. -/
def toPair (x : Json) : Except Fault (Json × Json) :=
  match x.elements with
  | .error _ => .error .type
  | .ok [key, value] => if key.isAtom then .ok (key, value) else .error .type
  | .ok _ => .error .value

/-- The pairs of a sequence of pairs. -/
def toPairs (x : Json) : Except Fault (List (Json × Json)) := do (← x.elements).mapM toPair

end Json

end FacetedSearch
