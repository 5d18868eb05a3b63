import FacetedSearch.Json.Access
import FacetedSearch.Number.Shortest
import FacetedSearch.Text.Quoted

/-!
# Values in messages and identifiers

The text under which a value appears in a message or serves as an identifier: a string is its own
text, other values are shown in a notation of their own, in which strings are quoted and the three
words are capitalised.  An integer is written down only up to so many digits, the same as are read,
and a value with a longer one in it has no text.  How deep a value may nest before there is no room
to show it is not modelled.

* `Json.isPrintable` — whether no integer in a value is too long to be written.
* `Json.text` — the text of a value, and `Json.quoted` the same with strings in quotes.
* `Json.shown` — the notation itself, used inside arrays and objects.
* `Json.label` — the text of a value where there has to be one.
* `Json.kindName` — the name of a value's kind in messages.
* `Json.keyText?` — the member name that a value becomes when it is used as one.
-/

set_option autoImplicit false

namespace FacetedSearch.Json

mutual

/-- A value in the notation of messages. -/
def shown : Json → String
  | null => "None"
  | bool true => "True"
  | bool false => "False"
  | int n => toString n
  | float x => x.text
  | str s => Text.quote s
  | arr items => "[" ++ ", ".intercalate (shownItems items) ++ "]"
  | obj members => "\x7b" ++ ", ".intercalate (shownMembers members) ++ "\x7d"

/-- Items in the notation of messages. -/
def shownItems : List Json → List String
  | [] => []
  | x :: xs => shown x :: shownItems xs

/-- Members in the notation of messages. -/
def shownMembers : List (String × Json) → List String
  | [] => []
  | (key, x) :: ms => (Text.quote key ++ ": " ++ shown x) :: shownMembers ms

end

mutual

/-- Whether every integer in the value can be written. -/
def isPrintable : Json → Bool
  | int n => Numeral.isWritable n
  | arr items => arePrintable items
  | obj members => membersArePrintable members
  | _ => true

/-- Whether every integer in the items can be written. -/
def arePrintable : List Json → Bool
  | [] => true
  | x :: xs => isPrintable x && arePrintable xs

/-- Whether every integer in the members can be written. -/
def membersArePrintable : List (String × Json) → Bool
  | [] => true
  | (_, x) :: ms => isPrintable x && membersArePrintable ms

end

/-- A value in the notation of messages, if it can be written. -/
def quoted (x : Json) : Except Fault String :=
  if x.isPrintable then .ok x.shown else .error .value

/-- The text of a value, if it can be written: a string is its own text. -/
def text : Json → Except Fault String
  | str s => .ok s
  | x => x.quoted

/-- The name of a value's kind. -/
def kindName : Json → String
  | null => "NoneType"
  | bool _ => "bool"
  | int _ => "int"
  | float _ => "float"
  | str _ => "str"
  | arr _ => "list"
  | obj _ => "dict"

/-- The text of a value, or what is put in its place when it cannot be written. -/
def label (x : Json) : String :=
  match x.text with
  | .ok s => s
  | .error _ => "<unprintable " ++ x.kindName ++ " object>"

/-- The layout of a number that becomes a member name. -/
def keyLayout : Layout := { Layout.plain with notANumber := "NaN", infinity := "Infinity" }

/-- The member name that a value becomes; arrays and objects cannot name a member. -/
def keyText? : Json → Option String
  | null => some "null"
  | bool true => some "true"
  | bool false => some "false"
  | int n => some (toString n)
  | float x => some (keyLayout.write x)
  | str s => some s
  | arr _ => none
  | obj _ => none

end FacetedSearch.Json
