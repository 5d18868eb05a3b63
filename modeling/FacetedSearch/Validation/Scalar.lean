import FacetedSearch.Text.Surrogate
import FacetedSearch.Validation.Numeral

/-!
# Reading scalars, lists and objects

Reading is lenient where no information is lost: a whole number may be given as a floating-point
number or as a text, a truth value as one of a few words, and so on.

* `Checked.string`, `Checked.word`, `Checked.integer`, `Checked.double`, `Checked.boolean` — scalars.
* `Checked.list`, `Checked.dictionary`, `Checked.model` — containers.
* `Checked.defaulted`, `Checked.required`, `Checked.aliased` — members of an object.
* `Checked.tagged` — one of several structured values.
-/

set_option autoImplicit false

namespace FacetedSearch.Checked

open Validation

variable {α : Type}

/-- A string. -/
def string : Json → Checked String
  | .str s => ok s
  | x => refuse .stringType x

/-- What the characters of a text stand for; a text with a lone surrogate stands for nothing. -/
def scanned (s : String) (check : List Char → Checked α) : Checked α :=
  if Text.isWellFormed s then check s.toList else refuse .stringUnicode (.str s)

/-- One of a few words, each of which stands for something. -/
def word (meaning : String → Option α) : Json → Checked α
  | .str s => scanned s fun _ =>
    match meaning s with
    | some x => ok x
    | none => refuse .literalError (.str s)
  | x => refuse .literalError x

/-- The whole numbers of floating-point kind that are accepted as integers end here. -/
def integralLimit : Int := Int.pow 2 63

/-- An integer: also a truth value, a whole floating-point number or a numeral. -/
def integer : Json → Checked Int
  | .int n => ok n
  | .bool b => ok (if b then 1 else 0)
  | .float x =>
    if x.isFinite then
      match x.toInt? with
      | some n =>
        if -integralLimit < n ∧ n < integralLimit then ok n else refuse .intParsingSize (.float x)
      | none => refuse .intFromFloat (.float x)
    else refuse .finiteNumber (.float x)
  | .str s => scanned s fun cs =>
    match LenientNumeral.integer cs with
    | .ok n => ok n
    | .error rule => refuse rule (.str s)
  | x => refuse .intType x

/-- An integer that is not negative. -/
def count (x : Json) : Checked Int :=
  (integer x).andThen fun n => if 0 ≤ n then ok n else refuse .greaterThanEqual x

/-- A floating-point number: also an integer with a finite nearest number, or a numeral. -/
def double : Json → Checked Double
  | .float x => ok x
  | .int n => if (Double.ofInt n).isFinite then ok (Double.ofInt n) else refuse .floatType (.int n)
  | .bool b => ok (Double.ofInt (if b then 1 else 0))
  | .str s => scanned s fun cs =>
    match LenientNumeral.real? cs with
    | some x => ok x
    | none => refuse .floatParsing (.str s)
  | x => refuse .floatType x

/-- The words for false. -/
def falseWords : List String := ["0", "off", "f", "false", "n", "no"]

/-- The words for true. -/
def trueWords : List String := ["1", "on", "t", "true", "y", "yes"]

/-- A truth value: also zero, one, or one of the words, in any case. -/
def boolean : Json → Checked Bool
  | .bool b => ok b
  | .int n =>
    if n = 0 then ok false
    else if n = 1 then ok true
    else if -integralLimit ≤ n ∧ n < integralLimit then refuse .boolParsing (.int n)
    else refuse .boolType (.int n)
  | .float x =>
    match x.toInt? with
    | some 0 => ok false
    | some 1 => ok true
    | some n =>
      if -integralLimit < n ∧ n < integralLimit then refuse .boolParsing (.float x)
      else refuse .boolType (.float x)
    | none => refuse .boolType (.float x)
  | .str s => scanned s fun cs =>
    let word := String.ofList (cs.map Char.toLower)
    if falseWords.contains word then ok false
    else if trueWords.contains word then ok true
    else refuse .boolParsing (.str s)
  | x => refuse .boolType x

/-- Any value. -/
def anything (x : Json) : Checked Json := ok x

/-- Null, or what the reader accepts. -/
def optional (check : Json → Checked α) : Json → Checked (Option α)
  | .null => ok none
  | x => (check x).map some

/-- An array whose items are all accepted. -/
def list (check : Json → Checked α) : Json → Checked (List α)
  | .arr xs => items check 0 xs
  | x => refuse .listType x

/-- An object whose members are all accepted. -/
def dictionary (check : Json → Checked α) : Json → Checked (List (String × α))
  | .obj ms => members check ms
  | x => refuse .dictType x

/-- An object with members of any kind. -/
def record : Json → Checked Members
  | .obj ms => ok ms
  | x => refuse .dictType x

/-- The members of a structured value; the rule names what else is refused as. -/
def model (shape : Rule) (check : Members → Checked α) : Json → Checked α
  | .obj ms => check ms
  | x => refuse shape x

/-- A member that may be absent. -/
def defaulted (ms : Members) (name : String) (check : Json → Checked α) (absent : α) : Checked α :=
  match ms.lookup name with
  | some x => (check x).under (.key name)
  | none => ok absent

/-- A member that must be present. -/
def required (ms : Members) (name : String) (check : Json → Checked α) : Checked α :=
  match ms.lookup name with
  | some x => (check x).under (.key name)
  | none => (refuse .missing (.obj ms)).under (.key name)

/-- A member that may be absent and has two names; the first name wins when both are given. -/
def aliased (ms : Members) (name alternative : String) (check : Json → Checked α) (absent : α) :
    Checked α :=
  match ms.lookup name with
  | some x => (check x).under (.key name)
  | none => defaulted ms alternative check absent

/--
One of several structured values, told apart by the text of a tag.  The causes found inside are
placed below the tag.
-/
def tagged (tagName : String) (choose : String → Option (Members → Checked α)) :
    Json → Checked α
  | .obj ms =>
    match ms.lookup tagName with
    | some (.str tag) =>
      match choose tag with
      | some check => (check ms).under (.key tag)
      | none => refuse .unionTagInvalid (.obj ms)
    | some _ => refuse .unionTagInvalid (.obj ms)
    | none => refuse .unionTagNotFound (.obj ms)
  | x => refuse .modelAttributesType x

end FacetedSearch.Checked
