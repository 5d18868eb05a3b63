import FacetedSearch.Json.Basic

/-!
# Checked values

Reading a structured value from JSON either succeeds or lists everything that is wrong with it.
Each cause says where it was found, which rule was broken and what was found there.

* `Checked` — a value or the causes of its refusal; combining two readings joins their causes in
  order, so that all are reported.
* `Checked.under` — places the causes below a member or an item.
* `Checked.items`, `Checked.members` — read every item of a list, every member of an object.
-/

set_option autoImplicit false

namespace FacetedSearch

namespace Validation

/-- One step of the way to a place in a value. -/
inductive PathItem where
  | key (name : String)
  | index (position : Nat)
  deriving DecidableEq, Repr

/-- The rules that a value can break. -/
inductive Rule where
  | stringType
  | stringUnicode
  | intType
  | intParsing
  | intFromFloat
  | finiteNumber
  | intParsingSize
  | greaterThanEqual
  | floatType
  | floatParsing
  | boolType
  | boolParsing
  | listType
  | tooShort
  | dictType
  | modelType
  | modelAttributesType
  | missing
  | literalError
  | unionTagNotFound
  | unionTagInvalid
  | jsonInvalid
  | valueError
  deriving DecidableEq, Repr

/-- The word that names a rule in reports. -/
def Rule.code : Rule → String
  | stringType => "string_type"
  | stringUnicode => "string_unicode"
  | intType => "int_type"
  | intParsing => "int_parsing"
  | intFromFloat => "int_from_float"
  | finiteNumber => "finite_number"
  | intParsingSize => "int_parsing_size"
  | greaterThanEqual => "greater_than_equal"
  | floatType => "float_type"
  | floatParsing => "float_parsing"
  | boolType => "bool_type"
  | boolParsing => "bool_parsing"
  | listType => "list_type"
  | tooShort => "too_short"
  | dictType => "dict_type"
  | modelType => "model_type"
  | modelAttributesType => "model_attributes_type"
  | missing => "missing"
  | literalError => "literal_error"
  | unionTagNotFound => "union_tag_not_found"
  | unionTagInvalid => "union_tag_invalid"
  | jsonInvalid => "json_invalid"
  | valueError => "value_error"

/-- Something wrong with a value: the place, the broken rule and what was found. -/
structure Cause where
  path : List PathItem
  rule : Rule
  input : Json
  deriving DecidableEq, Repr

/-- One step of a path in reports. -/
def PathItem.render : PathItem → String
  | key name => name
  | index position => toString position

/-- A cause in reports: the steps joined by points, a colon and the rule. -/
def Cause.render (c : Cause) : String :=
  ".".intercalate (c.path.map PathItem.render) ++ ":" ++ c.rule.code

/-- All causes, in order. -/
def report (causes : List Cause) : String := "; ".intercalate (causes.map Cause.render)

end Validation

open Validation

/-- A value read from JSON, or the causes of its refusal. -/
inductive Checked (α : Type) where
  | ok (value : α)
  | refused (causes : List Cause)
  deriving DecidableEq, Repr

namespace Checked

variable {α β : Type}

/-- Apply a function to the value. -/
def map (f : α → β) : Checked α → Checked β
  | ok x => ok (f x)
  | refused causes => refused causes

/-- Combine two readings; the causes of both are reported. -/
def seq (f : Checked (α → β)) (x : Checked α) : Checked β :=
  match f, x with
  | ok f, ok x => ok (f x)
  | ok _, refused causes => refused causes
  | refused causes, ok _ => refused causes
  | refused causes, refused more => refused (causes ++ more)

instance : Applicative Checked where
  pure := ok
  map := map
  seq f x := seq f (x ())

/-- A further rule for a value that was read. -/
def andThen (x : Checked α) (f : α → Checked β) : Checked β :=
  match x with
  | ok x => f x
  | refused causes => refused causes

/-- A value that breaks a rule. -/
def refuse (rule : Rule) (input : Json) : Checked α := refused [⟨[], rule, input⟩]

/-- The same reading one step further down. -/
def under (item : PathItem) : Checked α → Checked α
  | ok x => ok x
  | refused causes => refused (causes.map fun c => { c with path := item :: c.path })

/-- Read every item of a list, the first one being at the given position. -/
def items (check : Json → Checked α) (position : Nat) : List Json → Checked (List α)
  | [] => ok []
  | x :: xs =>
    seq (map List.cons ((check x).under (.index position))) (items check (position + 1) xs)

/-- Read every member of an object. -/
def members (check : Json → Checked α) : Members → Checked (List (String × α))
  | [] => ok []
  | (key, x) :: ms =>
    seq (map (fun y rest => (key, y) :: rest) ((check x).under (.key key))) (members check ms)

end Checked

end FacetedSearch
