import FacetedSearch.Validation.Scalar

/-!
# Aggregations

An aggregation groups the records found by the values of one field.  It is registered under a key,
the field's name with its points replaced, because a key may not hold a point.

* `Aggregation.key` — the key of a field.
* `Aggregation.read`, `Aggregation.toJson` — the wire form, told apart by `kind`.
* `Aggregation.toEngine` — the aggregation as the engine reads it.
-/

set_option autoImplicit false

namespace FacetedSearch

/-- How an aggregation groups records. -/
inductive Grouping where
  /-- by value, at most so many groups -/
  | terms (size : Option Int)
  /-- by ranges of numbers -/
  | range (ranges : List Members)
  /-- by ranges of dates written in a format -/
  | dateRange (format : String) (ranges : List Members)
  deriving DecidableEq, Repr

/-- A grouping of the records found by one field. -/
structure Aggregation where
  field : String
  grouping : Grouping
  deriving DecidableEq, Repr

/-- The name of a grouping, on the wire and for the engine. -/
def Grouping.name : Grouping → String
  | terms _ => "terms"
  | range _ => "range"
  | dateRange _ _ => "date_range"

/-- Ranges written out. -/
def Grouping.rangesToJson (ranges : List Members) : Json := .arr (ranges.map .obj)

/-- An optional count written out. -/
def Grouping.sizeToJson : Option Int → Json
  | some n => .int n
  | none => .null

namespace Aggregation

open Checked

/-- The key of a field: its points become underscores. -/
def key (field : String) : String := field.map fun c => if c = '.' then '_' else c

/-- Ranges, each an object. -/
def readRanges : Json → Checked (List Members) := list record

/-- A grouping by value. -/
def readTerms (ms : Members) : Checked Aggregation :=
  (fun field size => ⟨field, .terms size⟩) <$> required ms "field" string
    <*> defaulted ms "size" (optional integer) none

/-- A grouping by ranges of numbers. -/
def readRange (ms : Members) : Checked Aggregation :=
  (fun field ranges => ⟨field, .range ranges⟩) <$> required ms "field" string
    <*> defaulted ms "ranges" readRanges []

/-- A grouping by ranges of dates. -/
def readDateRange (ms : Members) : Checked Aggregation :=
  (fun field format ranges => ⟨field, .dateRange format ranges⟩) <$> required ms "field" string
    <*> required ms "format" string <*> defaulted ms "ranges" readRanges []

/-- The reading that a kind calls for. -/
def readerOf : String → Option (Members → Checked Aggregation)
  | "terms" => some readTerms
  | "range" => some readRange
  | "date_range" => some readDateRange
  | _ => none

/-- An aggregation of the kind that the value names. -/
def read : Json → Checked Aggregation := tagged "kind" readerOf

/--
An aggregation with all its parameters, values of any kind being written as the argument says.
-/
def write (any : Json → Json) (a : Aggregation) : Json :=
  .obj ([("kind", .str a.grouping.name), ("field", .str a.field)]
    ++ match a.grouping with
      | .terms size => [("size", Grouping.sizeToJson size)]
      | .range ranges => [("ranges", any (Grouping.rangesToJson ranges))]
      | .dateRange format ranges =>
        [("format", .str format), ("ranges", any (Grouping.rangesToJson ranges))])

/-- The values of any kind in an aggregation. -/
def anyValues (a : Aggregation) : List Json :=
  match a.grouping with
  | .terms _ => []
  | .range ranges => ranges.flatMap Members.values
  | .dateRange _ ranges => ranges.flatMap Members.values

/-- An aggregation with all its parameters. -/
def toJson (a : Aggregation) : Json := a.write id

/-- The parameters that the engine reads. -/
def parameters (a : Aggregation) : Members :=
  ("field", .str a.field)
    :: match a.grouping with
      | .terms (some size) => [("size", .int size)]
      | .terms none => []
      | .range ranges => [("ranges", Grouping.rangesToJson ranges)]
      | .dateRange format ranges =>
        [("format", .str format), ("ranges", Grouping.rangesToJson ranges)]

/-- The aggregation as the engine reads it. -/
def toEngine (a : Aggregation) : Json := .obj [(a.grouping.name, .obj a.parameters)]

/-- The format of dates, if the aggregation declares one. -/
def dateFormat? (a : Aggregation) : Option String :=
  match a.grouping with
  | .dateRange format _ => some format
  | _ => none

/-- The key of the aggregation that searches over all types add. -/
def topDocsKey : String := "top_docs"

/-- The best hits of every type of record, the type with the best hit first. -/
def topDocs : Json :=
  .obj [
    ("terms", .obj [("field", .str "_type"), ("order", .obj [("top_hit", .str "desc")])]),
    ("aggs", .obj [
      ("top_tags_hits", .obj [("top_hits", .obj [("size", .int 10)])]),
      ("top_hit", .obj [("max", .obj [("script", .str "_score"), ("lang", .str "groovy")])])])]

/-- Aggregations as the engine reads them, under their keys. -/
def block (as : List (String × Aggregation)) : Members := as.map fun (k, a) => (k, a.toEngine)

end Aggregation

end FacetedSearch
