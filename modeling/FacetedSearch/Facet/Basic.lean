import FacetedSearch.Aggregation.Basic

/-!
# Facets

A facet counts the values of one field, or how the records are spread over time.  Facets are the
older sibling of aggregations and are registered under the field itself.

* `Facet.read`, `Facet.toJson` — the wire form, told apart by `kind`.
* `Facet.toEngine` — the facet as the engine reads it.
-/

set_option autoImplicit false

namespace FacetedSearch

/-- What a facet counts. -/
inductive Count where
  /-- the records of every value, for at most so many values -/
  | terms (size : Option Int)
  /-- the records of every interval of time -/
  | dateHistogram (interval : String)
  deriving DecidableEq, Repr

/-- A count of the records found by one field. -/
structure Facet where
  field : String
  count : Count
  deriving DecidableEq, Repr

/-- The name of a count, on the wire and for the engine. -/
def Count.name : Count → String
  | terms _ => "terms"
  | dateHistogram _ => "date_histogram"

namespace Facet

open Checked

/-- A count of values. -/
def readTerms (ms : Members) : Checked Facet :=
  (fun field size => ⟨field, .terms size⟩) <$> required ms "field" string
    <*> defaulted ms "size" (optional integer) none

/-- A count over time. -/
def readHistogram (ms : Members) : Checked Facet :=
  (fun field interval => ⟨field, .dateHistogram interval⟩) <$> required ms "field" string
    <*> required ms "interval" string

/-- The reading that a kind calls for. -/
def readerOf : String → Option (Members → Checked Facet)
  | "terms" => some readTerms
  | "date_histogram" => some readHistogram
  | _ => none

/-- A facet of the kind that the value names. -/
def read : Json → Checked Facet := tagged "kind" readerOf

/-- A facet with all its parameters. -/
def toJson (f : Facet) : Json :=
  .obj ([("kind", .str f.count.name), ("field", .str f.field)]
    ++ match f.count with
      | .terms size => [("size", Grouping.sizeToJson size)]
      | .dateHistogram interval => [("interval", .str interval)])

/-- The parameters that the engine reads. -/
def parameters (f : Facet) : Members :=
  ("field", .str f.field)
    :: match f.count with
      | .terms (some size) => [("size", .int size)]
      | .terms none => []
      | .dateHistogram interval => [("interval", .str interval)]

/-- The facet as the engine reads it. -/
def toEngine (f : Facet) : Json := .obj [(f.count.name, .obj f.parameters)]

/-- Facets as the engine reads them, under their keys. -/
def block (fs : List (String × Facet)) : Members := fs.map fun (k, f) => (k, f.toEngine)

end Facet

end FacetedSearch
