import FacetedSearch.Filter.Basic
import FacetedSearch.Json.Presented
import FacetedSearch.Validation.Scalar

/-!
# Filters on the wire

Reading a filter from JSON and writing it out.  Parameters that are not given take the defaults of
the kind; parameters of other kinds are ignored.  How deep a value may nest before there is no room
to copy it is not modelled.

* `Filter.read` — read the members of an object as a filter of a given kind.
* `Filter.parse` — read a value as a filter of the kind that its tag names.
* `Filter.toJson` — write a filter with all its parameters.
* `Filter.presented` — the same as a client sees it, and `Filter.present` the same if it can be shown.
-/

set_option autoImplicit false

namespace FacetedSearch

open Checked Validation

/-- The bounds among the members of a range. -/
def Bounds.read (ms : Members) : Checked Bounds :=
  Bounds.mk <$> aliased ms "from" "from_" anything .null
    <*> defaulted ms "to" anything .null
    <*> defaulted ms "include_lower" (optional boolean) none
    <*> defaulted ms "include_upper" (optional boolean) none

/-- The tag among the members, when there is one, has to name the kind. -/
def FilterKind.checkTag (kind : FilterKind) (ms : Members) : Checked Unit :=
  defaulted ms "type" (word fun tag => if tag = kind.name then some () else none) ()

/-- The point of a geographic filter that names none. -/
def Constraint.origin : Json := .obj [("lon", .int 0), ("lat", .int 0)]

/-- The parameters of a kind among the members. -/
def Constraint.read (kind : FilterKind) (ms : Members) : Checked Constraint :=
  let tag := kind.checkTag ms
  match kind with
  | .term => (fun _ value => .term value) <$> tag <*> defaulted ms "term" anything (.str "")
  | .terms =>
    (fun _ values execution => .terms values execution) <$> tag
      <*> defaulted ms "terms" (list anything) []
      <*> defaulted ms "execution" (optional string) none
  | .range => (fun bounds _ => .range bounds) <$> Bounds.read ms <*> tag
  | .dateRange => (fun bounds _ => .dateRange bounds) <$> Bounds.read ms <*> tag
  | .geoDistance =>
    (fun _ point distance unit => .geoDistance point distance unit) <$> tag
      <*> defaulted ms "point" anything Constraint.origin
      <*> defaulted ms "distance" (fun x => (double x).map Distance.given) .unspecified
      <*> defaulted ms "unit" string "km"
  | .docType => (fun _ value => .docType value) <$> tag <*> defaulted ms "value" string ""
  | .present => (fun _ => .present) <$> tag
  | .absent => (fun _ => .absent) <$> tag

namespace Filter

/-- What all kinds share: the field and the negation. -/
def readShared (ms : Members) : Checked (String × Bool) :=
  Prod.mk <$> defaulted ms "field" string "" <*> aliased ms "not" "negate" boolean false

/-- What all kinds of range share. -/
def readBounded (ms : Members) : Checked ((String × Bool) × Bounds) :=
  Prod.mk <$> readShared ms <*> Bounds.read ms

/-- A filter of the given kind among the members of an object. -/
def read (kind : FilterKind) (ms : Members) : Checked Filter :=
  (fun shared constraint => ⟨shared.1, shared.2, constraint⟩) <$> readShared ms
    <*> Constraint.read kind ms

/-- The tag of an object; an object without one is tagged with null. -/
def tagOf (ms : Members) : Json := (ms.lookup "type").getD .null

/-- A filter of the kind that the value's tag names. -/
def parse : Json → Except Failure Filter
  | .obj ms => do
    let kind ← FilterKind.ofTag (tagOf ms)
    (read kind ms).orFail
  | x => .error (.unsupportedFilterKind x.kindName)

end Filter

/-- An optional truth value on the wire. -/
def Bounds.flag : Option Bool → Json
  | some b => .bool b
  | none => .null

/-- The members that write out bounds. -/
def Bounds.toMembers (any : Json → Json) (b : Bounds) : Members :=
  [("from", any b.lower), ("to", any b.upper), ("include_lower", flag b.includeLower),
    ("include_upper", flag b.includeUpper)]

/-- A distance written out. -/
def Distance.toJson : Distance → Json
  | unspecified => .float Double.ten
  | given x => .float x

/-- The members that write out the parameters of a constraint. -/
def Constraint.toMembers (any : Json → Json) : Constraint → Members
  | term value => [("term", any value)]
  | terms values execution =>
    [("terms", .arr (values.map any)), ("execution", (execution.map Json.str).getD .null)]
  | range bounds => bounds.toMembers any
  | dateRange bounds => bounds.toMembers any
  | geoDistance point distance unit =>
    [("point", any point), ("distance", distance.toJson), ("unit", .str unit)]
  | docType value => [("value", .str value)]
  | present => []
  | absent => []

/-- The values of any kind among the parameters of a constraint. -/
def Constraint.anyValues : Constraint → List Json
  | term value => [value]
  | terms values _ => values
  | range bounds => [bounds.lower, bounds.upper]
  | dateRange bounds => [bounds.lower, bounds.upper]
  | geoDistance point _ _ => [point]
  | _ => []

namespace Filter

/-- A filter with all its parameters, values of any kind being written as the argument says. -/
def write (any : Json → Json) (f : Filter) : Json :=
  .obj ([("field", .str f.field), ("not", .bool f.negated), ("type", .str f.kind.name)]
    ++ f.constraint.toMembers any)

/-- A filter with all its parameters. -/
def toJson (f : Filter) : Json := f.write id

/-- A filter as a client sees it. -/
def presented (f : Filter) : Json := f.write Json.presented

/-- The values of any kind in a filter. -/
def anyValues (f : Filter) : List Json := f.constraint.anyValues

/-- A filter as a client sees it, if it can be shown. -/
def present (f : Filter) : Except Failure Json := Json.shownWith f.anyValues f.presented

end Filter

end FacetedSearch
