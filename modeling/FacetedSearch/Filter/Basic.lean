import FacetedSearch.Failure

/-!
# Filters

A filter constrains one field of the records that are searched.  There are eight kinds; each has its
own parameters, and any filter can be negated.

* `FilterKind` — the kinds and their wire names.
* `Filter` — a filter.
* `FilterKind.ofTag` — the kind that a tag names, or the failure that names the tag.
-/

set_option autoImplicit false

namespace FacetedSearch

/-- The kinds of filter. -/
inductive FilterKind where
  | term
  | terms
  | range
  | dateRange
  | geoDistance
  | docType
  | present
  | absent
  deriving DecidableEq, Repr

namespace FilterKind

/-- Every kind. -/
def all : List FilterKind :=
  [term, terms, range, dateRange, geoDistance, docType, present, absent]

/-- The name of a kind on the wire. -/
def name : FilterKind → String
  | term => "term"
  | terms => "terms"
  | range => "range"
  | dateRange => "date_range"
  | geoDistance => "geo_distance"
  | docType => "type"
  | present => "exists"
  | absent => "missing"

/-- The kind of that name. -/
def ofName? (s : String) : Option FilterKind := all.find? fun k => k.name == s

/--
The kind that a tag names.  A tag that cannot be looked up at all is a misuse, and so is one that
names no kind and cannot be named in turn.
-/
def ofTag (tag : Json) : Except Failure FilterKind :=
  if tag.isAtom then
    match tag with
    | .str s =>
      match ofName? s with
      | some kind => .ok kind
      | none => .error (.unsupportedFilterKind s)
    | tag => do
      let named ← Json.orFail tag.text
      .error (.unsupportedFilterKind named)
  else .error (.fault .type)

end FilterKind

/-- The bounds of a range.  Values of any kind are kept; only numeric ones are ever sent. -/
structure Bounds where
  lower : Json
  upper : Json
  includeLower : Option Bool
  includeUpper : Option Bool
  deriving DecidableEq, Repr

/--
The distance of a geographic filter.  One that is not given is ten, written as an integer in clauses
and as a floating-point number where the filter itself is written out.
-/
inductive Distance where
  | unspecified
  | given (value : Double)
  deriving DecidableEq, Repr

/-- What a filter demands of its field. -/
inductive Constraint where
  /-- the field has this value -/
  | term (value : Json)
  /-- the field has one of these values -/
  | terms (values : List Json) (execution : Option String)
  /-- the field lies in a range -/
  | range (bounds : Bounds)
  /-- the field is a date in a range -/
  | dateRange (bounds : Bounds)
  /-- the field is a place near a point -/
  | geoDistance (point : Json) (distance : Distance) (unit : String)
  /-- the record has this type -/
  | docType (value : String)
  /-- the field has a value -/
  | present
  /-- the field has no value -/
  | absent
  deriving DecidableEq, Repr

/-- A constraint on one field. -/
structure Filter where
  field : String
  negated : Bool
  constraint : Constraint
  deriving DecidableEq, Repr

/-- The kind of a constraint. -/
def Constraint.kind : Constraint → FilterKind
  | term _ => .term
  | terms _ _ => .terms
  | range _ => .range
  | dateRange _ => .dateRange
  | geoDistance _ _ _ => .geoDistance
  | docType _ => .docType
  | present => .present
  | absent => .absent

/-- The kind of a filter. -/
def Filter.kind (f : Filter) : FilterKind := f.constraint.kind

end FacetedSearch
