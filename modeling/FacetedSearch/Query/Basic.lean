import FacetedSearch.Aggregation.Basic
import FacetedSearch.Facet.Basic
import FacetedSearch.Filter.Basic

/-!
# Queries

A query is independent of the engine that answers it: what to search for, how to narrow it down,
what to group and count, and which part of the records found to return.

* `Query` — a query.
* `Query.blank` — the query that finds everything.
* `Query.lastFilter?` — the filter in force on a field.
-/

set_option autoImplicit false

namespace FacetedSearch

/-- The identifier of a record. -/
inductive RecordId where
  | text (value : String)
  | number (value : Int)
  deriving DecidableEq, Repr

/-- An identifier as a value. -/
def RecordId.toJson : RecordId → Json
  | text s => .str s
  | number n => .int n

/-- A field that a free text is looked for in, and how much a match there counts. -/
structure BoostField where
  field : String
  boost : Option Double
  deriving DecidableEq, Repr

/-- A demand that a field has a value. -/
structure BoolClause where
  field : String
  value : Json
  deriving DecidableEq, Repr

/-- Further demands on the records, by how they occur. -/
structure BoolClauses where
  must : List BoolClause
  should : List BoolClause
  mustNot : List BoolClause
  deriving DecidableEq, Repr

/-- The ways in which a demand can occur. -/
inductive Occurrence where
  | must
  | should
  | mustNot
  deriving DecidableEq, Repr

/-- One key of the order of the records found; everything but the field is for the engine. -/
structure SortKey where
  field : String
  options : Members
  deriving DecidableEq, Repr

/-- Whether a search is over one type of record or over all of them. -/
inductive Mode where
  | default
  | allTypes
  deriving DecidableEq, Repr

/-- A query. -/
structure Query where
  /-- free text; empty searches for everything -/
  text : String
  /-- the records asked for by identifier, if they are -/
  ids : Option (List RecordId)
  /-- where free text is looked for -/
  boosts : List BoostField
  /-- further demands -/
  clauses : BoolClauses
  /-- the filters in force -/
  filters : List Filter
  /-- aggregations by key -/
  aggregations : List (String × Aggregation)
  /-- what is selected in an aggregation, by key -/
  selections : List (String × Json)
  /-- facets by field -/
  facets : List (String × Facet)
  /-- the order of the records -/
  sort : List SortKey
  /-- the fields in which matches are marked -/
  highlights : List String
  /-- how many records to return -/
  size : Int
  /-- how many records to skip -/
  start : Int
  mode : Mode
  deriving DecidableEq, Repr

/-- No further demands. -/
def BoolClauses.none : BoolClauses := ⟨[], [], []⟩

/-- Whether there are further demands. -/
def BoolClauses.isAny (c : BoolClauses) : Bool :=
  !c.must.isEmpty || !c.should.isEmpty || !c.mustNot.isEmpty

/-- All demands. -/
def BoolClauses.all (c : BoolClauses) : List BoolClause := c.must ++ c.should ++ c.mustNot

/-- One more demand, after those that occur in the same way. -/
def BoolClauses.push (c : BoolClauses) (occurrence : Occurrence) (clause : BoolClause) :
    BoolClauses :=
  match occurrence with
  | .must => { c with must := c.must ++ [clause] }
  | .should => { c with should := c.should ++ [clause] }
  | .mustNot => { c with mustNot := c.mustNot ++ [clause] }

/-- The name of a way to occur. -/
def Occurrence.name : Occurrence → String
  | must => "must"
  | should => "should"
  | mustNot => "must_not"

/-- The way to occur of that name. -/
def Occurrence.ofName? (s : String) : Option Occurrence :=
  [must, should, mustNot].find? fun o => o.name == s

/-- The name of a mode. -/
def Mode.name : Mode → String
  | default => "default"
  | allTypes => "all_types"

/-- The mode of that name. -/
def Mode.ofName? (s : String) : Option Mode :=
  [default, allTypes].find? fun m => m.name == s

namespace Query

/-- The query that finds everything and returns so many records. -/
def blank (size : Int) : Query :=
  { text := ""
    ids := none
    boosts := []
    clauses := .none
    filters := []
    aggregations := []
    selections := []
    facets := []
    sort := []
    highlights := []
    size := size
    start := 0
    mode := .default }

/-- The filter in force on a field: the last one, if there are several. -/
def lastFilter? (q : Query) (field : String) : Option Filter :=
  (q.filters.filter fun f => f.field == field).getLast?

end Query

end FacetedSearch
