import FacetedSearch.Query.Wire

/-!
# Changing a query

A long-lived query is changed one mutation at a time.  A mutation takes its arguments as JSON values.
It checks them and writes to the query step by step, and either fails on its way or has an event to
announce in the end.

* `Event` — the parts of a query whose changes are announced.
* `Mutation` — the changes that can be asked for.
* `Mutation.apply` — what a mutation is to do: the changed query, or the failure.
* `Mutation.perform` — how it is done, check by check and write by write; what was written before a
  failure stays written.
-/

set_option autoImplicit false

namespace FacetedSearch

/-- The parts of a query whose changes are announced. -/
inductive Event where
  | filters
  | boosts
  | clauses
  | facets
  | aggregations
  deriving DecidableEq, Repr

/-- The name of an event. -/
def Event.name : Event → String
  | filters => "filters"
  | boosts => "boost_fields"
  | clauses => "bool"
  | facets => "facets"
  | aggregations => "aggs"

/-- The changes that can be asked for.  A silent one is not announced. -/
inductive Mutation where
  | addFilter (filter : Json) (silent : Bool)
  | replaceFilter (filter : Json)
  | removeFilters (field : Json)
  | clearFilters
  | addBoost (field boost : Json) (silent : Bool)
  | clearBoosts
  | addClause (occurrence field value : Json)
  | addFacet (field size : Json) (silent : Bool)
  | addHistogramFacet (field interval : Json)
  | removeFacet (field : Json)
  | clearFacets
  | refreshFacets
  | addTermsAggregation (field size : Json) (silent : Bool)
  | addRangeAggregation (field ranges : Json) (silent : Bool)
  | addDateRangeAggregation (field format ranges : Json) (silent : Bool)
  | selectAggregation (field selection : Json)
  | unselectAggregation (field : Json)
  | removeAggregation (field : Json)
  | clearAggregations
  | refreshAggregations
  deriving DecidableEq, Repr

/-- The outcome of a mutation. -/
structure Change where
  /-- the query afterwards -/
  query : Query
  /-- the event that announces the change, if it is announced -/
  announced : Option Event
  /-- the filter that was added, if one was -/
  filter : Option Filter
  deriving DecidableEq, Repr

/-- The announcement of a change that may be silent. -/
def Event.unless (event : Event) (silent : Bool) : Option Event :=
  if silent then none else some event

namespace Query

/-- Nothing changes and nothing is announced. -/
def unchanged (q : Query) : Change := ⟨q, none, none⟩

/-- One more filter, after all others. -/
def addFilter (q : Query) (f : Filter) (silent : Bool) : Change :=
  ⟨{ q with filters := q.filters ++ [f] }, Event.filters.unless silent, some f⟩

/-- Without the filters on a field. -/
def withoutFiltersOn (q : Query) (field : String) : Query :=
  { q with filters := q.filters.filter fun f => f.field != field }

/-- One filter in place of all filters on its field. -/
def replaceFilter (q : Query) (f : Filter) : Change :=
  (q.withoutFiltersOn f.field).addFilter f false

/-- One more aggregation, unless its key is taken. -/
def addAggregation (q : Query) (a : Aggregation) (silent : Bool) : Change :=
  let key := Aggregation.key a.field
  if Members.has key q.aggregations then q.unchanged
  else
    ⟨{ q with aggregations := Members.insert key a q.aggregations },
      Event.aggregations.unless silent, none⟩

/-- A facet under its field, in the place of the one that was there. -/
def putFacet (q : Query) (f : Facet) (silent : Bool) : Change :=
  ⟨{ q with facets := Members.insert f.field f q.facets }, Event.facets.unless silent, none⟩

end Query

namespace Mutation

/-- The key of a field that is given as a value. -/
def keyOf : Json → Except Failure String
  | .str field => .ok (Aggregation.key field)
  | _ => .error (.fault .attribute)

/-- The way to occur that a value names. -/
def occurrenceOf : Json → Except Failure Occurrence
  | .str name =>
    match Occurrence.ofName? name with
    | some occurrence => .ok occurrence
    | none => .error (.fault .attribute)
  | _ => .error (.fault .type)

/-- Whether a registry has an entry under a value; arrays and objects cannot be looked up. -/
def isRegistered {α : Type} (field : Json) (entries : List (String × α)) : Except Failure Bool :=
  match field with
  | .str name => .ok (Members.has name entries)
  | x => if x.isAtom then .ok false else .error (.fault .type)

/-- Without the facet of a field; in an empty registry nothing is looked up. -/
def dropFacet (q : Query) (field : Json) : Except Failure Change :=
  if q.facets.isEmpty then .ok q.unchanged
  else
    match field with
    | .str name =>
      if Members.has name q.facets then
        .ok ⟨{ q with facets := Members.erase name q.facets }, some .facets, none⟩
      else .ok q.unchanged
    | x => if x.isAtom then .ok q.unchanged else .error (.fault .type)

/-- What a mutation does to a query. -/
def apply (q : Query) : Mutation → Except Failure Change
  | addFilter filter silent => do
    let f ← Filter.parse filter
    return q.addFilter f silent
  | replaceFilter filter => do
    let f ← Filter.parse filter
    return q.replaceFilter f
  | removeFilters field =>
    match field with
    | .str name => .ok ⟨q.withoutFiltersOn name, some .filters, none⟩
    | _ => .ok ⟨q, some .filters, none⟩
  | clearFilters => .ok ⟨{ q with filters := [] }, some .filters, none⟩
  | addBoost field boost silent =>
    if q.boosts.any fun b => field = .str b.field then .ok q.unchanged
    else do
      let b ← (BoostField.readMembers [("field", field), ("boost", boost)]).orFail
      return ⟨{ q with boosts := q.boosts ++ [b] }, Event.boosts.unless silent, none⟩
  | clearBoosts => .ok ⟨{ q with boosts := [] }, some .boosts, none⟩
  | addClause occurrence field value => do
    let occurrence ← occurrenceOf occurrence
    let c ← (BoolClause.readMembers [("field", field), ("value", value)]).orFail
    return ⟨{ q with clauses := q.clauses.push occurrence c }, some .clauses, none⟩
  | addFacet field size silent => do
    if ← isRegistered field q.facets then return q.unchanged
    else
      let f ← (Facet.readTerms [("field", field), ("size", size)]).orFail
      return q.putFacet f silent
  | addHistogramFacet field interval => do
    let f ← (Facet.readHistogram [("field", field), ("interval", interval)]).orFail
    return q.putFacet f false
  | removeFacet field => dropFacet q field
  | clearFacets => .ok ⟨{ q with facets := [] }, some .facets, none⟩
  | refreshFacets => .ok ⟨q, some .facets, none⟩
  | addTermsAggregation field size silent => do
    let a ← (Aggregation.readTerms [("field", field), ("size", size)]).orFail
    return q.addAggregation a silent
  | addRangeAggregation field ranges silent => do
    let a ← (Aggregation.readRange [("field", field), ("ranges", ranges)]).orFail
    return q.addAggregation a silent
  | addDateRangeAggregation field format ranges silent => do
    let a ← (Aggregation.readDateRange
      [("field", field), ("format", format), ("ranges", ranges)]).orFail
    return q.addAggregation a silent
  | selectAggregation field selection => do
    let key ← keyOf field
    if Members.has key q.aggregations then
      return { q.unchanged with
        query := { q with selections := Members.insert key selection q.selections } }
    else return q.unchanged
  | unselectAggregation field => do
    let key ← keyOf field
    return { q.unchanged with query := { q with selections := Members.erase key q.selections } }
  | removeAggregation field => do
    let key ← keyOf field
    return ⟨{ q with
        aggregations := Members.erase key q.aggregations
        selections := Members.erase key q.selections }, some .aggregations, none⟩
  | clearAggregations =>
    .ok ⟨{ q with aggregations := [], selections := [] }, some .aggregations, none⟩
  | refreshAggregations => .ok ⟨q, some .aggregations, none⟩

end Mutation

/-! ## Step by step -/

/-- Something done with a query, which may fail; what it did before it failed stays done. -/
abbrev QueryM := EStateM Failure Query

/-- What is left to be told of a mutation that came to its end. -/
structure Outcome where
  /-- the event that announces the change, if it is announced -/
  announced : Option Event
  /-- the filter that was added, if one was -/
  filter : Option Filter
  deriving DecidableEq, Repr

/-- There is nothing to tell. -/
def Outcome.nothing : Outcome := ⟨none, none⟩

/-- An event is to be announced. -/
def Outcome.event (event : Event) : Outcome := ⟨some event, none⟩

namespace QueryM

/-- What was checked, or why it was refused. -/
def check {α : Type} : Except Failure α → QueryM α
  | .ok x => pure x
  | .error failure => throw failure

/-- Append a filter. -/
def addFilter (f : Filter) (silent : Bool) : QueryM Outcome := do
  modify fun q => { q with filters := q.filters ++ [f] }
  return ⟨Event.filters.unless silent, some f⟩

/-- Drop the filters on the field of a filter, then append it. -/
def replaceFilter (f : Filter) : QueryM Outcome := do
  modify fun q => q.withoutFiltersOn f.field
  addFilter f false

/-- Register an aggregation, unless its key is taken. -/
def addAggregation (a : Aggregation) (silent : Bool) : QueryM Outcome := do
  if Members.has (Aggregation.key a.field) (← get).aggregations then return .nothing
  else
    modify fun q =>
      { q with aggregations := Members.insert (Aggregation.key a.field) a q.aggregations }
    return ⟨Event.aggregations.unless silent, none⟩

/-- Put a facet under its field. -/
def putFacet (f : Facet) (silent : Bool) : QueryM Outcome := do
  modify fun q => { q with facets := Members.insert f.field f q.facets }
  return ⟨Event.facets.unless silent, none⟩

/-- Take a facet off, if it is there; in an empty registry nothing is looked up. -/
def dropFacet (field : Json) : QueryM Outcome := do
  let facets := (← get).facets
  if facets.isEmpty then return .nothing
  else
    match field with
    | .str name =>
      if Members.has name facets then
        modify fun q => { q with facets := Members.erase name q.facets }
        return .event .facets
      else return .nothing
    | x => if x.isAtom then return .nothing else throw (.fault .type)

end QueryM

namespace Mutation

open QueryM

/-- How a mutation is done.  Arguments are checked where they are first needed, some before and some
after the look at what is already there. -/
def perform : Mutation → QueryM Outcome
  | addFilter filter silent => do
    let f ← check (Filter.parse filter)
    QueryM.addFilter f silent
  | replaceFilter filter => do
    let f ← check (Filter.parse filter)
    QueryM.replaceFilter f
  | removeFilters field => do
    match field with
    | .str name => modify fun q => q.withoutFiltersOn name
    | _ => pure ()
    return .event .filters
  | clearFilters => do
    modify fun q => { q with filters := [] }
    return .event .filters
  | addBoost field boost silent => do
    if (← get).boosts.any fun b => field = .str b.field then return .nothing
    else
      let b ← check (BoostField.readMembers [("field", field), ("boost", boost)]).orFail
      modify fun q => { q with boosts := q.boosts ++ [b] }
      return ⟨Event.boosts.unless silent, none⟩
  | clearBoosts => do
    modify fun q => { q with boosts := [] }
    return .event .boosts
  | addClause occurrence field value => do
    let occurrence ← check (occurrenceOf occurrence)
    let c ← check (BoolClause.readMembers [("field", field), ("value", value)]).orFail
    modify fun q => { q with clauses := q.clauses.push occurrence c }
    return .event .clauses
  | addFacet field size silent => do
    if ← check (isRegistered field (← get).facets) then return .nothing
    else
      let f ← check (Facet.readTerms [("field", field), ("size", size)]).orFail
      QueryM.putFacet f silent
  | addHistogramFacet field interval => do
    let f ← check (Facet.readHistogram [("field", field), ("interval", interval)]).orFail
    QueryM.putFacet f false
  | removeFacet field => QueryM.dropFacet field
  | clearFacets => do
    modify fun q => { q with facets := [] }
    return .event .facets
  | refreshFacets => return .event .facets
  | addTermsAggregation field size silent => do
    let a ← check (Aggregation.readTerms [("field", field), ("size", size)]).orFail
    QueryM.addAggregation a silent
  | addRangeAggregation field ranges silent => do
    let a ← check (Aggregation.readRange [("field", field), ("ranges", ranges)]).orFail
    QueryM.addAggregation a silent
  | addDateRangeAggregation field format ranges silent => do
    let a ← check (Aggregation.readDateRange
      [("field", field), ("format", format), ("ranges", ranges)]).orFail
    QueryM.addAggregation a silent
  | selectAggregation field selection => do
    let key ← check (keyOf field)
    if Members.has key (← get).aggregations then
      modify fun q => { q with selections := Members.insert key selection q.selections }
    return .nothing
  | unselectAggregation field => do
    let key ← check (keyOf field)
    modify fun q => { q with selections := Members.erase key q.selections }
    return .nothing
  | removeAggregation field => do
    let key ← check (keyOf field)
    modify fun q => { q with aggregations := Members.erase key q.aggregations }
    modify fun q => { q with selections := Members.erase key q.selections }
    return .event .aggregations
  | clearAggregations => do
    modify fun q => { q with aggregations := [] }
    modify fun q => { q with selections := [] }
    return .event .aggregations
  | refreshAggregations => return .event .aggregations

end Mutation

end FacetedSearch
