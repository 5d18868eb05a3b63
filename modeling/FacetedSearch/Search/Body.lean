import FacetedSearch.Filter.Clause
import FacetedSearch.Json.Sameness
import FacetedSearch.Query.Basic
import FacetedSearch.Settings.Basic

/-!
# Search bodies

A query compiles to a search body, the request that the engine answers.  Records asked for by
identifier come first, then free text, then everything; the filters are put around that query, and
what remains of it is left out when it would match everything anyway.

* `BoostField.term` — a field with its boost, as free text names it.
* `Query.core` — the part of the query that scores records.
* `Query.dateFormat` — the format of a filter on dates, declared by the aggregation of its field.
* `Query.searchBody` — the body of a query, or why there is none.
* `SearchBody.toJson` — the body as the engine reads it.
-/

set_option autoImplicit false

namespace FacetedSearch

/-- The text of a boost: whole numbers without a point, however large. -/
def BoostField.boostText (boost : Double) : String :=
  match boost.toInt? with
  | some n => toString n
  | none => boost.text

/-- The field as free text names it: a boost follows when it is positive. -/
def BoostField.term (b : BoostField) : String :=
  match b.boost with
  | some boost =>
    if boost.isPositive then b.field ++ "^" ++ BoostField.boostText boost else b.field
  | none => b.field

/-- A lenient, fuzzy search for free text. -/
def Settings.freeText (s : Settings) (text : Json) (boosts : List BoostField) : Leaf :=
  .queryString text (boosts.map BoostField.term) s.fuzziness s.analyzer

/-- A demand as a clause. -/
def BoolClause.clause (c : BoolClause) : Clause := .leaf (.term c.field c.value)

/-- How matches are marked: whole fields, from the stored source. -/
def markedFields (fields : List String) : Json :=
  .obj [("number_of_fragments", .int 0), ("pre_tags", .arr [.str "<b>"]),
    ("post_tags", .arr [.str "</b>"]),
    ("fields", .obj (Members.ofList
      (fields.map fun field => (field, Json.obj [("force_source", .bool true)]))))]

/-- Matches are marked when there is free text and at least one field to mark them in. -/
def marking (text : Json) (fields : List String) : Option Json :=
  if text.isTruthy && !fields.isEmpty then some (markedFields fields) else none

/-- The name that a value becomes when it is used as one. -/
def nameOf (x : Json) : Except Failure String :=
  match x.keyText? with
  | some name => .ok name
  | none => .error (.fault .type)

/--
The fields to mark matches in, of whatever form; they are only looked at when there is free text.  Of
several that are the same the first one is named.
-/
def markedNames (text fields : Json) : Except Failure (List String) :=
  if text.isTruthy && fields.isTruthy then do
    let xs ← Json.orFail fields.elements
    let _ ← xs.mapM nameOf
    (Json.distinct xs).mapM nameOf
  else .ok []

/-- A sort key as the engine reads it. -/
def SortKey.toEngine (k : SortKey) : Json := .obj [(k.field, .obj k.options)]

/--
The plain attributes of a query as they enter its body.  A query that was read has them in the right
form; attributes that were assigned without a check may turn out unusable only here.
-/
structure PlainAttributes where
  ids : Option (List Json)
  text : Json
  highlights : Except Failure (List String)
  size : Json
  start : Json
  allTypes : Bool

/-- The request that the engine answers. -/
structure SearchBody where
  query : Clause
  sort : List SortKey
  marking : Option Json
  aggregations : List (String × Aggregation)
  /-- whether the best hits of every type are asked for -/
  topDocs : Bool
  facets : List (String × Facet)
  size : Json
  start : Json

/-- A member for a list that is not empty. -/
def SearchBody.optionalMember {α : Type} (name : String) (value : Json) : List α → Members
  | [] => []
  | _ :: _ => [(name, value)]

/-- The aggregations as the engine reads them, the best hits of every type last. -/
def Aggregation.blockWith (topDocs : Bool) (as : List (String × Aggregation)) : Members :=
  block as ++ if topDocs then [(topDocsKey, Aggregation.topDocs)] else []

/-- The body as the engine reads it. -/
def SearchBody.toJson (b : SearchBody) : Json :=
  .obj ([("query", b.query.toJson)]
    ++ optionalMember "sort" (.arr (b.sort.map SortKey.toEngine)) b.sort
    ++ optionalMember "highlight" (b.marking.getD .null) b.marking.toList
    ++ [("aggs", .obj (Aggregation.blockWith b.topDocs b.aggregations))]
    ++ optionalMember "facets" (.obj (Facet.block b.facets)) b.facets
    ++ [("size", b.size), ("from", b.start)])

/-- The key that searches over all types add has to be free. -/
def Aggregation.checkKeys (allTypes : Bool) (as : List (String × Aggregation)) :
    Except Failure Unit :=
  if allTypes && Members.has topDocsKey as then .error (.aggregationKeyCollision (.str topDocsKey))
  else .ok ()

namespace Query

/-- The attributes of a query that was read. -/
def plain (q : Query) : PlainAttributes :=
  { ids := q.ids.map (·.map RecordId.toJson)
    text := .str q.text
    highlights := .ok q.highlights
    size := .int q.size
    start := .int q.start
    allTypes := q.mode == .allTypes }

/-- The part of the query that scores records: identifiers, else free text, else everything. -/
def coreWith (s : Settings) (p : PlainAttributes) (q : Query) : Clause :=
  match p.ids with
  | some values => .leaf (.ids values)
  | none =>
    let main := if p.text.isTruthy then .leaf (s.freeText p.text q.boosts) else .matchAll
    .bool (main :: q.clauses.must.map BoolClause.clause) (q.clauses.mustNot.map BoolClause.clause)
      (q.clauses.should.map BoolClause.clause) (if q.clauses.isAny then some 1 else none)

/-- Whether the scoring part matches everything by its form. -/
def isMatchAllWith (p : PlainAttributes) (q : Query) : Bool :=
  p.ids.isNone && !p.text.isTruthy && !q.clauses.isAny

/--
The format of a filter on dates is that of the aggregation under the key of its field; other filters
have none.
-/
def dateFormat (q : Query) (f : Filter) : Except Failure Json :=
  match f.constraint with
  | .dateRange _ =>
    match (q.aggregations.lookup (Aggregation.key f.field)).bind Aggregation.dateFormat? with
    | some format => .ok (.str format)
    | none => .error (.missingDateFormat (.str f.field) (.str (Aggregation.key f.field)))
  | _ => .ok .null

/-- The clause of one filter of the query. -/
def filterClause (q : Query) (f : Filter) : Except Failure Clause :=
  (q.dateFormat f).map f.clause

/-- The whole query: the filters around the scoring part. -/
def clauseWith (s : Settings) (p : PlainAttributes) (q : Query) : Except Failure Clause :=
  if q.filters.isEmpty then .ok (q.coreWith s p)
  else do
    let filters ← q.filters.mapM q.filterClause
    return .filtered filters (if q.isMatchAllWith p then none else some (q.coreWith s p))

/-- The body of a query with the given attributes. -/
def searchBodyWith (s : Settings) (p : PlainAttributes) (q : Query) : Except Failure SearchBody := do
  let clause ← q.clauseWith s p
  let highlights ← p.highlights
  Aggregation.checkKeys p.allTypes q.aggregations
  return {
    query := clause
    sort := q.sort
    marking := marking p.text highlights
    aggregations := q.aggregations
    topDocs := p.allTypes
    facets := q.facets
    size := match p.ids with
      | some values => .int values.length
      | none => p.size
    start := p.start }

/-- The part of the query that scores records. -/
def core (s : Settings) (q : Query) : Clause := q.coreWith s q.plain

/-- Whether the scoring part matches everything by its form. -/
def isMatchAll (q : Query) : Bool := q.isMatchAllWith q.plain

/-- The body of a query, or why there is none. -/
def searchBody (s : Settings) (q : Query) : Except Failure SearchBody := q.searchBodyWith s q.plain

end Query

end FacetedSearch
