import FacetedSearch.Query.Basic
import FacetedSearch.Result.Basic

/-!
# Mapping responses

The engine's response becomes a search result in the light of the query that it answers: the query
says which field an aggregation runs over, what kind it is and which of its buckets are selected.

* `Mapping.total`, `Mapping.documents` — the number of records found and the records.
* `Mapping.aggregation` — one aggregation.
* `Query.mapResponse` — the whole response.
-/

set_option autoImplicit false

namespace FacetedSearch

namespace Mapping

/-- The number of records found, given as such or as an object that holds it. -/
def total (hits : Json) : Except Fault Int := do
  match (← hits.get? "total").getD (.int 0) with
  | .obj ms => ((ms.lookup "value").getD (.int 0)).toInteger
  | x => (x.orElse (.int 0)).toInteger

/-- Give a value a member; only an object can have one. -/
def setMember (name : String) (x : Json) : Json → Except Fault Json
  | .obj ms => .ok (.obj (Members.insert name x ms))
  | _ => .error .type

/-- The member of a hit if it counts as present. -/
def present? (name : String) (hit : Json) : Except Fault (Option Json) := do
  let x ← hit.get? name
  return x.filter Json.isTruthy

/--
The record of one hit: its source, under the identifier that the engine assigned when it has none of
its own, and with the marked matches.
-/
def document (hit : Json) : Except Fault Json := do
  let source := (← present? "_source" hit).getD (.obj [])
  let hasId ← source.mentions "id"
  let assigned ← if hasId then pure none else present? "_id" hit
  let doc ← match assigned with
    | some id => setMember "id" id source
    | none => pure source
  match ← present? "highlight" hit with
  | some marks => setMember "highlight" marks doc
  | none => return doc

/-- The records of all hits. -/
def documents (hits : Json) : Except Fault (List Json) := do
  let raw := (← present? "hits" hits).getD (.arr [])
  (← raw.elements).mapM document

/-- The first of the buckets, by position. -/
def firstBucket : Json → Except Fault Json
  | .arr (x :: _) => .ok x
  | .arr [] => .error .index
  | .str s =>
    match s.toList with
    | c :: _ => .ok (.str (String.singleton c))
    | [] => .error .index
  | .obj _ => .error .key
  | _ => .error .type

/-- The kind of an aggregation that the query does not know, by the shape of its first bucket. -/
def inferKind (buckets : Json) : Except Fault String := do
  if buckets.isTruthy then
    let ms ← (← firstBucket buckets).members
    if Members.has "from_as_string" ms || Members.has "to_as_string" ms then return "date_range"
    else if Members.has "from" ms || Members.has "to" ms then return "range"
    else return "terms"
  else return "terms"

/-- The values that filters in force ask the field to have. -/
def termsOn (q : Query) (field : String) : List Json :=
  q.filters.filterMap fun f =>
    match f.constraint with
    | .term value => if f.field = field then some value else none
    | _ => none

/-- A bucket is selected when its key is the value of a filter in force. -/
def selectIn (terms : List Json) (b : Bucket) : Bucket :=
  { b with selected := terms.any (Json.same b.key) }

/-- Every bucket, selected or not. -/
def selectBuckets (terms : List Json) : List Json → Except Failure (List Bucket)
  | [] => .ok []
  | x :: xs => do
    let b ← (Checked.model .modelType Bucket.read x).orFail
    let bs ← selectBuckets terms xs
    return selectIn terms b :: bs

/-- The field that stands behind a key: underscores were points. -/
def fieldOfKey (key : String) : String := key.map fun c => if c = '_' then '.' else c

/-- The field and the kind of an aggregation. -/
def fieldAndKind (q : Query) (key : String) (buckets : Json) : Except Fault (String × String) :=
  match q.aggregations.lookup key with
  | some a => .ok (a.field, a.grouping.name)
  | none =>
    if key = Aggregation.topDocsKey then .ok ("_type", "top_hits")
    else (inferKind buckets).map fun kind => (fieldOfKey key, kind)

/-- One aggregation of the response. -/
def aggregation (q : Query) (key : String) (raw : Json) : Except Failure AggregationResult := do
  let buckets := (← Json.orFail (present? "buckets" raw)).getD (.arr [])
  let (field, kind) ← Json.orFail (fieldAndKind q key buckets)
  let ms ← Json.orFail raw.members
  let mapped ← selectBuckets (termsOn q field) (← Json.orFail buckets.elements)
  return {
    id := field
    key := key
    kind := kind
    buckets := mapped
    selected := q.lastFilter? field
    extra := Members.without AggregationResult.known ms }

/-- One facet of the response; its identifier is its name in the response. -/
def facet (id : String) : Json → Except Failure FacetResult
  | .obj ms => (FacetResult.read (Members.insert "id" (.str id) ms)).orFail
  | _ => .error (.fault .type)

/-- The named parts of a response under a heading. -/
def section? (heading : String) (response : Json) : Except Fault Members := do
  ((← present? heading response).getD (.obj [])).members

/-- Every named part, in order. -/
def parts {α : Type} (f : String → Json → Except Failure α) :
    Members → Except Failure (List (String × α))
  | [] => .ok []
  | (name, x) :: ms => do
    let y ← f name x
    let ys ← parts f ms
    return (name, y) :: ys

end Mapping

open Mapping in
/-- The result of a search, or why there is none: a response that reports an error is a failure. -/
def Query.mapResponse (q : Query) (response : Json) : Except Failure SearchResult := do
  if ← Json.orFail (response.mentions "error") then
    let status ← Json.orFail (response.getD "status" (.int 500))
    .error (.queryFailed status response)
  else
    let hits := (← Json.orFail (present? "hits" response)).getD (.obj [])
    let total ← Json.orFail (total hits)
    let docs ← Json.orFail (documents hits)
    let hits ← ((Checked.items Checked.record 0 docs).under (.key "hits")).orFail
    let facets ← parts facet (← Json.orFail (section? "facets" response))
    let aggregations ← parts (aggregation q) (← Json.orFail (section? "aggregations" response))
    return { total, hits, facets, aggregations }

end FacetedSearch
