import FacetedSearch.Filter.Wire

/-!
# Search results

What a search returns to the client: how many records were found, the records of the page asked for,
and the counts and groups that the query asked for.  Facets, aggregations and buckets keep whatever
else the engine said about them.

* `SearchResult` and its parts.
* `FacetResult.read`, `Bucket.read` — read them from what the engine sent.
* `SearchResult.presented` — the result as a client sees it.
-/

set_option autoImplicit false

namespace FacetedSearch

open Checked

/-- What a facet counted. -/
structure FacetResult where
  id : String
  kind : String
  total : Int
  other : Int
  missing : Int
  terms : List Members
  extra : Members
  deriving DecidableEq, Repr

/-- One group of an aggregation. -/
structure Bucket where
  key : Json
  docCount : Int
  selected : Bool
  extra : Members
  deriving DecidableEq, Repr

/-- The groups of an aggregation and the filter in force on its field. -/
structure AggregationResult where
  id : String
  key : String
  kind : String
  buckets : List Bucket
  selected : Option Filter
  extra : Members
  deriving DecidableEq, Repr

/-- What a search returns. -/
structure SearchResult where
  total : Int
  hits : List Members
  facets : List (String × FacetResult)
  aggregations : List (String × AggregationResult)
  deriving DecidableEq, Repr

/-- The members whose names are not among the given ones. -/
def Members.without (names : List String) (ms : Members) : Members :=
  ms.filter fun m => !names.contains m.1

namespace FacetResult

/-- The members that a facet gives a meaning to; `kind` is one when there is no `_type`. -/
def known (ms : Members) : List String :=
  ["id", "_type", "total", "other", "missing", "terms"]
    ++ if Members.has "_type" ms then [] else ["kind"]

/-- What a facet counted, from the members that the engine sent. -/
def read (ms : Members) : Checked FacetResult :=
  (fun id kind total other missing terms =>
    ⟨id, kind, total, other, missing, terms, Members.without (known ms) ms⟩)
    <$> defaulted ms "id" string ""
    <*> aliased ms "_type" "kind" string "terms"
    <*> defaulted ms "total" integer 0
    <*> defaulted ms "other" integer 0
    <*> defaulted ms "missing" integer 0
    <*> defaulted ms "terms" (list record) []

/-- What a facet counted, as a client sees it. -/
def presented (r : FacetResult) : Json :=
  .obj ([("id", .str r.id), ("_type", .str r.kind), ("total", .int r.total),
    ("other", .int r.other), ("missing", .int r.missing),
    ("terms", .arr (r.terms.map fun ms => (Json.obj ms).presented))]
    ++ Json.presentedMembers r.extra)

/-- The values of any kind in a facet. -/
def anyValues (r : FacetResult) : List Json :=
  r.terms.flatMap Members.values ++ Members.values r.extra

end FacetResult

namespace Bucket

/-- The members that a bucket gives a meaning to. -/
def known : List String := ["key", "doc_count", "selected"]

/-- One group, from the members that the engine sent. -/
def read (ms : Members) : Checked Bucket :=
  (fun key count selected => ⟨key, count, selected, Members.without known ms⟩)
    <$> defaulted ms "key" anything .null
    <*> defaulted ms "doc_count" integer 0
    <*> defaulted ms "selected" boolean false

/-- One group, as a client sees it. -/
def presented (b : Bucket) : Json :=
  .obj ([("key", b.key.presented), ("doc_count", .int b.docCount), ("selected", .bool b.selected)]
    ++ Json.presentedMembers b.extra)

/-- The values of any kind in a group. -/
def anyValues (b : Bucket) : List Json := b.key :: Members.values b.extra

end Bucket

namespace AggregationResult

/-- The members of a raw aggregation that are replaced. -/
def known : List String := ["id", "key", "kind", "buckets", "selected"]

/-- The groups of an aggregation, as a client sees them. -/
def presented (r : AggregationResult) : Json :=
  .obj ([("id", .str r.id), ("key", .str r.key), ("kind", .str r.kind),
    ("buckets", .arr (r.buckets.map Bucket.presented)),
    ("selected", (r.selected.map Filter.presented).getD .null)]
    ++ Json.presentedMembers r.extra)

/-- The values of any kind in the groups of an aggregation. -/
def anyValues (r : AggregationResult) : List Json :=
  r.buckets.flatMap Bucket.anyValues ++ r.selected.toList.flatMap Filter.anyValues
    ++ Members.values r.extra

end AggregationResult

namespace SearchResult

/-- Facets as a client sees them. -/
def presentedFacets (fs : List (String × FacetResult)) : Json :=
  .obj (fs.map fun (k, f) => (k, f.presented))

/-- The result as a client sees it. -/
def presented (r : SearchResult) : Json :=
  .obj [("total", .int r.total),
    ("hits", .arr (r.hits.map fun ms => (Json.obj ms).presented)),
    ("facets", presentedFacets r.facets),
    ("aggregations", .obj (r.aggregations.map fun (k, a) => (k, a.presented)))]

/-- The values of any kind in facets. -/
def anyValuesOfFacets (fs : List (String × FacetResult)) : List Json :=
  (Members.values fs).flatMap FacetResult.anyValues

/-- The values of any kind in a result. -/
def anyValues (r : SearchResult) : List Json :=
  r.hits.flatMap Members.values ++ anyValuesOfFacets r.facets
    ++ (Members.values r.aggregations).flatMap AggregationResult.anyValues

/-- The result as a client sees it, if it can be shown. -/
def present (r : SearchResult) : Except Failure Json := Json.shownWith r.anyValues r.presented

/-- Facets as a client sees them, if they can be shown. -/
def presentFacets (fs : List (String × FacetResult)) : Except Failure Json :=
  Json.shownWith (anyValuesOfFacets fs) (presentedFacets fs)

end SearchResult

end FacetedSearch
