import FacetedSearch.Json.Basic

/-!
# Clauses of the engine

What the search engine understands: leaf clauses, which test a record directly, and the clauses that
combine others.

* `Leaf`, `Clause` — the clauses.
* `Clause.toJson` — the clause as the engine reads it.
-/

set_option autoImplicit false

namespace FacetedSearch

/-- A clause that tests a record directly. -/
inductive Leaf where
  | term (field : String) (value : Json)
  | terms (field : String) (values : List Json) (execution : Option String)
  | range (field : String) (body : Members)
  | geoDistance (field : String) (point distance : Json) (unit : String)
  | docType (value : String)
  | present (field : String)
  | absent (field : String)
  | ids (values : List Json)
  | queryString (query : Json) (fields : List String) (fuzziness analyzer : Json)
  deriving DecidableEq, Repr

/-- A clause of the engine. -/
inductive Clause where
  | matchAll
  | leaf (leaf : Leaf)
  | not (clause : Clause)
  | bool (must mustNot should : List Clause) (minimumShouldMatch : Option Int)
  | filtered (filters : List Clause) (query : Option Clause)
  deriving Repr

/-- A leaf as the engine reads it.  Parameters stand beside the field and replace one of their name. -/
def Leaf.toJson : Leaf → Json
  | term field value => .obj [("term", .obj [(field, value)])]
  | terms field values execution =>
    let body := [(field, Json.arr values)]
    .obj [("terms", .obj (match execution with
      | some mode => Members.insert "execution" (.str mode) body
      | none => body))]
  | range field body => .obj [("range", .obj [(field, .obj body)])]
  | geoDistance field point distance unit =>
    .obj [("geo_distance",
      .obj (Members.ofList [(field, point), ("distance", distance), ("unit", .str unit)]))]
  | docType value => .obj [("type", .obj [("value", .str value)])]
  | present field => .obj [("exists", .obj [("field", .str field)])]
  | absent field => .obj [("missing", .obj [("field", .str field)])]
  | ids values => .obj [("ids", .obj [("values", .arr values)])]
  | queryString query fields fuzziness analyzer =>
    .obj [("query_string", .obj (("query", query)
      :: (if fields.isEmpty then [] else [("fields", .arr (fields.map .str))])
      ++ [("lenient", .bool true), ("use_dis_max", .bool true), ("fuzziness", fuzziness),
        ("analyzer", analyzer)]))]

namespace Clause

mutual

/-- A clause as the engine reads it. -/
def toJson : Clause → Json
  | matchAll => .obj [("match_all", .obj [])]
  | leaf l => l.toJson
  | not c => .obj [("not", c.toJson)]
  | bool must mustNot should minimum =>
    .obj [("bool", .obj ([("must", .arr (listToJson must)), ("must_not", .arr (listToJson mustNot)),
      ("should", .arr (listToJson should))]
      ++ match minimum with
        | some n => [("minimum_should_match", .int n)]
        | none => []))]
  | filtered filters query =>
    .obj [("filtered", .obj (("filter", .obj [("and", .arr (listToJson filters))])
      :: match query with
        | some c => [("query", c.toJson)]
        | none => []))]

/-- Clauses as the engine reads them. -/
def listToJson : List Clause → List Json
  | [] => []
  | c :: cs => c.toJson :: listToJson cs

end

end Clause

end FacetedSearch
