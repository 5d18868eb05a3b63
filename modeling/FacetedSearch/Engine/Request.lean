import FacetedSearch.Json.Basic

/-!
# Requests to the engine

What a data set asks of the engine: to search, to describe its fields, and to read and write records.

* `Request` — the requests.
* `Request.emptyAnswer` — what an engine answers that holds nothing.
-/

set_option autoImplicit false

namespace FacetedSearch

/-- A request to the engine, on one index. -/
inductive Request where
  | search (body : Json)
  | getMapping
  | getDocument (id : Json)
  /-- store a record; null leaves its identifier to the engine -/
  | indexDocument (doc id : Json)
  | updateDocument (doc id : Json)
  | deleteDocument (id : Json)
  deriving DecidableEq, Repr

namespace Request

/-- The name of a request. -/
def name : Request → String
  | search _ => "search"
  | getMapping => "get_mapping"
  | getDocument _ => "get_document"
  | indexDocument _ _ => "index_document"
  | updateDocument _ _ => "update_document"
  | deleteDocument _ => "delete_document"

/-- What a request carries besides its index. -/
def content : Request → Members
  | search body => [("body", body)]
  | getMapping => []
  | getDocument id => [("id", id)]
  | indexDocument doc id => [("doc", doc), ("id", id)]
  | updateDocument doc id => [("doc", doc), ("id", id)]
  | deleteDocument id => [("id", id)]

/-- An engine that holds nothing finds nothing, and has nothing to say to other requests. -/
def emptyAnswer : Request → Json
  | search _ => .obj [("hits", .obj [("total", .int 0), ("hits", .arr [])])]
  | _ => .obj []

end Request

end FacetedSearch
