import FacetedSearch.Text.Pieces

/-!
# Routes

The paths under which the service itself answers, and the methods with which each can be asked.  The
pages about it, and the paths that are answered with another path, are not among them.  A name in a
path is not empty and holds no slash.  A path may end in a line break, which belongs to a name at the
end and is of no account otherwise.

* `Route.ofPath?` — the route of a path.
* `Route.methods` — the methods of a route.
-/

set_option autoImplicit false

namespace FacetedSearch.Http

/-- What a path leads to in the service. -/
inductive Route where
  | root
  | health
  | query (index : String)
  | compile (index : String)
  | fields (index : String)
  | fieldsSummary (index : String)
  | records (index : String)
  | record (index id : String)
  deriving DecidableEq, Repr

namespace Route

/-- The last part of a path without the line break that may end it. -/
def unbroken (part : String) : String :=
  match part.toList.getLast? with
  | some '\n' => String.ofList part.toList.dropLast
  | _ => part

/-- The route whose last part has this name, below an index. -/
def endingIn? (index : String) : String → Option Route
  | "query" => some (query index)
  | "compile" => some (compile index)
  | "fields" => some (fields index)
  | "records" => some (records index)
  | _ => none

/-- The route below an index. -/
def belowIndex? (index : String) : List String → Option Route
  | [last] => endingIn? index (unbroken last)
  | ["fields", last] => if unbroken last = "summary" then some (fieldsSummary index) else none
  | ["records", id] => if id = "" then none else some (record index id)
  | _ => none

/-- The route that the parts of a path lead to. -/
def ofParts? : List String → Option Route
  | [last] =>
    match unbroken last with
    | "" => some root
    | "healthz" => some health
    | _ => none
  | "api" :: "datasets" :: index :: parts => if index = "" then none else belowIndex? index parts
  | _ => none

/-- The route of a path, if it leads anywhere. -/
def ofPath? (path : String) : Option Route :=
  match (Text.pieces '/' path.toList).map String.ofList with
  | "" :: parts => ofParts? parts
  | _ => none

/-- The methods with which a route can be asked. -/
def methods : Route → List String
  | root => ["GET"]
  | health => ["GET"]
  | query _ => ["POST"]
  | compile _ => ["POST"]
  | fields _ => ["GET"]
  | fieldsSummary _ => ["POST"]
  | records _ => ["POST"]
  | record _ _ => ["GET", "PATCH", "DELETE"]

end Route

end FacetedSearch.Http
