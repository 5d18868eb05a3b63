import FacetedSearch.Dataset.Run
import FacetedSearch.Http.Response
import FacetedSearch.Http.Route
import FacetedSearch.Json.Reader
import FacetedSearch.Text.Encoding

/-!
# The service

A request to the service is read completely before anything is done: its route and method, and the
body where one is needed.  What it asks for is then done with a data set of its own.

* `Body.ofText` — the body of a request.
* `Command` — what a request can ask for, and `Command.read` reads it.
* `Command.perform` — do what is asked for.
* `Service.respond` — the response to such a request, and the calls of the engine made for it.
-/

set_option autoImplicit false

namespace FacetedSearch.Http

open Checked Validation

/-- The body of a request.  One that is not sent as JSON counts as the string that it encodes. -/
inductive Body where
  | absent
  /-- JSON whose octets encode no text, or whose text is beyond the limits of the reader -/
  | unreadable
  | malformed
  | value (x : Json)
  /-- octets that are not sent as JSON and encode no string -/
  | octets
  deriving DecidableEq, Repr

/-- How far the reader of bodies goes. -/
def Body.limits : Limits := ⟨Numeral.digitLimit, 950⟩

/-- The body that a text sent as JSON holds. -/
def Body.ofText (text : String) : Body :=
  if text = "" then absent
  else
    match Text.decode? text with
    | none => unreadable
    | some cs =>
      match Json.read limits cs with
      | .ok x => value x
      | .error .malformed => malformed
      | .error .beyondLimits => unreadable

/-- A request.  The names of its headers are in lower case. -/
structure Request where
  method : String
  path : String
  headers : List (String × String)
  body : Body
  deriving DecidableEq, Repr

/-- What a request can ask for. -/
inductive Command where
  | welcome
  | health
  | query (index : String) (query : Query)
  | compile (query : Query)
  | listFields (index : String)
  | summarizeFields (index : String) (fields : List String)
  | getRecord (index id : String)
  | upsertRecord (index : String) (record : Members)
  | updateRecord (index id : String) (changes : Members)
  | removeRecord (index id : String)
  deriving DecidableEq, Repr

namespace Body

/-- A failure placed in the body. -/
def place : Failure → Failure
  | .invalid causes =>
    .invalid (causes.map fun c => { c with path := .key "body" :: c.path })
  | failure => failure

/-- What the body is read as. -/
def read {α : Type} (reader : Json → Except Failure α) : Body → Except Refusal α
  | absent => .error (.failure (place (.invalid [⟨[], .missing, .null⟩])))
  | unreadable => .error .unreadable
  | malformed => .error (.failure (place (.invalid [⟨[], .jsonInvalid, .obj []⟩])))
  | octets => .error (.failure .undecodable)
  | value x => (reader x).mapError (Refusal.failure ∘ place)

end Body

namespace Command

/-- The names of the fields to summarize, at least one. -/
def readFieldNames (x : Json) : Checked (List String) :=
  (list string x).andThen fun names => if names.isEmpty then refuse .tooShort x else .ok names

/-- A request for a summary. -/
def readSummary : Json → Checked (List String) :=
  model .modelAttributesType fun ms => required ms "fields" readFieldNames

/-- What a request to a route asks for. -/
def read (s : Settings) (route : Route) (method : String) (body : Body) : Except Refusal Command :=
  let query := body.read (Query.read s.defaultSize .modelAttributesType)
  let members := body.read fun x => (record x).orFail
  match route with
  | .root => .ok welcome
  | .health => .ok health
  | .query index => query.map (Command.query index)
  | .compile _ => query.map compile
  | .fields index => .ok (listFields index)
  | .fieldsSummary index =>
    (body.read fun x => (readSummary x).orFail).map (summarizeFields index)
  | .records index => members.map (upsertRecord index)
  | .record index id =>
    if method = "GET" then .ok (getRecord index id)
    else if method = "PATCH" then members.map (updateRecord index id)
    else .ok (removeRecord index id)

/-- What a client is told after a record was written. -/
def written (id : String) (answer : Json) : Except Failure Json := do
  let result ← Json.orFail (answer.getD "result" (.str ""))
  let result ← ((string result).under (.key "result")).orFail
  return .obj [("id", .str id), ("result", .str result)]

/-- The identifier that the engine stored a record under. -/
def storedId (answer : Json) : Except Failure String := do
  let id ← Json.orFail (answer.getD "_id" (.str ""))
  Json.orFail id.text

/-- An answer that can be serialized: the values of any kind in it must not nest too deeply. -/
def serializable (values : List Json) (answer : Json) : Except Failure Json :=
  if values.all Json.isShallow then .ok answer else .error .unserializable

/-- A record and the text of its identifier. -/
def describeRecord (record : Members) : Except Failure Json :=
  match record.lookup "id" with
  | some id => do
    let named ← Json.orFail id.text
    serializable (Members.values record) (.obj [("id", .str named), ("record", .obj record)])
  | none => .error (.fault .key)

open SessionM Dataset in
/-- Do what is asked for. -/
def perform (s : Settings) (inner : Meaning) : Command → SessionM Json
  | welcome =>
    return .obj [("name", .str "QuerySmith"), ("version", .str "1.0.0"), ("docs", .str "/docs"),
      ("health", .str "/healthz")]
  | health => return .obj [("status", .str "ok"), ("env", .str s.environment)]
  | query index _ => do
    let result ← Dataset.query ⟨index, s⟩ inner .null
    attempt (serializable result.anyValues result.presented)
  | compile q => do
    let body ← attempt (q.searchBody s)
    attempt (serializable body.toJson.parts body.toJson)
  | listFields _ => do
    let fields ← fetchFields inner
    attempt (serializable (FieldInfo.anyValues fields)
      (.obj [("fields", .arr (fields.map FieldInfo.presented))]))
  | summarizeFields index fields => do
    let facets ← Dataset.summarizeFields ⟨index, s⟩ inner (.arr (fields.map .str))
    attempt (serializable (SearchResult.anyValuesOfFacets facets)
      (.obj [("facets", SearchResult.presentedFacets facets)]))
  | getRecord _ id => do
    let record ← Dataset.getRecord inner (.str id)
    attempt (describeRecord record)
  | upsertRecord _ record => do
    let answer ← Dataset.upsertRecord inner (.obj record)
    let id ← attempt (storedId answer)
    attempt (written id answer)
  | updateRecord _ id changes => do
    let answer ← call inner (.updateDocument (.obj changes) (.str id))
    attempt (written id answer)
  | removeRecord _ id => do
    let answer ← call inner (.deleteDocument (.str id))
    attempt (written id answer)

/-- The index that is asked about. -/
def index : Command → String
  | query index _ => index
  | listFields index => index
  | summarizeFields index _ => index
  | getRecord index _ => index
  | upsertRecord index _ => index
  | updateRecord index _ _ => index
  | removeRecord index _ => index
  | _ => ""

/-- The query that a session for the request begins with. -/
def startingQuery (s : Settings) : Command → Query
  | query _ q => q
  | _ => Query.blank s.defaultSize

/--
Do what is asked for, while the engine has these outcomes ready.  Nobody else takes part, so there
are no steps inside of others.
-/
def carryOut (s : Settings) (command : Command)
    (outcomes : List (Option (Except Failure Json))) : Response × List Call :=
  let replies := outcomes.map fun outcome => Reply.mk none outcome
  let session := { Session.start (.ofQuery (command.startingQuery s)) false with replies }
  match command.perform s (Dataset.run ⟨command.index, s⟩ 0) session with
  | .ok x after => (Response.ofOutcome (.ok x), after.calls)
  | .error failure after => (Response.ofOutcome (.error failure), after.calls)

end Command

/-- A response, the index that the request was about and the calls that were made for it. -/
structure Exchange where
  response : Response
  index : String
  calls : List Call

namespace Service

/-- The response to a request for the service, while the engine has these outcomes ready. -/
def respond (s : Settings) (r : Request) (outcomes : List (Option (Except Failure Json))) :
    Exchange :=
  match Route.ofPath? r.path with
  | none => ⟨Response.notFound, "", []⟩
  | some route =>
    if route.methods.contains r.method then
      match Command.read s route r.method r.body with
      | .error refusal => ⟨Response.ofRefusal refusal, "", []⟩
      | .ok command =>
        let (response, calls) := command.carryOut s outcomes
        ⟨response, command.index, calls⟩
    else ⟨Response.methodNotAllowed, "", []⟩

end Service

end FacetedSearch.Http
