import FacetedSearch.Engine.Request
import FacetedSearch.Failure

/-!
# The engine's client

Requests are carried to the engine as its own operations, and what the engine reports as wrong
becomes a failure of the request: a search fails with the status and the explanation, a record that
does not exist is not found, and any other operation fails with a description of the error.  Before
an error becomes a failure it is logged, and what cannot be written is not told any further: the
request then fails for the misuse of that value.

* `Request.operation` — the operation of the engine that a request stands for.
* `EngineError` — what the engine reports; `EngineError.describe` puts it into words.
* `Request.failure` — the failure of a request that met an error.
-/

set_option autoImplicit false

namespace FacetedSearch

/-- One operation of the engine with its arguments, the index apart. -/
structure Operation where
  name : String
  arguments : Members
  deriving DecidableEq, Repr

/-- What is written can be found at once. -/
def Operation.refreshed : String × Json := ("refresh", .bool true)

/-- The operation of the engine that a request stands for. -/
def Request.operation : Request → Operation
  | search body => ⟨"search", [("body", body)]⟩
  | getMapping => ⟨"get_mapping", []⟩
  | getDocument id => ⟨"get", [("id", id)]⟩
  | indexDocument doc id =>
    ⟨"index", [("body", doc), ("id", id), Operation.refreshed]⟩
  | updateDocument doc id =>
    ⟨"update", [("id", id), ("body", .obj [("doc", doc)]), Operation.refreshed]⟩
  | deleteDocument id => ⟨"delete", [("id", id), Operation.refreshed]⟩

/-- The kinds of error that differ in wording or in what they mean. -/
inductive EngineErrorKind where
  /-- no connection, also when it could not be made secure -/
  | connection
  | timeout
  | notFound
  | other (name : String)
  deriving DecidableEq, Repr

/-- What else is known about an error. -/
inductive ErrorInfo where
  | value (x : Json)
  /-- a failure of the system below, in its own words -/
  | system (text : String)
  deriving DecidableEq, Repr

/-- An error that the engine or the way to it reports. -/
structure EngineError where
  kind : EngineErrorKind
  status : Json
  error : Json
  info : ErrorInfo
  deriving DecidableEq, Repr

namespace ErrorInfo

/-- The text of what is known. -/
def text : ErrorInfo → Except Fault String
  | value x => x.text
  | system text => .ok text

/-- The name of its kind. -/
def kindName : ErrorInfo → String
  | value x => x.kindName
  | system _ => "OSError"

/-- The first of the causes that an error lists, if it lists any. -/
def rootCause? (error : Members) : Except Fault (Option Json) :=
  match error.lookup "root_cause" with
  | none => .ok none
  | some (.arr xs) => .ok xs.head?
  | some (.obj _) => .ok none
  | some (.str s) => .ok (s.toList.head?.map fun c => .str (String.singleton c))
  | some _ => .error .type

/-- One more part of a cause, unless it is missing; only a text can be one. -/
def causePart (cause : Members) (name : String) : Except Fault (List String) :=
  match cause.lookup name with
  | some (.str s) => .ok (if s = "" then [] else [s])
  | some x => if x.isTruthy then .error .type else .ok []
  | none => .ok []

/-- A cause in words: its reason, and the resource that it is about. -/
def describeCause : Json → Except Fault (List String)
  | .obj cause =>
    match cause.lookup "reason" with
    | some reason => do
      let words ← reason.quoted
      let id ← causePart cause "resource.id"
      let kind ← causePart cause "resource.type"
      return [", ".intercalate (words :: id ++ kind)]
    | none => .ok []
  | _ => .error .type

/-- The cause of an error, as far as its information tells one. -/
def cause : ErrorInfo → Except Fault (List String)
  | value (.obj ms) =>
    match ms.lookup "error" with
    | some (.obj error) => do
      match ← rootCause? error with
      | some cause => describeCause cause
      | none => return []
    | some x => do return [← x.quoted]
    | none => .ok []
  | _ => .ok []

end ErrorInfo

namespace EngineError

/-- A part of a description, unless it is empty. -/
def part (words : String) : List String := if words = "" then [] else [words]

/-- An error with a status, in words. -/
def describeAs (name : String) (e : EngineError) : Except Fault String := do
  let cause ← e.info.cause
  let status ← e.status.text
  let error ← e.error.quoted
  return name ++ "(" ++ ", ".intercalate (part status ++ [error] ++ cause) ++ ")"

/-- The failure below, in words. -/
def below (e : EngineError) : Except Fault String := do
  return e.info.kindName ++ "(" ++ (← e.info.text) ++ ")"

/-- An error in words. -/
def describe (e : EngineError) : Except Fault String :=
  match e.kind with
  | .connection => do
    let error ← e.error.text
    return "ConnectionError(" ++ error ++ ") caused by: " ++ (← e.below)
  | .timeout => do return "ConnectionTimeout caused by - " ++ (← e.below)
  | .notFound => e.describeAs "NotFoundError"
  | .other name => e.describeAs name

/-- The explanation of an error: its information, or its message when nothing came back. -/
def explanation (e : EngineError) : Except Fault Json :=
  match e.info with
  | .value (.obj ms) => .ok (.obj ms)
  | .value (.arr xs) => .ok (.arr xs)
  | .value (.str s) => .ok (.str s)
  | info => do return .str (← if e.error.isTruthy then e.error.text else info.text)

/-- These values are named in the log. -/
def log (values : List Json) : Except Fault Unit := values.forM fun x => discard x.text

/-- A failure that can be told, or the misuse of a value that stands in the way. -/
def orFault : Except Fault Failure → Failure
  | .ok failure => failure
  | .error fault => .fault fault

/-- The failure of a search that met an error. -/
def failureOfSearch (index : Json) (e : EngineError) : Failure :=
  orFault do
    log [index, e.status, e.error]
    return .queryFailed e.status (← e.explanation)

/-- The failure of an operation that met an error; the log names what it was about. -/
def failureOf (about : List Json) (what : String) (e : EngineError) : Failure :=
  orFault do
    log about
    let words ← e.describe
    return .engineFailed (.str ("Failed to " ++ what ++ ": " ++ words)) .null

/-- The failure of an operation on one record. -/
def failureOn (index id : Json) (what : String) (e : EngineError) : Failure :=
  if e.kind = .notFound then .recordNotFound index id else e.failureOf [id, index] what

end EngineError

/-- The failure of a request that met an error. -/
def Request.failure (index : Json) (e : EngineError) : Request → Failure
  | search _ => e.failureOfSearch index
  | getMapping => e.failureOf [index] "get mapping"
  | getDocument id => e.failureOn index id "get document"
  | indexDocument _ _ => e.failureOf [index] "index document"
  | updateDocument _ id => e.failureOn index id "update document"
  | deleteDocument id => e.failureOn index id "delete document"

/-- The outcome of a request: what the engine answered, or the failure that its error stands for. -/
def Request.outcome (index : Json) (request : Request) :
    Except EngineError Json → Except Failure Json
  | .ok x => .ok x
  | .error e => .error (request.failure index e)

end FacetedSearch
