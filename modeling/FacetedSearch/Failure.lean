import FacetedSearch.Json.Access
import FacetedSearch.Json.Presented
import FacetedSearch.Json.Text
import FacetedSearch.Validation.Checked

/-!
# Failures

Everything that can go wrong, by cause.  The failures of search itself have an *envelope*: a code, a
message, a detail and a status, which is what a client is told.  A refused value lists its causes,
and a `Fault` says how a value from outside had the wrong shape.

* `Failure` — the causes.
* `Failure.envelope?` — code, message, detail and status of the failures that have them, unless the
  message cannot be written.
* `Failure.name` — the name under which a failure is reported.
-/

set_option autoImplicit false

namespace FacetedSearch

/-- The two registries whose entries are checked for their kind. -/
inductive Registry where
  | aggregation
  | facet
  deriving DecidableEq, Repr

/-- The word for a registry in messages. -/
def Registry.word : Registry → String
  | aggregation => "aggregation"
  | facet => "facet"

/-- Why an operation failed. -/
inductive Failure where
  /-- a filter of a kind that is not known, named by its text -/
  | unsupportedFilterKind (kind : String)
  /-- a filter on dates whose field has no aggregation that declares a format -/
  | missingDateFormat (field key : Json)
  /-- an aggregation under the key that is reserved for the hits of all types -/
  | aggregationKeyCollision (key : Json)
  /-- a search that the engine refused -/
  | queryFailed (status body : Json)
  /-- any other operation that the engine refused -/
  | engineFailed (reason detail : Json)
  /-- a record that does not exist -/
  | recordNotFound (index id : Json)
  /-- a failure that is described in full by whoever reports it -/
  | described (code message detail status : Json)
  /-- a value that was refused -/
  | invalid (causes : List Validation.Cause)
  /-- an entry of a registry that is no specification, named by its kind -/
  | unknownSpecification (registry : Registry) (kind : String)
  /-- a value that could not be used as asked -/
  | fault (fault : Fault)
  /-- an answer that cannot be put into JSON text -/
  | unserializable
  /-- octets that encode no text -/
  | undecodable
  /-- a text that cannot be put into octets -/
  | unencodable
  /-- steps inside of steps, deeper than there is room for -/
  | nestedTooDeeply
  deriving DecidableEq, Repr

/--
What a client is told about a failure.  Whoever describes a failure in full may give values of any
kind.
-/
structure Envelope where
  code : Json
  message : Json
  detail : Json
  status : Json
  deriving DecidableEq, Repr

namespace Failure

/-- The engine's reason stands in for a detail that is not given. -/
def engineDetail (reason detail : Json) : Json :=
  detail.orElse (.obj [("reason", reason)])

/-- An envelope with a code and a message in words. -/
def inWords (code message : String) (detail : Json) (status : Int) : Option Envelope :=
  some ⟨.str code, .str message, detail, .int status⟩

/--
Code, message, detail and status; refused and misused values have none.  A message names values, and
a failure whose message cannot be written is itself the misuse of a value.
-/
def envelope? : Failure → Except Fault (Option Envelope)
  | unsupportedFilterKind kind =>
    return inWords "UNSUPPORTED_FILTER_KIND" ("Unsupported filter kind: " ++ kind)
      (.obj [("kind", .str kind)]) 400
  | missingDateFormat field key => do
    let named ← key.text
    let asked ← field.text
    return inWords "MISSING_DATE_FORMAT"
      ("No date_range aggregation '" ++ named ++ "' declares a format for date_range filter on '"
        ++ asked ++ "'")
      (.obj [("field", field), ("aggregation_key", key)]) 400
  | aggregationKeyCollision key => do
    let named ← key.text
    return inWords "AGGREGATION_KEY_COLLISION"
      ("Aggregation key '" ++ named ++ "' is reserved for the all-types aggregation")
      (.obj [("key", key)]) 400
  | queryFailed status body => do
    let number ← status.text
    return inWords "QUERY_FAILED" ("Failed: " ++ number ++ " code")
      (.obj [("status", status), ("body", body)]) 502
  | engineFailed reason detail => do
    let words ← reason.text
    return inWords "OPENSEARCH_ERROR" ("OpenSearch error: " ++ words)
      (engineDetail reason detail) 500
  | recordNotFound index id => do
    let asked ← id.text
    let named ← index.text
    return inWords "RECORD_NOT_FOUND" ("Record not found: " ++ asked ++ " in " ++ named)
      (.obj [("index_name", index), ("record_id", id)]) 404
  | described code message detail status =>
    return some ⟨code, message, detail.orElse (.obj []), status⟩
  | invalid _ => return none
  | unknownSpecification _ _ => return none
  | fault _ => return none
  | unserializable => return none
  | undecodable => return none
  | unencodable => return none
  | nestedTooDeeply => return none

/-- The name under which a failure is reported. -/
def name : Failure → String
  | unsupportedFilterKind _ => "UnsupportedFilterKindError"
  | missingDateFormat _ _ => "MissingDateFormatError"
  | aggregationKeyCollision _ => "AggregationKeyCollisionError"
  | queryFailed _ _ => "QueryFailedError"
  | engineFailed _ _ => "OpenSearchError"
  | recordNotFound _ _ => "RecordNotFoundError"
  | described _ _ _ _ => "QuerySmithError"
  | invalid _ => "ValidationError"
  | unknownSpecification _ _ => "TypeError"
  | fault .type => "TypeError"
  | fault .attribute => "AttributeError"
  | fault .key => "KeyError"
  | fault .index => "IndexError"
  | fault .value => "ValueError"
  | fault .overflow => "OverflowError"
  | unserializable => "PydanticSerializationError"
  | undecodable => "UnicodeDecodeError"
  | unencodable => "UnicodeEncodeError"
  | nestedTooDeeply => "RecursionError"

/-- The message of a failure that has one. -/
def message? : Failure → Option Json
  | invalid causes => some (.str (Validation.report causes))
  | unknownSpecification registry kind =>
    some (.str ("Unknown " ++ registry.word ++ " spec: " ++ kind))
  | failure =>
    match failure.envelope? with
    | .ok e => e.map (·.message)
    | .error _ => none

end Failure

/-- The error object that a client is given. -/
def Envelope.toJson (e : Envelope) : Json :=
  .obj [("error", .obj [("code", e.code), ("message", e.message), ("detail", e.detail)])]

/-- A value that is shown, unless one of these parts of it nests too deeply. -/
def Json.shownWith (parts : List Json) (x : Json) : Except Failure Json :=
  if parts.all isShallow then .ok x else .error (.fault .value)

/-- A reading as a result: refusals become failures. -/
def Checked.orFail {α : Type} : Checked α → Except Failure α
  | .ok x => .ok x
  | .refused causes => .error (.invalid causes)

/-- The outcome of taking a value apart as a result. -/
def Json.orFail {α : Type} : Except Fault α → Except Failure α
  | .ok x => .ok x
  | .error f => .error (.fault f)

end FacetedSearch
