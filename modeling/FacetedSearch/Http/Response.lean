import FacetedSearch.Failure
import FacetedSearch.Http.Status
import FacetedSearch.Json.Presented

/-!
# Responses

A response is a status and a JSON value.  Failures of search are told in their envelope; every other
failure is unexpected, and only its name is told.  A value that cannot be put into JSON text or into
octets cannot be sent, so that sending it is an unexpected failure in turn.

Two texts are left out.  Beside its name an unexpected failure is told with a message, which is not
modelled.  The report of a refused body stands for a list of its causes, of which it names the places
and the rules alone.  The integers in what a request comes to were read from JSON text, so that they
can be written.

* `Response.ofOutcome` — the response to a request that was carried out.
* `Response.ofRefusal` — the response to a request whose body was refused.
* `Response.ofStatus` — the response that only has a status and a text.
-/

set_option autoImplicit false

namespace FacetedSearch.Http

/-- A status and a value.  A status is a number of any kind. -/
structure Response where
  status : Json
  body : Json
  deriving DecidableEq, Repr

/-- Why a request is not carried out. -/
inductive Refusal where
  /-- the body cannot be read at all -/
  | unreadable
  | failure (failure : Failure)
  deriving DecidableEq, Repr

namespace Response

/-- A value with a status, without a check. -/
def plain (status : Int) (body : Json) : Response := ⟨.int status, body⟩

/-- The response to an unexpected failure. -/
def unexpected (failure : Failure) : Response :=
  plain 500 (.obj [("error", .obj [("code", .str "INTERNAL_ERROR"),
    ("message", .str "An unexpected error occurred"),
    ("detail", .obj [("type", .str failure.name)])])])

/-- Whether a value can be the status of a response: it is a number, or counts as one. -/
def isStatus : Json → Bool
  | .bool _ => true
  | .int _ => true
  | .float _ => true
  | _ => false

/-- A value with a status, if it can be sent at all. -/
def send (status body : Json) : Except Failure Response :=
  if !body.isWritable || !body.isPrintable then .error (.fault .value)
  else if !body.isWellFormed then .error .unencodable
  else if !isStatus status then .error (.fault .type)
  else .ok ⟨status, body⟩

/-- A response that can be sent, or else what is told instead. -/
def orUnexpected : Except Failure Response → Response
  | .ok response => response
  | .error failure => unexpected failure

/-- The envelope of a failure, sent with the status that it names. -/
def ofEnvelope (e : Envelope) : Except Failure Response := send e.status e.toJson

/-- The response to a failure. -/
def ofFailure (failure : Failure) : Response :=
  match failure.envelope? with
  | .ok (some e) => orUnexpected (ofEnvelope e)
  | .ok none => unexpected failure
  | .error fault => unexpected (.fault fault)

/-- The response to a request that was carried out; numbers that have no text are sent as null. -/
def ofOutcome : Except Failure Json → Response
  | .ok x => if x.isWellFormed then plain 200 x.presented else unexpected .unserializable
  | .error failure => ofFailure failure

/--
The response to a body that was refused for these causes.  Where they are and what was found there
is told as well, so that it has to be sendable.
-/
def ofCauses (causes : List Validation.Cause) : Response :=
  let report := Json.str (Validation.report causes)
  let told := Json.arr (report :: causes.map fun c => c.input.reported)
  match send (.int 422) told with
  | .ok _ => plain 422 (.obj [("validation", report)])
  | .error failure => unexpected failure

/-- The response to a request that is not carried out. -/
def ofRefusal : Refusal → Response
  | .unreadable => plain 400 (.obj [("detail", .str "There was an error parsing the body")])
  | .failure (.invalid causes) => ofCauses causes
  | .failure failure => ofFailure failure

/-- There is nothing under the path. -/
def notFound : Response := plain 404 (.obj [("detail", .str "Not Found")])

/-- The path cannot be asked with the method. -/
def methodNotAllowed : Response := plain 405 (.obj [("detail", .str "Method Not Allowed")])

/-- A status with its explanation, the standard phrase when none is given. -/
def ofStatus (status explanation : Json) : Except Failure Response := do
  let message ←
    match explanation with
    | .null => .ok ((phrase? status).getD "")
    | x => Json.orFail x.text
  ofEnvelope ⟨.str "HTTP_ERROR", .str message, .obj [], status⟩

end Response

end FacetedSearch.Http
