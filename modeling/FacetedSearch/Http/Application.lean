import FacetedSearch.Http.Service

/-!
# The application

The service is one part of an application.  A browser that asks whether a request may be sent, with
whatever headers, is answered before anything else is looked at.  Beside the routes of the service
there are pages that describe it.  A path that leads nowhere, but would lead somewhere with a slash
more or without the slashes at its end, is answered with that path.

What the pages show and what the headers of an answer say is left out.

* `Preflight` — the question of a browser, and the objections to it.
* `Page`, `Destination` — the pages, and all that a path can lead to.
* `Answer` — what a request can be answered with.
* `Application.handle` — the answer to a request, and the calls of the engine made for it.
-/

set_option autoImplicit false

namespace FacetedSearch.Http

/-! ## Questions of browsers -/

/-- The question whether a request with this method may be sent from this origin. -/
structure Preflight where
  origin : String
  method : String
  deriving DecidableEq, Repr

/-- The question that a request puts, if it is one. -/
def Request.preflight? (r : Request) : Option Preflight :=
  if r.method = "OPTIONS" then do
    let origin ← r.headers.lookup "origin"
    let method ← r.headers.lookup "access-control-request-method"
    return ⟨origin, method⟩
  else none

namespace Preflight

/-- The methods that may be used from elsewhere. -/
def methods : List String := ["DELETE", "GET", "HEAD", "OPTIONS", "PATCH", "POST", "PUT"]

/-- Whether requests may be sent from an origin. -/
def isWelcome (s : Settings) (origin : String) : Bool :=
  s.corsOrigins.contains "*" || s.corsOrigins.contains origin

/-- What speaks against a request. -/
def objections (s : Settings) (p : Preflight) : List String :=
  (if isWelcome s p.origin then [] else ["origin"])
    ++ if methods.contains p.method then [] else ["method"]

end Preflight

/-! ## Destinations -/

/-- The pages about the service. -/
inductive Page where
  | schema
  | guide
  | guideSignIn
  | reference
  deriving DecidableEq, Repr

namespace Page

/-- Every page. -/
def all : List Page := [schema, guide, guideSignIn, reference]

/-- The path of a page. -/
def path : Page → String
  | schema => "/openapi.json"
  | guide => "/docs"
  | guideSignIn => "/docs/oauth2-redirect"
  | reference => "/redoc"

/-- The page under a path. -/
def ofPath? (path : String) : Option Page := all.find? fun page => page.path == Route.unbroken path

end Page

/-- What a path leads to in the application. -/
inductive Destination where
  | page (page : Page)
  | route (route : Route)
  deriving DecidableEq, Repr

namespace Destination

/-- The destination of a path, if it leads anywhere. -/
def ofPath? (path : String) : Option Destination :=
  match Page.ofPath? path with
  | some found => some (page found)
  | none => (Route.ofPath? path).map route

/-- The methods with which a destination can be asked. -/
def methods : Destination → List String
  | page _ => ["GET", "HEAD"]
  | route found => found.methods

/-- A path without the slashes at its end, or with one if there are none. -/
def reslashed (path : String) : String :=
  if path.toList.getLast? = some '/' then
    String.ofList (path.toList.reverse.dropWhile (· = '/')).reverse
  else path ++ "/"

/-- The path to ask under instead of one that leads nowhere, if that leads anywhere. -/
def instead? (path : String) : Option String :=
  if path ≠ "/" ∧ (ofPath? (reslashed path)).isSome then some (reslashed path) else none

end Destination

/-! ## Answers -/

/-- What a request is answered with. -/
inductive Answer where
  | response (response : Response)
  /-- a line of text, with a status -/
  | line (status : Int) (text : String)
  | page (page : Page)
  /-- another path, under which to ask -/
  | redirect (path : String)
  deriving DecidableEq, Repr

/-- The status of an answer. -/
def Answer.status : Answer → Json
  | response r => r.status
  | line status _ => .int status
  | page _ => .int 200
  | redirect _ => .int 307

/-- The answer to the question of a browser. -/
def Preflight.answer (s : Settings) (p : Preflight) : Answer :=
  match p.objections s with
  | [] => .line 200 "OK"
  | objections => .line 400 ("Disallowed CORS " ++ ", ".intercalate objections)

/-- An answer, the index that the request was about and the calls that were made for it. -/
structure Handling where
  answer : Answer
  index : String
  calls : List Call

/-- An answer for which no call was made. -/
def Handling.without (answer : Answer) : Handling := ⟨answer, "", []⟩

/-- What the service does for a request. -/
def Handling.ofExchange (e : Exchange) : Handling := ⟨.response e.response, e.index, e.calls⟩

/-- The answer to a request, while the engine has these outcomes ready. -/
def Application.handle (s : Settings) (r : Request)
    (outcomes : List (Option (Except Failure Json))) : Handling :=
  match r.preflight? with
  | some p => .without (p.answer s)
  | none =>
    match Destination.ofPath? r.path with
    | some (.page page) =>
      if (Destination.page page).methods.contains r.method then .without (.page page)
      else .without (.response .methodNotAllowed)
    | some (.route _) => .ofExchange (Service.respond s r outcomes)
    | none =>
      match Destination.instead? r.path with
      | some path => .without (.redirect path)
      | none => .without (.response .notFound)

end FacetedSearch.Http
