import FacetedSearch.Dataset.Step
import FacetedSearch.Engine.Request
import FacetedSearch.Result.Basic

/-!
# Sessions

What a data set remembers while it is in use: its live query, who listens to changes, the latest
result, and a journal of what happened.  A `SessionM` action works on a session and may fail; what it
did before it failed stays done.

* `Session` — the state of a data set in use.
* `Entry` — the entries of the journal: events fired and delivered, queries started and stored.
* `SessionM` — something done in a session.
-/

set_option autoImplicit false

namespace FacetedSearch

/-- Who is told of a change. -/
inductive Observer where
  /-- the data set itself, which queries again -/
  | autoQuery
  | listener (name : String)
  deriving DecidableEq, Repr

/-- What happened in a session. -/
inductive Entry where
  /-- an event was fired while these observers were registered; the number tells firings apart -/
  | fired (number : Nat) (event : Event) (audience : List Observer)
  /-- an observer was told of the event of a firing -/
  | delivered (number : Nat) (event : Event) (observer : Observer)
  /-- a query was started -/
  | started (generation : Nat)
  /-- the result of a query was stored -/
  | stored (generation : Nat) (result : SearchResult)
  deriving DecidableEq, Repr

/-- A request that was made, and what came of the steps taken while the engine worked on it, if any. -/
structure Call where
  request : Request
  during : Option (List (Except Failure Json))

/-- The state of a data set in use. -/
structure Session where
  live : LiveQuery
  /-- who is told of changes, in the order of registration -/
  observers : List Observer
  /-- what listeners do at their next events, for every listener that was ever mentioned -/
  agendas : List (String × List (List Step))
  /-- how many queries were started -/
  generation : Nat
  /-- the number of records that the latest stored result found -/
  recordCount : Option Int
  /-- the latest stored result -/
  lastResult : Option SearchResult
  /-- the replies that the engine has ready -/
  replies : List Reply
  journal : List Entry
  calls : List Call

/-- Something done in a session, which may fail. -/
abbrev SessionM := EStateM Failure Session

namespace Session

/-- A session that begins with a query; the data set may observe it from the start. -/
def start (live : LiveQuery) (autoQuery : Bool) : Session :=
  { live := live
    observers := if autoQuery then [.autoQuery] else []
    agendas := []
    generation := 0
    recordCount := none
    lastResult := none
    replies := []
    journal := []
    calls := [] }

/-- One more entry in the journal. -/
def record (entry : Entry) (s : Session) : Session := { s with journal := s.journal ++ [entry] }

/-- Register an observer, once. -/
def register (observer : Observer) (s : Session) : Session :=
  if s.observers.contains observer then s
  else { s with observers := s.observers ++ [observer] }

/-- Take an observer off the register. -/
def dismiss (observer : Observer) (s : Session) : Session :=
  { s with observers := s.observers.erase observer }

/-- What a listener will do counts from its first mention. -/
def mention (name : String) (scripts : List (List Step)) (s : Session) : Session :=
  if Members.has name s.agendas then s
  else { s with agendas := s.agendas ++ [(name, scripts)] }

/-- The steps that a listener takes at its next event. -/
def nextScript (name : String) (s : Session) : List Step :=
  ((s.agendas.lookup name).bind List.head?).getD []

/-- The listener has taken the steps of one event. -/
def dropScript (name : String) (s : Session) : Session :=
  { s with agendas := s.agendas.map fun a => if a.1 = name then (a.1, a.2.tail) else a }

/-- Note what came of the steps taken during a call. -/
def noteDuring (position : Nat) (outcomes : List (Except Failure Json)) (s : Session) : Session :=
  { s with calls := s.calls.modify position fun c => { c with during := some outcomes } }

/-- Store the result of a query. -/
def store (generation : Nat) (result : SearchResult) (s : Session) : Session :=
  record (.stored generation result)
    { s with recordCount := some result.total, lastResult := some result }

end Session

namespace SessionM

/-- What was computed, or its failure. -/
def attempt {α : Type} : Except Failure α → SessionM α
  | .ok x => pure x
  | .error failure => throw failure

/-- Do something with the query; what it did before it failed stays done. -/
def onQuery {α : Type} (act : QueryM α) : SessionM α := fun s =>
  match act s.live.query with
  | .ok x q => .ok x { s with live := { s.live with query := q } }
  | .error failure q => .error failure { s with live := { s.live with query := q } }

/-- Do something and note its outcome; a failure goes no further. -/
def observe {α : Type} (action : SessionM α) : SessionM (Except Failure α) := fun s =>
  match action s with
  | .ok x s => .ok (.ok x) s
  | .error failure s => .ok (.error failure) s

/-- Do something with every item, in order, up to the first failure. -/
def forEach {α : Type} (act : α → SessionM Unit) : List α → SessionM Unit
  | [] => pure ()
  | x :: xs => do
    act x
    forEach act xs

/-- Do something with every item, in order, and collect what comes of it. -/
def collect {α β : Type} (act : α → SessionM β) : List α → SessionM (List β)
  | [] => pure []
  | x :: xs => do
    let y ← act x
    let ys ← collect act xs
    return y :: ys

end SessionM

end FacetedSearch
