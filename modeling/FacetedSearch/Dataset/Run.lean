import FacetedSearch.Dataset.Fields
import FacetedSearch.Dataset.Record
import FacetedSearch.Dataset.Session
import FacetedSearch.Result.Mapping

/-!
# Running a session

A data set is one index of the engine and the settings under which it is searched.  Its query is
compiled, sent and mapped against one snapshot, so that nothing done meanwhile changes the outcome,
and the result is stored unless a newer query was started meanwhile.

What is logged of a result is left out: its total was read from JSON text, so that it can be written.

Steps nest: a listener takes steps while an event is delivered, and steps can be taken while the
engine works.  Whatever may nest takes the meaning of a step as an argument, and `Dataset.run` ties
the knot, up to a given depth.

* `Dataset.notify` — tell all observers of an event.
* `Dataset.enact` — change the query and announce the change.
* `Dataset.call` — make a request and wait for its reply.
* `Dataset.query` — run the query of the session.
* `Dataset.run` — take one step.
* `Dataset.play` — take all turns of a session and report what came of each.
-/

set_option autoImplicit false

namespace FacetedSearch

open SessionM

/-- One index of the engine, and the settings under which it is searched. -/
structure Dataset where
  index : String
  settings : Settings
  deriving DecidableEq, Repr

/-- The events after which a data set that observes its query searches again. -/
def Event.isSearched : Event → Bool
  | filters => true
  | boosts => true
  | facets => true
  | clauses => false
  | aggregations => false

namespace Dataset

/-- The meaning of a step inside another one. -/
abbrev Meaning := Step → SessionM Json

/-- The next reply of the engine; when none is ready the engine holds nothing. -/
def takeReply : SessionM Reply := do
  match (← get).replies with
  | [] => return ⟨none, none⟩
  | reply :: replies =>
    modify fun s => { s with replies }
    return reply

/-- Make a request; the steps of the reply are taken while the engine works on it. -/
def call (inner : Meaning) (request : Request) : SessionM Json := do
  let position := (← get).calls.length
  modify fun s => { s with calls := s.calls ++ [⟨request, none⟩] }
  let reply ← takeReply
  match reply.during with
  | some steps => do
    let outcomes ← collect (fun step => observe (inner step)) steps
    modify (Session.noteDuring position outcomes)
  | none => pure ()
  attempt (reply.outcome.getD (.ok request.emptyAnswer))

/-- Update the query, unless there is nothing to update. -/
def applyUpdates (d : Dataset) (updates : Json) : SessionM Unit := do
  if updates.isTruthy then
    let live ← attempt ((← get).live.update d.settings updates)
    modify fun s => { s with live }

/-- A query is started: it gets the next number. -/
def startQuery : SessionM Nat := do
  modify fun s => { s with generation := s.generation + 1 }
  let generation := (← get).generation
  modify (Session.record (.started generation))
  return generation

/-- Search for what a query asks, and map the response in the light of the same query. -/
def search (d : Dataset) (inner : Meaning) (q : Query) : SessionM SearchResult := do
  let body ← attempt (q.searchBody d.settings)
  let response ← call inner (.search body.toJson)
  attempt (q.mapResponse response)

/-- Store a result, unless a newer query was started. -/
def storeIfNewest (generation : Nat) (result : SearchResult) : SessionM Unit := do
  if generation = (← get).generation then modify (Session.store generation result)

/-- Run the query of the session as it is after the updates. -/
def query (d : Dataset) (inner : Meaning) (updates : Json) : SessionM SearchResult := do
  d.applyUpdates updates
  let generation ← startQuery
  let snapshot ← attempt (← get).live.snapshot.orFail
  let result ← d.search inner snapshot
  storeIfNewest generation result
  return result

/-- What an observer does about an event. -/
def react (d : Dataset) (inner : Meaning) (event : Event) : Observer → SessionM Unit
  | .autoQuery => do if event.isSearched then discard (d.query inner .null)
  | .listener name => do
    let script := (← get).nextScript name
    modify (Session.dropScript name)
    forEach (fun step => discard (inner step)) script

/-- Tell an observer of an event. -/
def deliver (d : Dataset) (inner : Meaning) (number : Nat) (event : Event) (observer : Observer) :
    SessionM Unit := do
  modify (Session.record (.delivered number event observer))
  d.react inner event observer

/-- Tell of an event everyone who is registered at this moment. -/
def notify (d : Dataset) (inner : Meaning) (event : Event) : SessionM Unit := do
  let s ← get
  let number := s.journal.length
  modify (Session.record (.fired number event s.observers))
  forEach (d.deliver inner number event) s.observers

/-- Announce an event, if there is one. -/
def announce (d : Dataset) (inner : Meaning) : Option Event → SessionM Unit
  | some event => d.notify inner event
  | none => pure ()

/-- Change the query, announce the change, and give the filter that was added, if one was. -/
def enact (d : Dataset) (inner : Meaning) (act : QueryM Outcome) : SessionM (Option Filter) := do
  let outcome ← onQuery act
  d.announce inner outcome.announced
  return outcome.filter

/-- What a client is told of a filter that was added. -/
def answer : Option Filter → SessionM Json
  | some f => attempt f.present
  | none => return .null

/-- The item at a position, counted from the end when it is negative. -/
def itemAt {α : Type} (xs : List α) : Json → Except Fault α
  | .bool b => itemAtInt xs (Json.countOf b)
  | .int n => itemAtInt xs n
  | _ => .error .type
where
  itemAtInt (xs : List α) (n : Int) : Except Fault α :=
    let position := if n < 0 then n + xs.length else n
    if position < 0 then .error .index
    else
      match xs[position.toNat]? with
      | some x => .ok x
      | none => .error .index

/-- The filter of the query at a position. -/
def filterAt (position : Json) : SessionM Filter := do
  attempt (Json.orFail (itemAt (← get).live.query.filters position))

/-- The filter in force on the field that a value names. -/
def selectedFilter (q : Query) : Json → Except Failure Json
  | .str field =>
    match q.lastFilter? field with
    | some f => f.present
    | none => .ok .null
  | _ => .ok .null

/-- The query that counts the values of some fields and returns no records. -/
def summaryQuery (fields : Json) : Except Failure Query := do
  let names ← Json.orFail fields.elements
  names.foldlM (fun q name => do
    let c ← (Mutation.addFacet name .null true).apply q
    return c.query) (Query.blank 0)

/-- The fields of the index. -/
def fetchFields (inner : Meaning) : SessionM (List FieldInfo) := do
  let mapping ← call inner .getMapping
  attempt (FieldInfo.ofMapping mapping)

/-- The counts of the values of some fields. -/
def summarizeFields (d : Dataset) (inner : Meaning) (fields : Json) :
    SessionM (List (String × FacetResult)) := do
  let q ← attempt (summaryQuery fields)
  let result ← d.search inner q
  return result.facets

/-- The record of an identifier. -/
def getRecord (inner : Meaning) (id : Json) : SessionM Members := do
  let document ← call inner (.getDocument id)
  attempt (Record.ofDocument id document)

/-- Store a record, under its own identifier if it has one. -/
def upsertRecord (inner : Meaning) (record : Json) : SessionM Json := do
  let id ← attempt (Json.orFail (Record.engineId record))
  call inner (.indexDocument record id)

/-- Take one step, given the meaning of the steps inside it. -/
def take (d : Dataset) (inner : Meaning) : Step → SessionM Json
  | .mutate m => do answer (← d.enact inner m.perform)
  | .addAgain position => do
    let f ← filterAt position
    answer (← d.enact inner (QueryM.addFilter f false))
  | .replaceAgain position => do
    let f ← filterAt position
    answer (← d.enact inner (QueryM.replaceFilter f))
  | .selectedFilter field => do attempt (selectedFilter (← get).live.query field)
  | .assign name value =>
    match Attribute.ofName? name with
    | some a => do
      modify fun s => { s with live := s.live.assign a value }
      return .null
    | none => throw (.fault .value)
  | .subscribe name scripts => do
    modify (Session.register (.listener name) ∘ Session.mention name scripts)
    return .null
  | .unsubscribe name => do
    modify (Session.dismiss (.listener name) ∘ Session.mention name [])
    return .null
  | .hasClauses => do return .bool (← get).live.query.clauses.isAny
  | .compile => do
    let body ← attempt ((← get).live.searchBody d.settings)
    return body.toJson
  | .mapResponse response => do
    let result ← attempt ((← get).live.query.mapResponse response)
    attempt result.present
  | .snapshot => do
    let q ← attempt (← get).live.snapshot.orFail
    attempt q.present
  | .query updates => do attempt (← d.query inner updates).present
  | .fetchFields => do attempt (FieldInfo.presentAll (← fetchFields inner))
  | .summarizeFields fields => do
    attempt (SearchResult.presentFacets (← d.summarizeFields inner fields))
  | .getRecord id => do return .obj (← getRecord inner id)
  | .upsertRecord record => upsertRecord inner record
  | .updateRecord record id => call inner (.updateDocument record id)
  | .removeRecord id => call inner (.deleteDocument id)
  | .close => do
    modify (Session.dismiss .autoQuery)
    return .null
  | .fail failure => throw failure

/-- Take one step; steps nest at most so deep. -/
def run (d : Dataset) : Nat → Meaning
  | 0, _ => throw .nestedTooDeeply
  | depth + 1, step => d.take (d.run depth) step

/-- What came of a turn: the outcome, what was delivered and called, and what there is afterwards. -/
structure Report where
  outcome : Except Failure Json
  entries : List Entry
  calls : List Call
  after : Session

/-- Take one turn. -/
def turn (d : Dataset) (depth : Nat) (s : Session) (t : Turn) : Report :=
  let before := { s with replies := t.replies }
  let report := fun (outcome : Except Failure Json) (after : Session) =>
    { outcome
      entries := after.journal.drop before.journal.length
      calls := after.calls.drop before.calls.length
      after : Report }
  match d.run depth t.step before with
  | .ok x after => report (.ok x) after
  | .error failure after => report (.error failure) after

/-- Take all turns in order; no failure ends the session. -/
def playFrom (d : Dataset) (depth : Nat) (s : Session) : List Turn → List Report
  | [] => []
  | t :: ts =>
    let report := d.turn depth s t
    report :: d.playFrom depth report.after ts

/-- Take all turns in order, with room for all steps that can nest. -/
def play (d : Dataset) (s : Session) (turns : List Turn) : List Report :=
  d.playFrom (Turn.scriptsOf turns + 1) s turns

end Dataset

end FacetedSearch
