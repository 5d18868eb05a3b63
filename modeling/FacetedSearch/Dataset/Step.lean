import FacetedSearch.Query.Live
import FacetedSearch.Query.Mutation

/-!
# What is done with a data set

A session with a data set is a list of turns.  A turn is one step together with the replies that the
engine has ready for it.  Listeners act too: a listener comes with the steps it takes at its first
event, its second event and so on.  While the engine works on a request, further steps can be taken.

* `Step` — one thing done with a data set or its query.
* `Reply` — how the engine answers one request.
* `Turn` — a step and the replies that are ready for it.
* `Turn.scriptsOf` — how many lists of steps can be started inside the turns, which bounds how deep
  steps nest.
-/

set_option autoImplicit false

namespace FacetedSearch

/-- One thing done with a data set or its query. -/
inductive Step where
  | mutate (mutation : Mutation)
  /-- add a filter of the query once more -/
  | addAgain (position : Json)
  /-- put a filter of the query in place of all filters on its field -/
  | replaceAgain (position : Json)
  /-- the filter in force on a field -/
  | selectedFilter (field : Json)
  | assign (name : String) (value : Json)
  /-- register a listener; its steps count if it was never mentioned before -/
  | subscribe (listener : String) (scripts : List (List Step))
  | unsubscribe (listener : String)
  | hasClauses
  | compile
  | mapResponse (response : Json)
  | snapshot
  | query (updates : Json)
  | fetchFields
  | summarizeFields (fields : Json)
  | getRecord (id : Json)
  | upsertRecord (record : Json)
  | updateRecord (record id : Json)
  | removeRecord (id : Json)
  /-- stop querying whenever the query changes -/
  | close
  /-- a step that is not understood -/
  | fail (failure : Failure)
  deriving Repr

/--
How the engine answers a request: the steps taken meanwhile, if there are any, and the outcome; a
reply without one is that of an engine that holds nothing.
-/
structure Reply where
  during : Option (List Step)
  outcome : Option (Except Failure Json)

/-- A step and the replies that are ready for the requests made by it. -/
structure Turn where
  step : Step
  replies : List Reply

mutual

/-- How many lists of steps can be started by a step. -/
def Step.scripts : Step → Nat
  | .subscribe _ scripts => countScripts scripts
  | _ => 0

/-- How many lists of steps there are, those started by their steps included. -/
def countScripts : List (List Step) → Nat
  | [] => 0
  | script :: scripts => 1 + countSteps script + countScripts scripts

/-- How many lists of steps can be started by some steps. -/
def countSteps : List Step → Nat
  | [] => 0
  | step :: steps => step.scripts + countSteps steps

end

/-- How many lists of steps can be started by a reply. -/
def Reply.scripts (r : Reply) : Nat := countScripts r.during.toList

namespace Turn

/-- How many lists of steps can be started by a turn. -/
def scripts (t : Turn) : Nat :=
  t.step.scripts + t.replies.foldr (fun r n => r.scripts + n) 0

/-- How many lists of steps can be started by some turns. -/
def scriptsOf (turns : List Turn) : Nat := turns.foldr (fun t n => t.scripts + n) 0

end Turn

end FacetedSearch
