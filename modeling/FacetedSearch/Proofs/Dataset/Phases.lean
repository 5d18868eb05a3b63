import FacetedSearch.Proofs.Dataset.Keeping

/-!
# A query in phases

A query applies its updates, takes a number, searches, and stores its result.  Only the search lets
anything else happen; before it and after it the session is the query's own.

* `Dataset.updated` — the live query after the updates.
* `Session.begun` — the session as the search finds it.
* `Dataset.pursue` — the search of a live query, from its snapshot to its result.
* `Dataset.query_eq` — a query, one phase after another.
-/

set_option autoImplicit false

namespace FacetedSearch

open SessionM

/-- The session with the given live query, after the next number was taken. -/
def Session.begun (s : Session) (live : LiveQuery) : Session :=
  { s with
    live := live
    generation := s.generation + 1
    journal := s.journal ++ [.started (s.generation + 1)] }

namespace Dataset

/-- The live query after the updates, or why they are refused. -/
def updated (d : Dataset) (updates : Json) (live : LiveQuery) : Except Failure LiveQuery :=
  if updates.isTruthy then live.update d.settings updates else .ok live

/-- Search for what a live query asks at this moment. -/
def pursue (d : Dataset) (inner : Meaning) (live : LiveQuery) : SessionM SearchResult := do
  let snapshot ← attempt live.snapshot.orFail
  d.search inner snapshot

theorem pursue_eq (d : Dataset) (inner : Meaning) (live : LiveQuery) (s : Session) :
    d.pursue inner live s =
      match live.snapshot.orFail with
      | .ok q => d.search inner q s
      | .error e => .error e s := by
  unfold pursue
  rw [bind_attempt]
  cases live.snapshot.orFail <;> rfl

theorem applyUpdates_eq (d : Dataset) (updates : Json) (s : Session) :
    d.applyUpdates updates s =
      match d.updated updates s.live with
      | .ok live => .ok () { s with live }
      | .error e => .error e s := by
  unfold applyUpdates updated
  split
  · rw [bind_get, bind_attempt]
    cases s.live.update d.settings updates <;> rfl
  · rfl

theorem storeIfNewest_eq (generation : Nat) (result : SearchResult) (s : Session) :
    storeIfNewest generation result s =
      .ok () (if generation = s.generation then s.store generation result else s) := by
  unfold storeIfNewest
  rw [bind_get]
  split <;> rfl

/-- A query, one phase after another: updates that are refused leave no trace, and a result is
stored when the number of the query is still the latest. -/
theorem query_eq (d : Dataset) (inner : Meaning) (updates : Json) (s : Session) :
    d.query inner updates s =
      match d.updated updates s.live with
      | .error e => .error e s
      | .ok live =>
        match d.pursue inner live (s.begun live) with
        | .error e t => .error e t
        | .ok result t =>
          .ok result
            (if s.generation + 1 = t.generation then t.store (s.generation + 1) result else t) := by
  have happly := d.applyUpdates_eq updates s
  cases hl : d.updated updates s.live with
  | error e =>
    rw [hl] at happly
    exact bind_of_error happly _
  | ok live =>
    rw [hl] at happly
    have hstart : startQuery { s with live } = .ok (s.generation + 1) (s.begun live) := rfl
    unfold query
    rw [bind_of_ok happly, bind_of_ok hstart, bind_get, bind_attempt]
    dsimp only
    rw [pursue_eq, show (s.begun live).live = live from rfl]
    cases live.snapshot.orFail with
    | error e => rfl
    | ok q =>
      dsimp only
      cases hsearch : d.search inner q (s.begun live) with
      | error e t => exact bind_of_error hsearch _
      | ok result t =>
        rw [bind_of_ok hsearch, bind_of_ok (storeIfNewest_eq _ result t)]
        rfl

/-- A query returns what its search found. -/
theorem query_eq_ok_iff {d : Dataset} {inner : Meaning} {updates : Json} {s t : Session}
    {result : SearchResult} :
    d.query inner updates s = .ok result t ↔
      ∃ live found, d.updated updates s.live = .ok live ∧
        d.pursue inner live (s.begun live) = .ok result found ∧
        t = if s.generation + 1 = found.generation then found.store (s.generation + 1) result
          else found := by
  rw [query_eq]
  cases d.updated updates s.live with
  | error e => simp
  | ok live =>
    cases h : d.pursue inner live (s.begun live) with
    | error e found => simp [h]
    | ok r found =>
      simp only [h, EStateM.Result.ok.injEq, Except.ok.injEq]
      constructor
      · rintro ⟨rfl, rfl⟩
        exact ⟨live, found, rfl, h, rfl⟩
      · rintro ⟨_, _, rfl, h', rfl⟩
        cases h.symm.trans h'
        exact ⟨rfl, rfl⟩

/-- A query fails when its updates are refused or its search fails. -/
theorem query_eq_error_iff {d : Dataset} {inner : Meaning} {updates : Json} {s t : Session}
    {e : Failure} :
    d.query inner updates s = .error e t ↔
      (d.updated updates s.live = .error e ∧ t = s) ∨
      ∃ live, d.updated updates s.live = .ok live ∧
        d.pursue inner live (s.begun live) = .error e t := by
  rw [query_eq]
  cases d.updated updates s.live with
  | error e' => simp [eq_comm]
  | ok live =>
    cases h : d.pursue inner live (s.begun live) with
    | error e' found => simp [h]
    | ok r found => simp [h]

theorem keeps_pursue {R : Session → Session → Prop} {inner : Meaning} (law : Session.Law R)
    (hinner : ∀ step, Keeps R (inner step)) (d : Dataset) (live : LiveQuery) :
    Keeps R (d.pursue inner live) :=
  Keeps.bind law (Keeps.attempt law _) fun q => keeps_search law hinner d q

end Dataset

end FacetedSearch
