import FacetedSearch.Proofs.Dataset.Keeping
import FacetedSearch.Proofs.Query.Mutation

/-!
# All or nothing

A call that is to change the query can raise an error of its own, or pass on one that an observer
raised when it was told of the change.  An error of its own comes before anything was done: the
session is what it was, and nobody was told of anything.

* `SessionM.forEach_fails` — of several actions that fail one did.
* `Dataset.notify_fails` — errors of a notification come from an observer.
* `Dataset.enact_fails_iff` — when a change of the query fails.
* `Dataset.mutation_all_or_nothing` — a mutation that fails by itself does nothing.
-/

set_option autoImplicit false

namespace FacetedSearch

open SessionM

/-- The session in which a change of the query is in force. -/
def Session.withQuery (s : Session) (q : Query) : Session :=
  { s with live := { s.live with query := q } }

namespace SessionM

variable {α β : Type}

/-- What fails in two parts fails in the first or, after it, in the second. -/
theorem bind_fails_iff {act : SessionM α} {f : α → SessionM β} {s u : Session} {e : Failure} :
    (act >>= f) s = .error e u ↔
      act s = .error e u ∨ ∃ x t, act s = .ok x t ∧ f x t = .error e u := by
  cases h : act s with
  | ok x t => simp [bind_of_ok h]
  | error e' t => simp [bind_of_error h]

/-- Of actions that fail one after another, one did. -/
theorem forEach_fails {act : α → SessionM Unit} {xs : List α} {s t : Session} {e : Failure}
    (h : forEach act xs s = .error e t) : ∃ x ∈ xs, ∃ u, act x u = .error e t := by
  induction xs generalizing s with
  | nil => cases h
  | cons x xs ih =>
    rcases bind_fails_iff.1 h with hx | ⟨_, u, -, hxs⟩
    · exact ⟨x, List.mem_cons_self, s, hx⟩
    · obtain ⟨y, hy, hfails⟩ := ih hxs
      exact ⟨y, List.mem_cons_of_mem x hy, hfails⟩

/-- The query is left as the action leaves it. -/
theorem onQuery_eq (act : QueryM α) (s : Session) :
    onQuery act s =
      match act s.live.query with
      | .ok x q => .ok x (s.withQuery q)
      | .error e q => .error e (s.withQuery q) := rfl

end SessionM

namespace Dataset

variable {d : Dataset} {inner : Meaning}

/-- An error of a notification was raised by an observer that was registered. -/
theorem notify_fails {event : Event} {s t : Session} {e : Failure}
    (h : d.notify inner event s = .error e t) :
    ∃ observer ∈ s.observers, ∃ u, d.react inner event observer u = .error e t := by
  obtain ⟨observer, hmem, u, hdeliver⟩ := forEach_fails (s := s.record _) h
  exact ⟨observer, hmem, _, hdeliver⟩

/-- A change of the query fails by itself and leaves no trace, or it is in force and is announced to
somebody who fails. -/
theorem enact_fails_iff {act : QueryM Outcome} {whole : Except Failure Change} {s t : Session}
    {e : Failure} (hact : QueryM.Realizes act s.live.query whole) :
    d.enact inner act s = .error e t ↔
      (whole = .error e ∧ t = s) ∨
      ∃ c event, whole = .ok c ∧ c.announced = some event ∧
        d.notify inner event (s.withQuery c.query) = .error e t := by
  have honQuery := onQuery_eq act s
  rw [hact] at honQuery
  unfold enact
  cases whole with
  | error e' =>
    rw [bind_of_error (t := s) honQuery]
    simp [eq_comm]
  | ok c =>
    rw [bind_of_ok honQuery, bind_fails_iff]
    cases hannounced : c.announced with
    | none => simp [announce, pure, EStateM.pure, hannounced]
    | some event => simp [announce, pure, EStateM.pure, hannounced]

/-- **Mutations are all or nothing.**  A mutation that is refused raises its error and leaves the
whole session as it was, so that nothing was written and nobody was told of anything.  Any other
error was raised by an observer that was told of the change, once the change was in force. -/
theorem mutation_all_or_nothing (d : Dataset) (inner : Meaning) (m : Mutation) (s : Session) :
    (∀ e, m.apply s.live.query = .error e → d.enact inner m.perform s = .error e s) ∧
    ∀ e t, d.enact inner m.perform s = .error e t →
      (m.apply s.live.query = .error e ∧ t = s) ∨
      ∃ c event, m.apply s.live.query = .ok c ∧ c.announced = some event ∧
        d.notify inner event (s.withQuery c.query) = .error e t ∧
        ∃ observer ∈ s.observers, ∃ u, d.react inner event observer u = .error e t := by
  have hfails (e : Failure) (t : Session) : d.enact inner m.perform s = .error e t ↔ _ :=
    enact_fails_iff (QueryM.realizes_perform m s.live.query)
  refine ⟨fun e h => (hfails e s).2 (.inl ⟨h, rfl⟩), fun e t h => ?_⟩
  refine ((hfails e t).1 h).imp_right ?_
  rintro ⟨c, event, hc, hannounced, hnotify⟩
  obtain ⟨observer, hmem, hreact⟩ := notify_fails hnotify
  exact ⟨c, event, hc, hannounced, hnotify, observer, hmem, hreact⟩

/-- A filter of an unknown kind is refused, and a listener fails when it is told of a filter. -/
theorem mutation_all_or_nothing_replace :
    let d : Dataset := ⟨"products", .standard⟩
    let s : Session := { Session.start (.ofQuery (Query.blank 10)) false with
      observers := [.listener "view"]
      agendas := [("view", [[.fail (.fault .value)]])] }
    let refused : Mutation := .replaceFilter (.obj [("type", .str "color")])
    let told : Mutation := .replaceFilter (.obj [("type", .str "exists"), ("field", .str "color")])
    (∃ e, refused.apply s.live.query = .error e ∧
      d.enact (d.run 1) refused.perform s = .error e s) ∧
    ∃ e t, d.enact (d.run 1) told.perform s = .error e t ∧
      ((told.apply s.live.query = .error e ∧ t = s) ∨
      ∃ c event, told.apply s.live.query = .ok c ∧ c.announced = some event ∧
        d.notify (d.run 1) event (s.withQuery c.query) = .error e t ∧
        ∃ observer ∈ s.observers, ∃ u, d.react (d.run 1) event observer u = .error e t) := by
  intro d s refused told
  have hrefused : refused.apply s.live.query = .error (.unsupportedFilterKind "color") := rfl
  have htold : d.enact (d.run 1) told.perform s = .error (.fault .value) _ := rfl
  exact ⟨⟨_, hrefused, (mutation_all_or_nothing d (d.run 1) refused s).1 _ hrefused⟩,
    _, _, htold, (mutation_all_or_nothing d (d.run 1) told s).2 _ _ htold⟩

end Dataset

end FacetedSearch
