import FacetedSearch.Proofs.Dataset.SelfObserved
import FacetedSearch.Proofs.Query.Registry

/-!
# Searching again after every change

A data set can observe its own query.  Then every edit that announces a change of the filters, the
boosts or the facets makes it search once more, for what the query asks right after the edit, until
it is closed.  A query that has no body makes the edit fail that announced it, but the edit is not
taken back.

* `Edit.repeats` — edits that add what is already there.
* `Turn.EditsOrCloses` — turns that edit the query or close the data set.
* `Dataset.TurnOutcome` — all that can come of a turn while nobody but the data set observes.
* `Dataset.turnOutcome_turn` — nothing else comes of any turn.
* `Dataset.searches_once_per_change` — the searches of a run, turn by turn.
-/

set_option autoImplicit false

namespace FacetedSearch

open SessionM

/-! ## Edits that add nothing -/

namespace Edit

/-- Whether an edit is to add what is already there. -/
def repeats (q : Query) : Edit → Bool
  | mutation (.addBoost field _ _) => q.boosts.any fun b => field = .str b.field
  | mutation (.addFacet (.str field) _ _) => Members.has field q.facets
  | mutation (.addTermsAggregation (.str field) _ _)
  | mutation (.addRangeAggregation (.str field) _ _)
  | mutation (.addDateRangeAggregation (.str field) _ _ _) =>
    Members.has (Aggregation.key field) q.aggregations
  | _ => false

/-- To add what is already there is to do nothing. -/
theorem eq_unchanged_of_repeats {e : Edit} {q : Query} {c : Change} (h : e.repeats q)
    (hc : e.apply q = .ok c) : c = q.unchanged := by
  have hadded (op : AggregationCall) {field : String} (hadd : op.isAdd)
      (htaken : Members.has (Aggregation.key field) q.aggregations)
      (hc : (op.on field).apply q = .ok c) : c = q.unchanged := by
    obtain ⟨a, silent, rfl, rfl⟩ := AggregationCall.exists_of_isAdd hadd hc
    exact Query.addAggregation_of_has htaken
  unfold repeats at h
  split at h
  · simp only [Edit.apply, Mutation.apply, if_pos h] at hc
    cases hc
    rfl
  · simp only [Edit.apply, Mutation.apply, Mutation.isRegistered, h] at hc
    cases hc
    rfl
  · exact hadded (.addTerms _ _) rfl h hc
  · exact hadded (.addRange _ _) rfl h hc
  · exact hadded (.addDateRange _ _ _) rfl h hc
  · cases h

end Edit

/-! ## Turns of a run -/

namespace Step

/-- Whether a step edits the query, selecting nothing but objects, or closes the data set. -/
def editsOrCloses : Step → Bool
  | mutate m => (Edit.mutation m).selection?.all Json.isObject
  | addAgain _ | replaceAgain _ | close => true
  | _ => false

/-- Whether a step closes the data set. -/
def isClose : Step → Bool
  | close => true
  | _ => false

/-- The edit that a step comes to, if it comes to one. -/
def edit? (q : Query) : Step → Option Edit
  | mutate m => some (.mutation m)
  | addAgain position =>
    (Dataset.itemAt q.filters position).toOption.map fun f => .addFilter f false
  | replaceAgain position => (Dataset.itemAt q.filters position).toOption.map .replaceFilter
  | _ => none

end Step

/-- A turn that edits the query or closes the data set; the engine leaves the query alone. -/
structure Turn.EditsOrCloses (t : Turn) : Prop where
  step : t.step.editsOrCloses
  engine : ∀ reply ∈ t.replies, reply.Looks

namespace Dataset

open Session

variable {d : Dataset} {inner : Meaning} {s : Session}

/-! ## One turn -/

/-- The requests that were made in a turn. -/
def Report.requests (r : Report) : List Request := r.calls.map Call.request

/-- The events that were fired in a turn. -/
def Report.firings (r : Report) : List Event := Entry.firings r.entries

theorem turn_entries (d : Dataset) (depth : Nat) (s : Session) (t : Turn) :
    (d.turn depth s t).entries = (d.turn depth s t).after.journal.drop s.journal.length := by
  unfold turn
  dsimp only
  cases d.run depth t.step { s with replies := t.replies } <;> rfl

theorem turn_calls (d : Dataset) (depth : Nat) (s : Session) (t : Turn) :
    (d.turn depth s t).calls = (d.turn depth s t).after.calls.drop s.calls.length := by
  unfold turn
  dsimp only
  cases d.run depth t.step { s with replies := t.replies } <;> rfl

/-- A report tells what was fired and requested. -/
theorem report_of_passed (d : Dataset) (depth : Nat) (s : Session) (t : Turn) {u : Session}
    {events : List Event} {asked : List Request} (hjournal : u.journal = s.journal)
    (hrequests : u.requests = s.requests) (h : u.Passed (d.turn depth s t).after events asked) :
    (d.turn depth s t).firings = events ∧ (d.turn depth s t).requests = asked := by
  constructor
  · obtain ⟨es, hgrowth⟩ := d.run_grows depth t.step { s with replies := t.replies }
    have hes : (d.turn depth s t).after.journal = s.journal ++ es := by
      rw [turn_after]
      exact hgrowth.journal
    have hfirings := h.firings
    rw [hes, hjournal, Entry.firings_append] at hfirings
    rw [Report.firings, turn_entries, hes, List.drop_left]
    exact List.append_cancel_left hfirings
  · have hasked := h.requests
    rw [hrequests] at hasked
    have hlength : s.calls.length = s.requests.length := (List.length_map _).symm
    have hdrop : (d.turn depth s t).requests =
        (d.turn depth s t).after.requests.drop s.requests.length := by
      rw [Report.requests, turn_calls, hlength, List.map_drop]
      rfl
    rw [hdrop, hasked, List.drop_left]

/-- A step that comes to an edit does the edit and shows the filter that was added. -/
theorem take_of_edit {step : Step} {e : Edit} (h : step.edit? s.live.query = some e) :
    d.take inner step s = (d.enact inner e.perform >>= answer) s := by
  have hat {position : Json} {toEdit : Filter → Edit}
      (h : (itemAt s.live.query.filters position).toOption.map toEdit = some e) :
      (filterAt position >>= fun f => d.enact inner (toEdit f).perform >>= answer) s =
        (d.enact inner e.perform >>= answer) s := by
    cases hitem : itemAt s.live.query.filters position with
    | error fault =>
      rw [hitem] at h
      cases h
    | ok f =>
      rw [hitem] at h
      cases h
      have hfilter : filterAt position s = .ok f s := by
        unfold filterAt
        rw [bind_get, hitem]
        rfl
      exact bind_of_ok hfilter _
  cases step with
  | mutate m =>
    cases h
    rfl
  | addAgain position => exact hat h
  | replaceAgain position => exact hat h
  | _ => cases h

/-- A step that does not come to an edit is to close the data set, or a filter is not there. -/
theorem after_take_of_no_edit {step : Step} (hstep : step.editsOrCloses)
    (h : step.edit? s.live.query = none) :
    (d.take inner step).after s = if step.isClose then s.dismiss .autoQuery else s := by
  have hat {position : Json} {toEdit : Filter → Edit} {act : Filter → SessionM Json}
      (h : (itemAt s.live.query.filters position).toOption.map toEdit = none) :
      (filterAt position >>= act).after s = s := by
    cases hitem : itemAt s.live.query.filters position with
    | ok f =>
      rw [hitem] at h
      cases h
    | error fault =>
      have hfilter : filterAt position s = .error (.fault fault) s := by
        unfold filterAt
        rw [bind_get, hitem]
        rfl
      exact after_bind_of_error hfilter _
  cases step with
  | mutate m => cases h
  | addAgain position => exact hat h
  | replaceAgain position => exact hat h
  | close => rfl
  | _ => cases hstep

theorem turn_outcome_of_error {depth : Nat} {t : Turn} {failure : Failure} {u : Session}
    (h : d.run depth t.step { s with replies := t.replies } = .error failure u) :
    (d.turn depth s t).outcome = .error failure := by
  unfold turn
  dsimp only
  rw [h]

/-- What an edit leaves is what the turn leaves that comes to it. -/
theorem after_take_of_edit {step : Step} {e : Edit} (h : step.edit? s.live.query = some e) :
    (d.take inner step).after s = (d.enact inner e.perform).after s := by
  let shown (filter : Option Filter) : Except Failure Json := filter.elim (.ok .null) Filter.present
  have hanswer : answer = fun filter => attempt (shown filter) :=
    funext fun filter => by cases filter <;> rfl
  have htake : d.take inner step s =
      (d.enact inner e.perform >>= fun filter => attempt (shown filter)) s := by
    rw [take_of_edit h, hanswer]
  rw [← after_bind_attempt _ shown, after, htake]
  rfl

/-- A turn of a run selects nothing but objects. -/
theorem isObject_of_editsOrCloses {q : Query} {step : Step} (hstep : step.editsOrCloses) {e : Edit}
    (h : step.edit? q = some e) {selection : Json} (hselection : e.selection? = some selection) :
    selection.isObject := by
  have hat {position : Json} {toEdit : Filter → Edit} (hno : ∀ f, (toEdit f).selection? = none)
      (h : (itemAt q.filters position).toOption.map toEdit = some e) : selection.isObject := by
    obtain ⟨f, -, rfl⟩ := Option.map_eq_some_iff.1 h
    cases (hno f).symm.trans hselection
  cases step with
  | mutate m =>
    cases h
    have hall : (Edit.mutation m).selection?.all Json.isObject := hstep
    rw [hselection] at hall
    exact hall
  | addAgain position => exact hat (fun _ => rfl) h
  | replaceAgain position => exact hat (fun _ => rfl) h
  | _ => cases h

/-- All that can come of a turn while nobody but the data set observes its query. -/
structure TurnOutcome (d : Dataset) (s : Session) (t : Turn) (r : Report) : Prop where
  /-- an edit changes the live query and stays in force, whatever else comes of the turn -/
  live : r.after.live =
    { s.live with query := (t.step.edit? s.live.query).elim s.live.query s.live.query.after }
  /-- the data set observes its query until it is closed -/
  observing : .autoQuery ∈ r.after.observers ↔ .autoQuery ∈ s.observers ∧ t.step.isClose = false
  once : r.firings.length ≤ 1
  /-- an observing data set searches for what the changed query asks, once for a searched event -/
  requests : r.requests =
    if .autoQuery ∈ s.observers then d.searchesDue r.after.live r.firings else []
  /-- silent edits, selections, and adding what is there fire nothing -/
  still : (∀ e, t.step.edit? s.live.query = some e →
      e.isSilent ∨ e.part = .selections ∨ e.repeats s.live.query) →
    r.firings = [] ∧ r.requests = []
  /-- a turn whose search is due but has no body fails, and nothing new is remembered -/
  fails : .autoQuery ∈ s.observers → ∀ event ∈ r.firings, event.isSearched →
    ∀ failure, r.after.live.searchBody d.settings = .error failure →
      r.outcome = .error failure ∧ r.requests = [] ∧ r.after.memory = s.memory

/-- A turn that leaves the query alone, and perhaps closes the data set. -/
theorem turnOutcome_of_still {depth : Nat} {t : Turn} {u : Session}
    (hu : (d.turn depth s t).after = u) (hlive : u.live = s.live) (hself : u.SelfObserved)
    (hobservers : .autoQuery ∈ u.observers ↔ .autoQuery ∈ s.observers ∧ t.step.isClose = false)
    (hjournal : u.journal = s.journal) (hrequests : u.requests = s.requests)
    (hquery : (t.step.edit? s.live.query).elim s.live.query s.live.query.after = s.live.query) :
    d.TurnOutcome s t (d.turn depth s t) ∧ (d.turn depth s t).after.SelfObserved := by
  subst hu
  obtain ⟨hfirings, hasked⟩ := d.report_of_passed depth s t hjournal hrequests (Passed.refl _)
  refine ⟨⟨?_, hobservers, ?_, ?_, fun _ => ⟨hfirings, hasked⟩, fun _ event hevent => ?_⟩,
    hself⟩
  · rw [hlive, hquery]
  · rw [hfirings]
    exact Nat.zero_le 1
  · rw [hasked, hfirings]
    split <;> rfl
  · rw [hfirings] at hevent
    cases hevent

/-- However deep it is taken, a step that only looks at the query leaves the session as it is. -/
theorem run_looks (d : Dataset) (depth : Nat) (step : Step) (h : step.looks) (s : Session) :
    (d.run depth step).after s = s := by
  cases depth with
  | zero => rfl
  | succ depth => exact take_looks h s

theorem observers_dismiss (hs : s.SelfObserved) : (s.dismiss .autoQuery).observers = [] := by
  show s.observers.erase .autoQuery = []
  rcases hs.alone with halone | halone <;> rw [halone] <;> rfl

theorem turnOutcome_of_no_edit (d : Dataset) (depth : Nat) (hs : s.SelfObserved) {t : Turn}
    (ht : t.EditsOrCloses) (h : t.step.edit? s.live.query = none) :
    d.TurnOutcome s t (d.turn (depth + 1) s t) ∧ (d.turn (depth + 1) s t).after.SelfObserved := by
  have hquery :
      (t.step.edit? s.live.query).elim s.live.query s.live.query.after = s.live.query := by
    rw [h]
    rfl
  have hafter : (d.turn (depth + 1) s t).after =
      if t.step.isClose then dismiss .autoQuery { s with replies := t.replies }
      else { s with replies := t.replies } := by
    rw [turn_after]
    exact after_take_of_no_edit ht.step h
  cases hclose : t.step.isClose with
  | true =>
    rw [if_pos hclose] at hafter
    have hnobody : (dismiss .autoQuery { s with replies := t.replies }).observers = [] :=
      observers_dismiss (hs.of_same rfl rfl)
    refine turnOutcome_of_still hafter rfl ⟨hs.fit, hs.valid, .inr hnobody⟩ ?_ rfl rfl hquery
    rw [hnobody, hclose]
    simp
  | false =>
    rw [hclose] at hafter
    refine turnOutcome_of_still hafter rfl (hs.of_same rfl rfl) ?_ rfl rfl hquery
    rw [hclose]
    exact (and_iff_left rfl).symm

/-- What an edit announces it announces for itself, and adds something. -/
theorem of_announced {e : Edit} {q : Query} {c : Change} (hc : e.apply q = .ok c) {event : Event}
    (h : c.announced = some event) :
    ¬ (e.isSilent ∨ e.part = .selections ∨ e.repeats q) := by
  obtain ⟨hevent, hsilent, -⟩ := (Edit.changes_of_apply hc).covered h
  rintro (hsilent' | hselections | hrepeats)
  · cases hsilent.symm.trans hsilent'
  · unfold Edit.part at hselections
    rw [hevent] at hselections
    exact event.part_ne_selections hselections
  · cases Edit.eq_unchanged_of_repeats hrepeats hc
    cases h

theorem turnOutcome_of_edit (d : Dataset) (depth : Nat) (hs : s.SelfObserved) {t : Turn}
    (ht : t.EditsOrCloses) {e : Edit} (h : t.step.edit? s.live.query = some e) :
    d.TurnOutcome s t (d.turn (depth + 1) s t) ∧ (d.turn (depth + 1) s t).after.SelfObserved := by
  have hafter : (d.turn (depth + 1) s t).after =
      (d.enact (d.run depth) e.perform).after { s with replies := t.replies } := by
    rw [turn_after]
    exact after_take_of_edit h
  have hopen : t.step.isClose = false := by
    cases hstep : t.step with
    | close =>
      rw [hstep] at h
      cases h
    | _ => rfl
  have hobjects : ∀ selection, e.selection? = some selection → selection.isObject :=
    fun selection => isObject_of_editsOrCloses ht.step h
  have hquery : (t.step.edit? s.live.query).elim s.live.query s.live.query.after =
      s.live.query.after e := by
    rw [h]
    rfl
  have hchanged := s.live.query.after_eq e
  let before : Session := { s with replies := t.replies }
  cases happly : e.apply s.live.query with
  | error failure =>
    rw [happly] at hchanged
    have hsame : (d.turn (depth + 1) s t).after = before := by
      rw [hafter]
      exact after_enact_of_refused happly
    refine turnOutcome_of_still hsame rfl (hs.of_same rfl rfl) ?_ rfl rfl (hquery.trans hchanged)
    rw [hopen]
    exact (and_iff_left rfl).symm
  | ok c =>
    rw [happly] at hchanged
    have hpassed := d.passed_enact (d.run_looks depth) before (hs.of_same rfl rfl) ht.engine
      hobjects happly
    rw [← hafter] at hpassed
    have hjournal : (before.withQuery c.query).journal = s.journal := rfl
    obtain ⟨hfirings, hasked⟩ := d.report_of_passed (depth + 1) s t hjournal rfl hpassed
    have hvalid : c.query.Valid := by
      have hvalid := hs.valid.after hobjects
      rwa [hchanged] at hvalid
    refine ⟨⟨?_, ?_, ?_, ?_, fun hstill => ?_, ?_⟩, ?_⟩
    · rw [hpassed.live, hquery, hchanged]
      rfl
    · rw [hpassed.observers, hopen]
      exact (and_iff_left rfl).symm
    · rw [hfirings]
      cases c.announced <;> simp
    · rw [hasked, hfirings, hpassed.live]
      rfl
    · have hnone : c.announced = none := by
        cases hannounced : c.announced with
        | none => rfl
        | some event => exact absurd (hstill e h) (of_announced happly hannounced)
      rw [hfirings, hasked, hnone]
      refine ⟨rfl, ?_⟩
      unfold searchesMade
      split <;> rfl
    · intro (hobserved : .autoQuery ∈ (before.withQuery c.query).observers) event hevent hsearched
        failure hfailure
      have hannounced : c.announced = some event := by
        rw [hfirings] at hevent
        exact Option.mem_toList.1 hevent
      rw [hpassed.live] at hfailure
      have hself : (before.withQuery c.query).SelfObserved := ⟨hs.fit, hvalid, hs.alone⟩
      have hnothing : d.searchesMade (before.withQuery c.query) [event] = [] := by
        rw [searchesMade, if_pos hobserved, searchesDue_singleton, if_pos hsearched, searchesFor,
          hfailure]
      obtain ⟨u, hnotify⟩ := notify_of_selfObserved_fails hself hobserved hsearched hfailure
      have henact : d.enact (d.run depth) e.perform before = .error failure u :=
        (enact_fails_iff (e.realizes_perform _)).2 (.inr ⟨c, event, happly, hannounced, hnotify⟩)
      have htake : d.run (depth + 1) t.step before = (d.enact (d.run depth) e.perform >>= answer)
          before := take_of_edit h
      have hrun := htake.trans (bind_of_error henact _)
      rw [hannounced] at hpassed hasked
      exact ⟨turn_outcome_of_error hrun, hasked.trans hnothing, hpassed.memory hnothing⟩
    · exact ⟨hpassed.live ▸ hs.fit, hpassed.live ▸ hvalid, hpassed.observers ▸ hs.alone⟩

/-- **Every turn has such an outcome**, and leaves a session that only the data set observes. -/
theorem turnOutcome_turn (d : Dataset) (depth : Nat) (hs : s.SelfObserved) {t : Turn}
    (ht : t.EditsOrCloses) :
    d.TurnOutcome s t (d.turn (depth + 1) s t) ∧ (d.turn (depth + 1) s t).after.SelfObserved := by
  cases h : t.step.edit? s.live.query with
  | none => exact d.turnOutcome_of_no_edit depth hs ht h
  | some e => exact d.turnOutcome_of_edit depth hs ht h

/-! ## Runs -/

/-- Only the data set observes the session after any turns, and it does until it is closed. -/
theorem selfObserved_through (d : Dataset) (depth : Nat) (hs : s.SelfObserved) {turns : List Turn}
    (hturns : ∀ t ∈ turns, t.EditsOrCloses) :
    (d.through (depth + 1) s turns).SelfObserved ∧
      (.autoQuery ∈ (d.through (depth + 1) s turns).observers ↔
        .autoQuery ∈ s.observers ∧ ∀ t ∈ turns, t.step.isClose = false) := by
  induction turns generalizing s with
  | nil => exact ⟨hs, by simp [through]⟩
  | cons t turns ih =>
    obtain ⟨ht, hturns⟩ := List.forall_mem_cons.1 hturns
    obtain ⟨houtcome, hself⟩ := d.turnOutcome_turn depth hs ht
    obtain ⟨hthrough, hobserving⟩ := ih hself hturns
    refine ⟨hthrough, hobserving.trans ?_⟩
    rw [houtcome.observing, List.forall_mem_cons, and_assoc]

/-- The searches of a run are those that are due up to its closing. -/
theorem requests_playFrom (d : Dataset) (depth : Nat) (hs : s.SelfObserved) {turns : List Turn}
    (hturns : ∀ t ∈ turns, t.EditsOrCloses) :
    (d.playFrom (depth + 1) s turns).flatMap Report.requests =
      if .autoQuery ∈ s.observers then
        ((turns.zip (d.playFrom (depth + 1) s turns)).takeWhile fun p => !p.1.step.isClose).flatMap
          fun p => d.searchesDue p.2.after.live p.2.firings
      else [] := by
  induction turns generalizing s with
  | nil =>
    split <;> rfl
  | cons t turns ih =>
    obtain ⟨ht, hturns⟩ := List.forall_mem_cons.1 hturns
    obtain ⟨houtcome, hself⟩ := d.turnOutcome_turn depth hs ht
    rw [playFrom, List.flatMap_cons, ih hself hturns, houtcome.requests, List.zip_cons_cons]
    by_cases hobserved : .autoQuery ∈ s.observers
    · rw [if_pos hobserved, if_pos hobserved]
      cases hclose : t.step.isClose with
      | true =>
        have hnone : t.step.edit? s.live.query = none := by
          cases hstep : t.step with
          | close => rfl
          | _ =>
            rw [hstep] at hclose
            cases hclose
        have hstill := houtcome.still fun e he => by cases hnone.symm.trans he
        rw [hstill.1, if_neg fun h => Bool.noConfusion (hclose.symm.trans (houtcome.observing.1 h).2),
          List.takeWhile_cons_of_neg (by simp [hclose])]
        rfl
      | false =>
        rw [if_pos (houtcome.observing.2 ⟨hobserved, hclose⟩),
          List.takeWhile_cons_of_pos (by simp [hclose]), List.flatMap_cons]
    · rw [if_neg hobserved, if_neg hobserved, if_neg fun h => hobserved (houtcome.observing.1 h).1]
      rfl

/-- **A data set searches exactly once for each relevant change**, and for what the query asks right
after it.  In a run of edits whose selections are objects, and of closings, the requests that are
made are the searches for the queries that the turns leave which fire an event of the filters, the
boosts or the facets, in order, up to the closing of the data set.  Each turn fires one event at
most; silent edits, selections and adding what is there fire none, and other events lead to no
search.  When the changed query has no body the turn fails for the same reason, the edit stays in
force, and nothing new is remembered. -/
theorem searches_once_per_change (d : Dataset) (depth : Nat) {q : Query} (hq : q.Valid)
    {turns : List Turn} (hturns : ∀ t ∈ turns, t.EditsOrCloses) :
    let start := Session.start (.ofQuery q) true
    let reports := d.playFrom (depth + 1) start turns
    reports.flatMap Report.requests =
        ((turns.zip reports).takeWhile fun p => !p.1.step.isClose).flatMap
          (fun p => d.searchesDue p.2.after.live p.2.firings) ∧
      ∀ before t after, turns = before ++ t :: after →
        let s := d.through (depth + 1) start before
        let r := d.turn (depth + 1) s t
        reports[before.length]? = some r ∧ d.TurnOutcome s t r ∧
          (.autoQuery ∈ s.observers ↔ ∀ u ∈ before, u.step.isClose = false) := by
  intro start reports
  have hstart : start.SelfObserved := ⟨rfl, hq, .inl rfl⟩
  have hobserved : Observer.autoQuery ∈ start.observers := List.mem_singleton.2 rfl
  constructor
  · have hrequests := d.requests_playFrom depth hstart hturns
    rwa [if_pos hobserved] at hrequests
  · rintro before t after rfl
    obtain ⟨hbefore, hrest⟩ := List.forall_mem_append.1 hturns
    obtain ⟨hthrough, hobserving⟩ := d.selfObserved_through depth hstart hbefore
    refine ⟨?_, (d.turnOutcome_turn depth hthrough (List.forall_mem_cons.1 hrest).1).1, ?_⟩
    · show (d.playFrom (depth + 1) start (before ++ t :: after))[before.length]? = _
      rw [playFrom_append, List.getElem?_append_right (Nat.le_of_eq (d.length_playFrom _ _ _)),
        length_playFrom, Nat.sub_self]
      rfl
    · exact hobserving.trans (and_iff_right hobserved)

/-- A filter on dates whose format comes later, after a facet, and edits after the closing. -/
theorem searches_once_per_change_dated :
    let d : Dataset := ⟨"products", .standard⟩
    let q := Query.blank 10
    let turns : List Turn := [
      ⟨.mutate (.addFacet (.str "color") .null false), [⟨some [.compile, .snapshot], none⟩]⟩,
      ⟨.mutate (.addBoost (.str "name") .null true), []⟩,
      ⟨.mutate (.addFilter (.obj [("type", .str "date_range"), ("field", .str "made")]) false), []⟩,
      ⟨.mutate (.addDateRangeAggregation (.str "made") (.str "yyyy") (.arr []) false), []⟩,
      ⟨.addAgain (.int 0), []⟩,
      ⟨.close, []⟩,
      ⟨.mutate .clearFilters, []⟩]
    let start := Session.start (.ofQuery q) true
    let reports := d.playFrom 1 start turns
    q.Valid ∧ (∀ t ∈ turns, t.EditsOrCloses) ∧
      reports.map (fun r => r.requests.length) = [1, 0, 0, 0, 1, 0, 0] ∧
      reports.flatMap Report.requests =
        ((turns.zip reports).takeWhile fun p => !p.1.step.isClose).flatMap
          fun p => d.searchesDue p.2.after.live p.2.firings := by
  intro d q turns start reports
  have hq : q.Valid := ⟨by decide, by decide, nofun⟩
  have hturns : ∀ t ∈ turns, t.EditsOrCloses := by
    have hedit {step : Step} (hstep : step.editsOrCloses) : Turn.EditsOrCloses ⟨step, []⟩ :=
      ⟨hstep, nofun⟩
    refine List.forall_mem_cons.2 ⟨⟨rfl, fun reply hreply steps hsteps => ?_⟩, ?_⟩
    · cases List.mem_singleton.1 hreply
      cases hsteps
      exact List.forall_mem_cons.2 ⟨rfl, List.forall_mem_singleton.2 rfl⟩
    · simp only [List.forall_mem_cons]
      exact ⟨hedit rfl, hedit rfl, hedit rfl, hedit rfl, hedit rfl, hedit rfl,
        List.forall_mem_nil _⟩
  exact ⟨hq, hturns, by decide +kernel, (searches_once_per_change d 0 hq hturns).1⟩

end Dataset

end FacetedSearch
