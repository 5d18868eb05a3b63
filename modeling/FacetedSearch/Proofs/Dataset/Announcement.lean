import FacetedSearch.Proofs.Dataset.Atomicity
import FacetedSearch.Proofs.Dataset.Phases
import FacetedSearch.Proofs.Query.Announcement

/-!
# One event for one change

Those who are told of a change may look at the query, ask the engine, register and dismiss
listeners, and fail.  As long as they leave the query alone, and so does whatever is done while the
engine works, a call fires one event at most.  When it does, the change is in force before anybody
is told, and the event covers all that the call changed.

* `Step.KeepsQuery` — the steps that leave the query alone.
* `Session.Quiet` — nobody is about to do anything else.
* `Dataset.run_keepsQuery` — such steps change and announce nothing, however deep they nest.
* `Dataset.events_match_changes` — what a call changes and the event that it fires match.
-/

set_option autoImplicit false

namespace FacetedSearch

open SessionM

/-! ## Steps that leave the query alone -/

namespace Step

/-- Whether a step only looks at the query, or fails. -/
def looks : Step → Bool
  | selectedFilter _ | hasClauses | compile | mapResponse _ | snapshot | fail _ => true
  | _ => false

/-- The steps that leave the query alone, as do the listeners that they register. -/
inductive KeepsQuery : Step → Prop where
  | look {step : Step} (h : step.looks) : KeepsQuery step
  | query {updates : Json} (h : ¬ updates.isTruthy) : KeepsQuery (query updates)
  | subscribe (name : String) {scripts : List (List Step)}
      (h : ∀ script ∈ scripts, ∀ step ∈ script, KeepsQuery step) :
      KeepsQuery (subscribe name scripts)
  | unsubscribe (name : String) : KeepsQuery (unsubscribe name)
  | close : KeepsQuery close
  | fetchFields : KeepsQuery fetchFields
  | summarizeFields (fields : Json) : KeepsQuery (summarizeFields fields)
  | getRecord (id : Json) : KeepsQuery (getRecord id)
  | upsertRecord (record : Json) : KeepsQuery (upsertRecord record)
  | updateRecord (record id : Json) : KeepsQuery (updateRecord record id)
  | removeRecord (id : Json) : KeepsQuery (removeRecord id)

end Step

/-- The events that were fired, in order. -/
def Entry.firings (es : List Entry) : List Event :=
  es.filterMap fun
    | .fired _ event _ => some event
    | _ => none

theorem Entry.firings_append (es fs : List Entry) :
    firings (es ++ fs) = firings es ++ firings fs :=
  List.filterMap_append

namespace Session

/-- Listeners, and whoever acts while the engine works, will leave the query alone. -/
structure Quiet (s : Session) : Prop where
  listeners : ∀ a ∈ s.agendas, ∀ script ∈ a.2, ∀ step ∈ script, step.KeepsQuery
  engine : ∀ reply ∈ s.replies, ∀ steps, reply.during = some steps → ∀ step ∈ steps, step.KeepsQuery

/-- From one session to another, if the first one was quiet, the query was left alone. -/
def QueryKept (s t : Session) : Prop :=
  s.Quiet → t.Quiet ∧ t.live = s.live ∧ Entry.firings t.journal = Entry.firings s.journal

theorem queryKept_preorder : Preorder QueryKept where
  refl _ h := ⟨h, rfl, rfl⟩
  trans := by
    intro s t u hst htu hs
    obtain ⟨ht, hlive, hfirings⟩ := hst hs
    obtain ⟨hu, hlive', hfirings'⟩ := htu ht
    exact ⟨hu, hlive'.trans hlive, hfirings'.trans hfirings⟩

/-- Changes to the rest of a session spare the query. -/
theorem queryKept_of_rest {s t : Session} (hlive : t.live = s.live)
    (hfirings : Entry.firings t.journal = Entry.firings s.journal)
    (hagendas : t.agendas = s.agendas)
    (hreplies : t.replies = s.replies) : QueryKept s t :=
  fun h => ⟨⟨hagendas ▸ h.listeners, hreplies ▸ h.engine⟩, hlive, hfirings⟩

theorem queryKept_delivered (s : Session) (number : Nat) (event : Event) (observer : Observer) :
    QueryKept s (s.record (.delivered number event observer)) :=
  queryKept_of_rest rfl (by simp [record, Entry.firings]) rfl rfl

theorem queryKept_register (observer : Observer) (s : Session) :
    QueryKept s (s.register observer) := by
  unfold register
  split
  · exact queryKept_preorder.refl s
  · exact queryKept_of_rest rfl rfl rfl rfl

theorem queryKept_mention (name : String) {scripts : List (List Step)}
    (hscripts : ∀ script ∈ scripts, ∀ step ∈ script, step.KeepsQuery) (s : Session) :
    QueryKept s (s.mention name scripts) := by
  unfold mention
  split
  · exact queryKept_preorder.refl s
  · intro h
    refine ⟨⟨fun a ha => ?_, h.engine⟩, rfl, rfl⟩
    rcases List.mem_append.1 ha with ha | ha
    · exact h.listeners a ha
    · cases List.mem_singleton.1 ha
      exact hscripts

theorem queryKept_dropScript (name : String) (s : Session) : QueryKept s (s.dropScript name) := by
  intro h
  refine ⟨⟨fun a ha => ?_, h.engine⟩, rfl, rfl⟩
  obtain ⟨b, hb, rfl⟩ := List.mem_map.1 ha
  split
  · exact fun script hscript => h.listeners b hb script (List.mem_of_mem_tail hscript)
  · exact h.listeners b hb

/-- A listener has nothing ready but what a quiet session lets it do. -/
theorem Quiet.nextScript {s : Session} (h : s.Quiet) (name : String) :
    ∀ step ∈ s.nextScript name, step.KeepsQuery := by
  unfold Session.nextScript
  cases hagenda : s.agendas.lookup name with
  | none => exact nofun
  | some scripts =>
    cases scripts with
    | nil => exact nofun
    | cons script scripts =>
      exact h.listeners _ (Members.mem_of_lookup hagenda) script List.mem_cons_self

end Session

namespace Dataset

open Session

variable {d : Dataset} {inner : Meaning}

/-! ## What is done in a quiet session -/

theorem keepsQuery_modify {f : Session → Session} (h : ∀ s, QueryKept s (f s)) :
    Keeps QueryKept (modify f : SessionM Unit) := h

theorem keepsQuery_attempt {α : Type} (x : Except Failure α) : Keeps QueryKept (attempt x) :=
  Keeps.attemptOf queryKept_preorder x

theorem keepsQuery_await (hinner : ∀ step : Step, step.KeepsQuery → Keeps QueryKept (inner step))
    (position : Nat) (request : Request) : Keeps QueryKept (await inner position request) := by
  intro s hs
  unfold await
  rcases takeReply_cases s with ⟨-, htake⟩ | ⟨reply, replies, hreplies, htake⟩
  · rw [after_bind_of_ok htake]
    exact keepsQuery_attempt _ s hs
  · have hnext : QueryKept s { s with replies } := fun h =>
      ⟨⟨h.listeners, fun r hr => h.engine r (hreplies ▸ List.mem_cons_of_mem reply hr)⟩, rfl, rfl⟩
    have hduring := hs.engine reply (hreplies ▸ List.mem_cons_self)
    rw [after_bind_of_ok htake]
    refine queryKept_preorder.trans hnext ?_ hs
    cases hsteps : reply.during with
    | none => exact keepsQuery_attempt _ _
    | some steps =>
      have hcollect : Keeps QueryKept (collect (fun step => observe (inner step)) steps) :=
        Keeps.collectOf queryKept_preorder fun step hstep =>
          Keeps.observe (hinner step (hduring steps hsteps step hstep))
      refine Keeps.andThen queryKept_preorder hcollect (fun outcomes => ?_) _
      refine Keeps.andThen queryKept_preorder (keepsQuery_modify fun s => ?_) fun _ =>
        keepsQuery_attempt _
      exact queryKept_of_rest rfl rfl rfl rfl

theorem keepsQuery_call (hinner : ∀ step : Step, step.KeepsQuery → Keeps QueryKept (inner step))
    (request : Request) : Keeps QueryKept (call inner request) := by
  intro s
  have hcalled : QueryKept s { s with calls := s.calls ++ [⟨request, none⟩] } :=
    queryKept_of_rest rfl rfl rfl rfl
  rw [after, call_eq]
  exact queryKept_preorder.trans hcalled (keepsQuery_await hinner _ request _)

theorem keepsQuery_search (hinner : ∀ step : Step, step.KeepsQuery → Keeps QueryKept (inner step))
    (q : Query) : Keeps QueryKept (d.search inner q) := by
  refine Keeps.andThen queryKept_preorder (keepsQuery_attempt _) fun body => ?_
  exact Keeps.andThen queryKept_preorder (keepsQuery_call hinner _) fun response =>
    keepsQuery_attempt _

/-- A query without updates leaves the live query alone, whatever comes of it. -/
theorem keepsQuery_query (hinner : ∀ step : Step, step.KeepsQuery → Keeps QueryKept (inner step))
    {updates : Json} (hupdates : ¬ updates.isTruthy) : Keeps QueryKept (d.query inner updates) := by
  intro s
  have hupdated : d.updated updates s.live = .ok s.live := if_neg hupdates
  have hbegun : QueryKept s (s.begun s.live) :=
    queryKept_of_rest rfl (by simp [begun, Entry.firings]) rfl rfl
  have hpursue : Keeps QueryKept (d.pursue inner s.live) :=
    Keeps.andThen queryKept_preorder (keepsQuery_attempt _) fun q => keepsQuery_search hinner q
  have hfound := queryKept_preorder.trans hbegun (hpursue (s.begun s.live))
  cases h : d.query inner updates s with
  | error e t =>
    rw [after_error h]
    rcases query_eq_error_iff.1 h with ⟨-, rfl⟩ | ⟨live, hlive, hsearched⟩
    · exact queryKept_preorder.refl t
    · cases hupdated.symm.trans hlive
      rwa [after_error hsearched] at hfound
  | ok result t =>
    rw [after_ok h]
    obtain ⟨live, found, hlive, hsearched, rfl⟩ := query_eq_ok_iff.1 h
    cases hupdated.symm.trans hlive
    rw [after_ok hsearched] at hfound
    split
    · refine queryKept_preorder.trans hfound ?_
      exact queryKept_of_rest rfl (by simp [store, record, Entry.firings]) rfl rfl
    · exact hfound

theorem keepsQuery_react (hinner : ∀ step : Step, step.KeepsQuery → Keeps QueryKept (inner step))
    (event : Event) (observer : Observer) : Keeps QueryKept (d.react inner event observer) := by
  cases observer with
  | autoQuery =>
    rw [react]
    split
    · exact Keeps.andThen queryKept_preorder (keepsQuery_query hinner (by decide)) fun _ =>
        queryKept_preorder.refl
    · exact queryKept_preorder.refl
  | listener name =>
    intro s hs
    have hscript :
        Keeps QueryKept (forEach (fun step => discard (inner step)) (s.nextScript name)) :=
      Keeps.forEachOf queryKept_preorder fun step hstep =>
        Keeps.andThen queryKept_preorder (hinner step (hs.nextScript name step hstep)) fun _ =>
          queryKept_preorder.refl
    exact Keeps.andThen queryKept_preorder (keepsQuery_modify (queryKept_dropScript name))
      (fun _ => hscript) s hs

theorem keepsQuery_deliver (hinner : ∀ step : Step, step.KeepsQuery → Keeps QueryKept (inner step))
    (number : Nat) (event : Event) (observer : Observer) :
    Keeps QueryKept (d.deliver inner number event observer) :=
  Keeps.andThen queryKept_preorder
    (keepsQuery_modify fun s => queryKept_delivered s number event observer) fun _ =>
      keepsQuery_react hinner event observer

/-- A step that only looks at the query leaves the session as it is. -/
theorem take_looks {step : Step} (h : step.looks) (s : Session) :
    (d.take inner step).after s = s := by
  have same : Session.Preorder fun s t => t = s := ⟨fun _ => rfl, fun h h' => h'.trans h⟩
  have hread {α β : Type} (x : Session → Except Failure α) {f : α → SessionM β}
      (hf : ∀ y, Keeps (fun s t => t = s) (f y)) :
      Keeps (fun s t => t = s) (get >>= fun s => attempt (x s) >>= f) :=
    Keeps.andThen same same.refl fun s => Keeps.andThen same (Keeps.attemptOf same (x s)) hf
  have hlook : Keeps (fun s t => t = s) (d.take inner step) := by
    cases step with
    | selectedFilter field => exact Keeps.andThen same same.refl fun s => Keeps.attemptOf same _
    | hasClauses => exact Keeps.andThen same same.refl fun s => same.refl
    | compile => exact hread _ fun body => same.refl
    | mapResponse response => exact hread _ fun result => Keeps.attemptOf same _
    | snapshot => exact hread _ fun q => Keeps.attemptOf same _
    | fail failure => exact same.refl
    | _ => cases h
  exact hlook s

theorem keepsQuery_take
    (hinner : ∀ step : Step, step.KeepsQuery → Keeps QueryKept (inner step)) {step : Step}
    (hstep : step.KeepsQuery) : Keeps QueryKept (d.take inner step) := by
  have hcall (request : Request) := keepsQuery_call hinner request
  cases hstep with
  | look h =>
    intro s
    rw [take_looks h]
    exact queryKept_preorder.refl s
  | query h =>
    exact Keeps.andThen queryKept_preorder (keepsQuery_query hinner h) fun result =>
      keepsQuery_attempt _
  | subscribe name hscripts =>
    refine Keeps.andThen queryKept_preorder (keepsQuery_modify fun s => ?_) fun _ =>
      queryKept_preorder.refl
    exact queryKept_preorder.trans (queryKept_mention name hscripts s) (queryKept_register _ _)
  | unsubscribe name =>
    refine Keeps.andThen queryKept_preorder (keepsQuery_modify fun s => ?_) fun _ =>
      queryKept_preorder.refl
    refine queryKept_preorder.trans (queryKept_mention name (List.forall_mem_nil _) s) ?_
    exact queryKept_of_rest rfl rfl rfl rfl
  | close =>
    refine Keeps.andThen queryKept_preorder (keepsQuery_modify fun s => ?_) fun _ =>
      queryKept_preorder.refl
    exact queryKept_of_rest rfl rfl rfl rfl
  | fetchFields =>
    refine Keeps.andThen queryKept_preorder ?_ fun fields => keepsQuery_attempt _
    exact Keeps.andThen queryKept_preorder (hcall _) fun _ => keepsQuery_attempt _
  | summarizeFields fields =>
    refine Keeps.andThen queryKept_preorder ?_ fun facets => keepsQuery_attempt _
    refine Keeps.andThen queryKept_preorder (keepsQuery_attempt _) fun q => ?_
    exact Keeps.andThen queryKept_preorder (keepsQuery_search hinner q) fun _ =>
      queryKept_preorder.refl
  | getRecord id =>
    refine Keeps.andThen queryKept_preorder ?_ fun _ => queryKept_preorder.refl
    exact Keeps.andThen queryKept_preorder (hcall _) fun _ => keepsQuery_attempt _
  | upsertRecord record =>
    exact Keeps.andThen queryKept_preorder (keepsQuery_attempt _) fun id => hcall _
  | updateRecord record id => exact hcall _
  | removeRecord id => exact hcall _

/-- **Steps that leave the query alone leave it alone**, however deep they nest. -/
theorem run_keepsQuery (d : Dataset) (depth : Nat) :
    ∀ step : Step, step.KeepsQuery → Keeps QueryKept (d.run depth step) := by
  induction depth with
  | zero => exact fun _ _ => queryKept_preorder.refl
  | succ depth ih => exact fun _ hstep => keepsQuery_take ih hstep

/-! ## Notifications -/

/-- What a call leaves behind when its change is in force. -/
theorem after_enact_of_apply {e : Edit} {s : Session} {c : Change}
    (h : e.apply s.live.query = .ok c) :
    (d.enact inner e.perform).after s =
      (d.announce inner c.announced).after (s.withQuery c.query) := by
  have honQuery := onQuery_eq e.perform s
  rw [e.realizes_perform s.live.query, h] at honQuery
  unfold enact
  rw [after_bind_of_ok honQuery]
  dsimp only
  cases hannounce : d.announce inner c.announced (s.withQuery c.query) with
  | ok x t => rw [after_bind_of_ok hannounce, after_ok hannounce]; rfl
  | error e t => rw [after_bind_of_error hannounce, after_error hannounce]

theorem after_enact_of_refused {e : Edit} {s : Session} {failure : Failure}
    (h : e.apply s.live.query = .error failure) : (d.enact inner e.perform).after s = s :=
  after_error ((enact_fails_iff (e.realizes_perform s.live.query)).2 (.inl ⟨h, rfl⟩))

/-- **Events and changes match.**  In a quiet session a call fires one event at most, the change is
in force before anybody is told of it and stays in force, and what is different afterwards is what
the event, or its absence, tells. -/
theorem events_match_changes (d : Dataset) (depth : Nat) (e : Edit) {s : Session} (hs : s.Quiet) :
    let changed := s.withQuery (s.live.query.after e)
    let t := (d.enact (d.run depth) e.perform).after s
    t.live = changed.live ∧
    ∃ fired : Option Event,
      Entry.firings t.journal = Entry.firings s.journal ++ fired.toList ∧
      LiveQuery.ToldBy e s.live t.live fired ∧
      (fired = none → t = changed) ∧
      ∀ event, fired = some event →
        let told := forEach (d.deliver (d.run depth) s.journal.length event)
        let announced := changed.record (.fired s.journal.length event s.observers)
        t = (told s.observers).after announced ∧
        ∀ before observer after, s.observers = before ++ observer :: after →
          ((told before).after announced).live = changed.live := by
  intro changed t
  have hafter := s.live.query.after_eq e
  cases happly : e.apply s.live.query with
  | error failure =>
    rw [happly] at hafter
    have hchanged : changed = s := by
      show s.withQuery (s.live.query.after e) = s
      rw [hafter]
      rfl
    have ht : t = s := after_enact_of_refused happly
    rw [hchanged, ht]
    refine ⟨rfl, none, (List.append_nil _).symm, LiveQuery.toldBy_of_refused e s.live,
      fun _ => rfl, fun _ h => nomatch h⟩
  | ok c =>
    rw [happly] at hafter
    have hchanged : changed = s.withQuery c.query := congrArg s.withQuery hafter
    have ht : t = (d.announce (d.run depth) c.announced).after changed := by
      rw [hchanged]
      exact after_enact_of_apply happly
    have htold : LiveQuery.ToldBy e s.live changed.live c.announced := by
      rw [hchanged]
      exact LiveQuery.toldBy_of_apply happly
    cases hannounced : c.announced with
    | none =>
      rw [hannounced] at ht htold
      have hsame : t = changed := ht
      rw [hsame]
      exact ⟨rfl, none, (List.append_nil _).symm, htold, fun _ => rfl, fun _ h => nomatch h⟩
    | some event =>
      rw [hannounced] at ht htold
      let announced := changed.record (.fired s.journal.length event s.observers)
      have hquiet : announced.Quiet := ⟨hs.listeners, hs.engine⟩
      have hkept (observers : List Observer) :
          Keeps QueryKept (forEach (d.deliver (d.run depth) s.journal.length event) observers) :=
        Keeps.forEachOf queryKept_preorder fun observer _ =>
          keepsQuery_deliver (d.run_keepsQuery depth) _ event observer
      have hnotified : t = (forEach (d.deliver (d.run depth) s.journal.length event)
          s.observers).after announced := ht
      obtain ⟨-, hlive, hfirings⟩ := hkept s.observers announced hquiet
      rw [← hnotified] at hlive hfirings
      refine ⟨hlive, some event, ?_, ?_, nofun, fun _ h => ?_⟩
      · rw [hfirings]
        exact Entry.firings_append _ _
      · rw [hlive]
        exact htold
      · cases h
        exact ⟨hnotified, fun before _ _ _ => (hkept before announced hquiet).2.1⟩

/-- A listener that searches and fails is told that the filters were cleared. -/
theorem events_match_changes_cleared :
    let d : Dataset := ⟨"products", .standard⟩
    let s : Session := { Session.start (.ofQuery (Query.blank 10)) false with
      observers := [.listener "view", .autoQuery]
      agendas := [("view", [[.query .null, .unsubscribe "view", .fail (.fault .value)]])] }
    let e : Edit := .mutation .clearFilters
    let t := (d.enact (d.run 1) e.perform).after s
    s.Quiet ∧ t.live = (s.withQuery (s.live.query.after e)).live ∧
      Entry.firings t.journal = [.filters] ∧ LiveQuery.ToldBy e s.live t.live (some .filters) := by
  intro d s e t
  have hs : s.Quiet := by
    refine ⟨fun a ha script hscript => ?_, nofun⟩
    cases List.mem_singleton.1 ha
    cases List.mem_singleton.1 hscript
    exact List.forall_mem_cons.2 ⟨.query (by decide), List.forall_mem_cons.2
      ⟨.unsubscribe "view", List.forall_mem_singleton.2 (.look rfl)⟩⟩
  obtain ⟨hlive, fired, hfirings, htold, -⟩ := events_match_changes d 1 e hs
  have hfired : Entry.firings t.journal = [.filters] := by decide +kernel
  refine ⟨hs, hlive, hfired, ?_⟩
  rw [hfired] at hfirings
  cases fired with
  | none => cases hfirings
  | some event =>
    cases hfirings
    exact htold

end Dataset

end FacetedSearch
