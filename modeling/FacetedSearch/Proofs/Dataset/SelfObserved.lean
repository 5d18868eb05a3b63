import FacetedSearch.Proofs.Dataset.Announcement
import FacetedSearch.Proofs.Dataset.Copying
import FacetedSearch.Proofs.Dataset.Isolation
import FacetedSearch.Proofs.Dataset.Staleness

/-!
# A data set that observes its query

When nobody but the data set observes a valid query, an event has one consequence at most: the data
set searches for what the query asks at that moment.  The query is left alone meanwhile, as long as
the engine does so.

* `Session.SelfObserved` — sessions with a valid query that nobody but the data set observes.
* `Session.Passed` — what was fired and requested while the query was left alone.
* `Dataset.searchesDue` — the searches that are due after some events.
* `Dataset.passed_enact` — all that comes of an edit that is not refused.
* `Dataset.notify_of_selfObserved_fails` — what comes of a search for a query that has no body.
-/

set_option autoImplicit false

namespace FacetedSearch

open SessionM

/-- The steps that are taken while the engine works only look at the query. -/
def Reply.Looks (r : Reply) : Prop :=
  ∀ steps, r.during = some steps → ∀ step ∈ steps, step.looks

namespace Session

/-- A session with a valid query that nobody but the data set observes. -/
structure SelfObserved (s : Session) : Prop where
  fit : s.live.unfit = []
  valid : s.live.query.Valid
  alone : s.observers = [.autoQuery] ∨ s.observers = []

theorem SelfObserved.of_same {s t : Session} (hs : s.SelfObserved) (hlive : t.live = s.live)
    (hobservers : t.observers = s.observers) : t.SelfObserved :=
  ⟨hlive ▸ hs.fit, hlive ▸ hs.valid, hobservers ▸ hs.alone⟩

/-- From one session to another these events were fired and these requests made, and the query was
left alone. -/
structure Passed (s t : Session) (events : List Event) (asked : List Request) : Prop where
  live : t.live = s.live
  observers : t.observers = s.observers
  firings : Entry.firings t.journal = Entry.firings s.journal ++ events
  requests : t.requests = s.requests ++ asked
  /-- only a search has a result that is remembered -/
  memory : asked = [] → t.memory = s.memory

theorem Passed.refl (s : Session) : s.Passed s [] [] :=
  ⟨rfl, rfl, (List.append_nil _).symm, (List.append_nil _).symm, fun _ => rfl⟩

theorem Passed.trans {s t u : Session} {events events' : List Event} {asked asked' : List Request}
    (h : s.Passed t events asked) (h' : t.Passed u events' asked') :
    s.Passed u (events ++ events') (asked ++ asked') where
  live := h'.live.trans h.live
  observers := h'.observers.trans h.observers
  firings := by rw [h'.firings, h.firings, List.append_assoc]
  requests := by rw [h'.requests, h.requests, List.append_assoc]
  memory hnone := by
    obtain ⟨hasked, hasked'⟩ := List.append_eq_nil_iff.1 hnone
    rw [h'.memory hasked', h.memory hasked]

/-- What a search found is stored. -/
theorem Passed.store {s t : Session} {events : List Event} {asked : List Request}
    (h : s.Passed t events asked) (hasked : asked ≠ []) (generation : Nat) (result : SearchResult) :
    s.Passed (t.store generation result) events asked where
  live := h.live
  observers := h.observers
  firings := by
    rw [← h.firings]
    simp [Session.store, record, Entry.firings]
  requests := h.requests
  memory hnone := absurd hnone hasked

theorem passed_preorder : Preorder fun s t => s.Passed t [] [] :=
  ⟨Passed.refl, fun h h' => h.trans h'⟩

end Session

namespace Dataset

open Session

variable {d : Dataset} {inner : Meaning} {s : Session}

/-! ## What is due -/

/-- The search for what a live query asks, if it has a body. -/
def searchesFor (d : Dataset) (live : LiveQuery) : List Request :=
  match live.searchBody d.settings with
  | .ok body => [.search body.toJson]
  | .error _ => []

/-- The searches that are due after some events. -/
def searchesDue (d : Dataset) (live : LiveQuery) (events : List Event) : List Request :=
  (events.filter Event.isSearched).flatMap fun _ => d.searchesFor live

theorem passed_await (hinner : ∀ step : Step, step.looks → ∀ u, (inner step).after u = u)
    (s : Session) (hs : ∀ reply ∈ s.replies, reply.Looks) (position : Nat) (request : Request) :
    s.Passed ((await inner position request).after s) [] [] := by
  unfold await
  rcases takeReply_cases s with ⟨-, htake⟩ | ⟨reply, replies, hreplies, htake⟩
  · rw [after_bind_of_ok htake]
    exact Keeps.attemptOf passed_preorder _ _
  · have hlooks : reply.Looks := hs reply (hreplies ▸ List.mem_cons_self)
    have hnext : s.Passed { s with replies } [] [] :=
      ⟨rfl, rfl, (List.append_nil _).symm, (List.append_nil _).symm, fun _ => rfl⟩
    rw [after_bind_of_ok htake]
    refine hnext.trans ?_
    cases hsteps : reply.during with
    | none => exact Keeps.attemptOf passed_preorder _ _
    | some steps =>
      have hstep (step : Step) (hmem : step ∈ steps) :
          Keeps (fun s t => s.Passed t [] []) (observe (inner step)) := by
        refine Keeps.observe fun u => ?_
        rw [hinner step (hlooks steps hsteps step hmem) u]
        exact Passed.refl u
      refine Keeps.andThen passed_preorder (Keeps.collectOf passed_preorder hstep)
        (fun outcomes => ?_) _
      refine Keeps.andThen passed_preorder (Keeps.modify fun u => ?_) fun _ =>
        Keeps.attemptOf passed_preorder _
      refine ⟨rfl, rfl, (List.append_nil _).symm, ?_, fun _ => rfl⟩
      rw [requests_noteDuring, List.append_nil]

/-- A request is made once, whatever looks at the query meanwhile. -/
theorem passed_call (hinner : ∀ step : Step, step.looks → ∀ u, (inner step).after u = u)
    (s : Session) (hs : ∀ reply ∈ s.replies, reply.Looks) (request : Request) :
    s.Passed ((call inner request).after s) [] [request] := by
  let called : Session := { s with calls := s.calls ++ [⟨request, none⟩] }
  have hcalled : s.Passed called [] [request] :=
    ⟨rfl, rfl, (List.append_nil _).symm, by simp [called, requests], nofun⟩
  rw [after, call_eq]
  exact hcalled.trans (passed_await hinner called hs _ request)

theorem searchesFor_eq (d : Dataset) {live : LiveQuery} (hfit : live.unfit = []) :
    d.searchesFor live =
      match live.query.searchBody d.settings with
      | .ok body => [.search body.toJson]
      | .error _ => [] := by
  rw [searchesFor, LiveQuery.searchBody_of_fit d.settings hfit]

/-- A query is searched for once, if it has a body. -/
theorem passed_search (d : Dataset)
    (hinner : ∀ step : Step, step.looks → ∀ u, (inner step).after u = u) (s : Session)
    (hs : ∀ reply ∈ s.replies, reply.Looks) {live : LiveQuery} (hfit : live.unfit = []) :
    s.Passed ((d.search inner live.query).after s) [] (d.searchesFor live) := by
  rw [d.searchesFor_eq hfit]
  unfold search
  cases live.query.searchBody d.settings with
  | error e => exact Passed.refl s
  | ok body =>
    have hpassed := passed_call hinner s hs (.search body.toJson)
    rwa [← after_bind_attempt _ live.query.mapResponse] at hpassed

/-- A search that gives a result was due. -/
theorem searchesFor_ne_nil_of_search {live : LiveQuery} (hfit : live.unfit = []) {t : Session}
    {result : SearchResult} (h : d.search inner live.query s = .ok result t) :
    d.searchesFor live ≠ [] := by
  obtain ⟨body, response, hbody, -⟩ := search_succeeds_iff.1 h
  rw [d.searchesFor_eq hfit, hbody]
  exact List.cons_ne_nil _ _

theorem pursue_of_selfObserved (hs : s.SelfObserved) (u : Session) :
    d.pursue inner s.live u = d.search inner s.live.query u := by
  have hsnapshot : s.live.snapshot = .ok s.live.query := by
    rw [LiveQuery.eq_ofQuery_of_fit hs.fit]
    exact hs.valid.snapshot
  rw [pursue_eq, hsnapshot]
  rfl

/-- Where nobody else observes, a query leaves what its search leaves, with the result stored or
not. -/
theorem after_query_of_selfObserved (d : Dataset) (inner : Meaning) (hs : s.SelfObserved) :
    let found := (d.search inner s.live.query).after (s.begun s.live)
    (d.query inner .null).after s = found ∨
      ∃ result, d.search inner s.live.query (s.begun s.live) = .ok result found ∧
        (d.query inner .null).after s = found.store (s.generation + 1) result := by
  intro found
  cases h : d.query inner .null s with
  | error e t =>
    rcases query_eq_error_iff.1 h with ⟨hrefused, -⟩ | ⟨live, hlive, hpursued⟩
    · cases hrefused
    · cases hlive
      rw [pursue_of_selfObserved hs] at hpursued
      exact .inl ((after_error h).trans (after_error hpursued).symm)
  | ok result t =>
    obtain ⟨live, u, hlive, hpursued, rfl⟩ := query_eq_ok_iff.1 h
    cases hlive
    rw [pursue_of_selfObserved hs] at hpursued
    have hfound : found = u := after_ok hpursued
    rw [after_ok h, hfound]
    split
    · exact .inr ⟨result, hpursued, rfl⟩
    · exact .inl rfl

/-- Where nobody else observes, there is one search, if the query has a body. -/
theorem passed_query (d : Dataset)
    (hinner : ∀ step : Step, step.looks → ∀ u, (inner step).after u = u) (s : Session)
    (hs : s.SelfObserved) (hreplies : ∀ reply ∈ s.replies, reply.Looks) :
    s.Passed ((d.query inner .null).after s) [] (d.searchesFor s.live) := by
  have hbegun : s.Passed (s.begun s.live) [] [] :=
    ⟨rfl, rfl, by simp [begun, Entry.firings], (List.append_nil _).symm, fun _ => rfl⟩
  have hsearched := hbegun.trans (d.passed_search hinner (s.begun s.live) hreplies hs.fit)
  rcases d.after_query_of_selfObserved inner hs with hafter | ⟨result, hfound, hafter⟩
  · rw [hafter]
    exact hsearched
  · rw [hafter]
    exact hsearched.store (searchesFor_ne_nil_of_search hs.fit hfound) _ result

/-- A query without a body fails. -/
theorem query_of_selfObserved_fails (hs : s.SelfObserved) {failure : Failure}
    (h : s.live.searchBody d.settings = .error failure) :
    d.query inner .null s = .error failure (s.begun s.live) := by
  rw [LiveQuery.searchBody_of_fit d.settings hs.fit] at h
  refine query_eq_error_iff.2 (.inr ⟨s.live, rfl, ?_⟩)
  rw [pursue_of_selfObserved hs]
  unfold search
  rw [bind_attempt, h]

/-! ## Events where nobody else observes -/

theorem searchesDue_singleton (d : Dataset) (live : LiveQuery) (event : Event) :
    d.searchesDue live [event] = if event.isSearched then d.searchesFor live else [] := by
  unfold searchesDue
  rw [List.filter_singleton]
  cases event.isSearched
  · rfl
  · exact List.append_nil _

/-- The searches that are made after some events, if the data set observes the query. -/
def searchesMade (d : Dataset) (s : Session) (events : List Event) : List Request :=
  if .autoQuery ∈ s.observers then d.searchesDue s.live events else []

theorem passed_deliver (d : Dataset)
    (hinner : ∀ step : Step, step.looks → ∀ u, (inner step).after u = u) (s : Session)
    (hs : s.SelfObserved) (hreplies : ∀ reply ∈ s.replies, reply.Looks) (number : Nat)
    (event : Event) :
    s.Passed ((d.deliver inner number event .autoQuery).after s) []
      (d.searchesDue s.live [event]) := by
  let told := s.record (.delivered number event .autoQuery)
  have htold : s.Passed told [] [] :=
    ⟨rfl, rfl, by simp [told, record, Entry.firings], (List.append_nil _).symm, fun _ => rfl⟩
  have hquery : told.Passed ((d.query inner .null).after told) [] (d.searchesFor told.live) :=
    d.passed_query hinner told (hs.of_same rfl rfl) hreplies
  have hreact : (d.deliver inner number event .autoQuery).after s =
      (d.react inner event .autoQuery).after told := rfl
  rw [hreact, react, searchesDue_singleton]
  split
  · rw [after_discard]
    exact htold.trans hquery
  · exact htold

/-- Where nobody else observes, an event is fired once, and leads to the search that is due. -/
theorem passed_notify (d : Dataset)
    (hinner : ∀ step : Step, step.looks → ∀ u, (inner step).after u = u) (s : Session)
    (hs : s.SelfObserved) (hreplies : ∀ reply ∈ s.replies, reply.Looks) (event : Event) :
    s.Passed ((d.notify inner event).after s) [event] (d.searchesMade s [event]) := by
  let fired := s.record (.fired s.journal.length event s.observers)
  have hfired : s.Passed fired [event] [] :=
    ⟨rfl, rfl, by simp [fired, record, Entry.firings], (List.append_nil _).symm, fun _ => rfl⟩
  have htold : (d.notify inner event).after s =
      (forEach (d.deliver inner s.journal.length event) s.observers).after fired := rfl
  rw [htold, searchesMade]
  rcases hs.alone with hopen | hclosed
  · have hdeliver : fired.Passed
        ((d.deliver inner s.journal.length event .autoQuery).after fired) []
        (d.searchesDue fired.live [event]) :=
      d.passed_deliver hinner fired (hs.of_same rfl rfl) hreplies _ event
    rw [hopen, if_pos (List.mem_singleton.2 rfl)]
    have hforEach : (forEach (d.deliver inner s.journal.length event) [.autoQuery]).after fired =
        (d.deliver inner s.journal.length event .autoQuery).after fired :=
      after_bind_attempt _ (fun _ => .ok ()) fired
    rw [hforEach]
    exact hfired.trans hdeliver
  · rw [hclosed, if_neg List.not_mem_nil]
    exact hfired

/-- A searched event makes the call fail that announces it when the query has no body. -/
theorem notify_of_selfObserved_fails (hs : s.SelfObserved) (hopen : .autoQuery ∈ s.observers)
    {event : Event} (hsearched : event.isSearched) {failure : Failure}
    (h : s.live.searchBody d.settings = .error failure) :
    ∃ t, d.notify inner event s = .error failure t := by
  have halone : s.observers = [.autoQuery] := by
    rcases hs.alone with halone | hclosed
    · exact halone
    · rw [hclosed] at hopen
      cases hopen
  let fired := s.record (.fired s.journal.length event s.observers)
  let told := fired.record (.delivered s.journal.length event .autoQuery)
  have htold : told.SelfObserved := hs.of_same rfl rfl
  have hquery : d.query inner .null told = .error failure (told.begun told.live) :=
    query_of_selfObserved_fails htold h
  have hreact : d.react inner event .autoQuery told = .error failure (told.begun told.live) := by
    rw [react, if_pos hsearched]
    exact bind_of_error hquery _
  have hdeliver : d.deliver inner s.journal.length event .autoQuery fired =
      .error failure (told.begun told.live) := hreact
  have hforEach : forEach (d.deliver inner s.journal.length event) s.observers fired =
      .error failure (told.begun told.live) := by
    rw [halone]
    exact bind_of_error hdeliver _
  exact ⟨_, hforEach⟩

/-- What comes of an edit where nobody else observes, and what is fired. -/
theorem passed_enact (d : Dataset)
    (hinner : ∀ step : Step, step.looks → ∀ u, (inner step).after u = u) (s : Session)
    (hs : s.SelfObserved) (hreplies : ∀ reply ∈ s.replies, reply.Looks) {e : Edit}
    (he : ∀ selection, e.selection? = some selection → selection.isObject) {c : Change}
    (hc : e.apply s.live.query = .ok c) :
    (s.withQuery c.query).Passed ((d.enact inner e.perform).after s) c.announced.toList
      (d.searchesMade (s.withQuery c.query) c.announced.toList) := by
  have hafter : s.live.query.after e = c.query := by
    rw [Query.after_eq, hc]
  have hvalid : c.query.Valid := hafter ▸ hs.valid.after he
  rw [after_enact_of_apply hc]
  cases c.announced with
  | none =>
    have hnone : d.searchesMade (s.withQuery c.query) [] = [] := by
      unfold searchesMade
      split <;> rfl
    rw [Option.toList, hnone]
    exact Passed.refl _
  | some event =>
    exact d.passed_notify hinner (s.withQuery c.query) ⟨hs.fit, hvalid, hs.alone⟩ hreplies event

end Dataset

end FacetedSearch
