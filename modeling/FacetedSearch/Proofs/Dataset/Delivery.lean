import FacetedSearch.Proofs.Dataset.Announcement
import FacetedSearch.Proofs.Dataset.Atomicity
import FacetedSearch.Proofs.Dataset.Nesting
import FacetedSearch.Proofs.Dataset.Phases

/-!
# Delivery

Those who are told of an event may do anything: register and dismiss others and themselves, and fire
further events.  Whatever they do, as long as nobody fails, each event is delivered once to each of
those who were registered when it was fired, in the order of their registration, and what is fired
meanwhile is delivered in full before the next of them is told.

* `SessionM.Leads` — what an action leaves behind when it succeeds is so related to what it found.
* `Session.Delivers` — what was journalled from one session to another tells of events in full.
* `Dataset.run_delivers` — every step that succeeds delivers its events, however deep steps nest.
* `Dataset.Heard` — the sessions of a run in which nobody fails.
* `Dataset.delivery_exactly_once` — every event of such a run is delivered once to each observer.
-/

set_option autoImplicit false

namespace FacetedSearch

namespace SessionM

variable {α β : Type} {R : Session → Session → Prop}

/-- What an action leaves behind, when it succeeds, is so related to what it found. -/
def Leads (R : Session → Session → Prop) (act : SessionM α) : Prop :=
  ∀ s x t, act s = .ok x t → R s t

theorem Leads.of_keeps {act : SessionM α} (h : Keeps R act) : Leads R act := by
  intro s x t hact
  have hs := h s
  rwa [after_ok hact] at hs

theorem Leads.andThen (order : Session.Preorder R) {act : SessionM α} {f : α → SessionM β}
    (hact : Leads R act) (hf : ∀ x, Leads R (f x)) : Leads R (act >>= f) := by
  intro s y u h
  obtain ⟨x, t, hfirst, hsecond⟩ := bind_succeeds_iff.1 h
  exact order.trans (hact s x t hfirst) (hf x t y u hsecond)

theorem Leads.attempt (order : Session.Preorder R) (x : Except Failure α) :
    Leads R (attempt x) :=
  Leads.of_keeps (Keeps.attemptOf order x)

theorem Leads.forEach (order : Session.Preorder R) {act : α → SessionM Unit}
    (h : ∀ x, Leads R (act x)) (xs : List α) : Leads R (forEach act xs) := by
  induction xs with
  | nil => exact Leads.of_keeps order.refl
  | cons x xs ih => exact Leads.andThen order (h x) fun _ => ih

end SessionM

open SessionM

namespace Session

/-- Nobody is registered twice, and nothing is done while the engine works. -/
structure Fair (s : Session) : Prop where
  nodup : s.observers.Nodup
  idle : ∀ reply ∈ s.replies, reply.during = none

/-- From one fair session to another, what was journalled tells of events in full. -/
def Delivers (s t : Session) : Prop :=
  s.Fair → t.Fair ∧ ∃ es, t.journal = s.journal ++ es ∧ Entry.Nested [] s.journal.length es

theorem delivers_preorder : Preorder Delivers where
  refl s h := ⟨h, [], (List.append_nil _).symm, .nil nofun⟩
  trans := by
    intro s t u hst htu hs
    obtain ⟨ht, es, hes, hnested⟩ := hst hs
    obtain ⟨hu, fs, hfs, hnested'⟩ := htu ht
    rw [hes, List.length_append] at hnested'
    refine ⟨hu, es ++ fs, ?_, hnested.append hnested'⟩
    rw [hfs, hes, List.append_assoc]

/-- From one session to another these observers were told of a pending firing, one after another,
and of all that they fired meanwhile everybody was told. -/
def Tells (number : Nat) (event : Event) (observers : List Observer) (s t : Session) : Prop :=
  t.Fair ∧ ∃ es, t.journal = s.journal ++ es ∧
    Entry.Nested [(number, event)] s.journal.length es ∧
    Entry.deliveries number es = observers.map fun observer => (event, observer)

theorem Tells.trans {number : Nat} {event : Event} {observers observers' : List Observer}
    {s t u : Session} (h : Tells number event observers s t)
    (h' : Tells number event observers' t u) :
    Tells number event (observers ++ observers') s u := by
  obtain ⟨-, es, hes, hnested, htold⟩ := h
  obtain ⟨hu, fs, hfs, hnested', htold'⟩ := h'
  rw [hes, List.length_append] at hnested'
  refine ⟨hu, es ++ fs, ?_, hnested.append hnested', ?_⟩
  · rw [hfs, hes, List.append_assoc]
  · rw [Entry.deliveries_append, htold, htold', List.map_append]

/-- What is not journalled has only to be fair. -/
theorem delivers_of_journal_eq {s t : Session} (hjournal : t.journal = s.journal)
    (hfair : s.Fair → t.Fair) : Delivers s t :=
  fun hs => ⟨hfair hs, [], by rw [hjournal, List.append_nil], .nil nofun⟩

theorem delivers_register (observer : Observer) (s : Session) :
    Delivers s (s.register observer) := by
  unfold register
  split
  · exact delivers_preorder.refl s
  · next hnew =>
    refine delivers_of_journal_eq rfl fun hs => ⟨?_, hs.idle⟩
    refine List.nodup_append.2 ⟨hs.nodup, by simp, fun o ho o' ho' hsame => ?_⟩
    cases List.mem_singleton.1 ho'
    exact hnew (List.contains_iff_mem.2 (hsame ▸ ho))

theorem delivers_dismiss (observer : Observer) (s : Session) : Delivers s (s.dismiss observer) :=
  delivers_of_journal_eq rfl fun hs => ⟨hs.nodup.erase _, hs.idle⟩

theorem delivers_mention (name : String) (scripts : List (List Step)) (s : Session) :
    Delivers s (s.mention name scripts) := by
  unfold mention
  split
  · exact delivers_preorder.refl s
  · exact delivers_of_journal_eq rfl fun hs => ⟨hs.nodup, hs.idle⟩

/-- An entry that concerns no event. -/
theorem delivers_note {s t : Session} {entry : Entry} (hjournal : t.journal = s.journal ++ [entry])
    (hfired : ∀ number event audience, entry ≠ .fired number event audience)
    (hdelivered : ∀ number event observer, entry ≠ .delivered number event observer)
    (hfair : s.Fair → t.Fair) : Delivers s t :=
  fun hs => ⟨hfair hs, [entry], hjournal, .note hfired hdelivered⟩

end Session

namespace Dataset

open Session

variable {d : Dataset} {inner : Meaning}

/-! ## Whatever is done delivers its events -/

theorem delivers_modify {f : Session → Session} (h : ∀ s, Delivers s (f s)) :
    Leads Delivers (modify f : SessionM Unit) :=
  Leads.of_keeps h

/-- The engine lets nothing happen while it works. -/
theorem delivers_call (request : Request) : Leads Delivers (call inner request) := by
  intro s x t h hs
  rw [call_eq] at h
  unfold await at h
  let called : Session := { s with calls := s.calls ++ [⟨request, none⟩] }
  rcases takeReply_cases called with ⟨-, htake⟩ | ⟨reply, replies, hreplies, htake⟩
  · rw [bind_of_ok htake] at h
    obtain ⟨-, rfl⟩ := attempt_succeeds_iff.1 h
    exact delivers_of_journal_eq rfl (fun _ => ⟨hs.nodup, hs.idle⟩) hs
  · have hidle : reply.during = none := hs.idle reply (hreplies ▸ List.mem_cons_self)
    rw [bind_of_ok htake, hidle] at h
    obtain ⟨-, rfl⟩ := attempt_succeeds_iff.1 h
    refine delivers_of_journal_eq rfl (fun _ => ⟨hs.nodup, fun r hr => ?_⟩) hs
    exact hs.idle r (hreplies ▸ List.mem_cons_of_mem reply hr)

theorem delivers_search (q : Query) : Leads Delivers (d.search inner q) := by
  refine Leads.andThen delivers_preorder (Leads.attempt delivers_preorder _) fun body => ?_
  exact Leads.andThen delivers_preorder (delivers_call _) fun _ => Leads.attempt delivers_preorder _

theorem delivers_query (updates : Json) : Leads Delivers (d.query inner updates) := by
  intro s result t h
  obtain ⟨live, found, -, hpursued, rfl⟩ := query_eq_ok_iff.1 h
  have hbegun : Delivers s (s.begun live) :=
    delivers_note rfl nofun nofun fun hs => ⟨hs.nodup, hs.idle⟩
  have hpursue : Leads Delivers (d.pursue inner live) :=
    Leads.andThen delivers_preorder (Leads.attempt delivers_preorder _) fun q => delivers_search q
  have hfound := delivers_preorder.trans hbegun (hpursue _ result found hpursued)
  split
  · refine delivers_preorder.trans hfound ?_
    exact delivers_note rfl nofun nofun fun hs => ⟨hs.nodup, hs.idle⟩
  · exact hfound

theorem delivers_react (hinner : ∀ step, Leads Delivers (inner step)) (event : Event)
    (observer : Observer) : Leads Delivers (d.react inner event observer) := by
  have hdone {α : Type} {act : SessionM α} (h : Leads Delivers act) :
      Leads Delivers (discard act) :=
    Leads.andThen delivers_preorder h fun _ => Leads.of_keeps delivers_preorder.refl
  cases observer with
  | autoQuery =>
    rw [react]
    split
    · exact hdone (delivers_query .null)
    · exact Leads.of_keeps delivers_preorder.refl
  | listener name =>
    refine Leads.andThen delivers_preorder (Leads.of_keeps delivers_preorder.refl) fun s => ?_
    refine Leads.andThen delivers_preorder (delivers_modify fun s => ?_) fun _ => ?_
    · exact delivers_of_journal_eq rfl fun hs => ⟨hs.nodup, hs.idle⟩
    · exact Leads.forEach delivers_preorder (fun step => hdone (hinner step)) _

/-- An observer is told, and all that it does is told of in full. -/
theorem tells_of_deliver (hinner : ∀ step, Leads Delivers (inner step)) {number : Nat}
    {event : Event} {observer : Observer} {s t : Session}
    (h : d.deliver inner number event observer s = .ok () t) (hs : s.Fair)
    (hnumber : number < s.journal.length) : Tells number event [observer] s t := by
  let told := s.record (.delivered number event observer)
  have hreact : d.react inner event observer told = .ok () t := h
  obtain ⟨ht, es, hes, hnested⟩ := delivers_react hinner event observer told () t hreact
    ⟨hs.nodup, hs.idle⟩
  have htold : told.journal = s.journal ++ [.delivered number event observer] := rfl
  rw [htold] at hes
  rw [htold, List.length_append] at hnested
  have hpending : ∀ p ∈ [(number, event)], p.1 < s.journal.length + 1 :=
    List.forall_mem_singleton.2 (Nat.lt_succ_of_lt hnumber)
  have hlater : Entry.deliveries number es = [] :=
    hnested.deliveries_eq_nil_of_lt (Nat.lt_succ_of_lt hnumber)
  refine ⟨ht, [.delivered number event observer] ++ es, ?_, ?_, ?_⟩
  · rw [hes, List.append_assoc]
  · exact (Entry.Nested.tell hnumber event observer).append (hnested.weaken hpending)
  · rw [Entry.deliveries_append, hlater]
    simp [Entry.deliveries]

/-- Observers are told one after another. -/
theorem tells_of_forEach (hinner : ∀ step, Leads Delivers (inner step)) {number : Nat}
    {event : Event} {observers : List Observer} {s t : Session}
    (h : forEach (d.deliver inner number event) observers s = .ok () t) (hs : s.Fair)
    (hnumber : number < s.journal.length) : Tells number event observers s t := by
  induction observers generalizing s with
  | nil =>
    cases h
    exact ⟨hs, [], (List.append_nil _).symm, .nil (List.forall_mem_singleton.2 hnumber), rfl⟩
  | cons observer observers ih =>
    obtain ⟨_, u, hfirst, hrest⟩ := bind_succeeds_iff.1 h
    have hfirst := tells_of_deliver hinner hfirst hs hnumber
    refine hfirst.trans (ih hrest hfirst.1 ?_)
    obtain ⟨-, es, hes, -⟩ := hfirst
    rw [hes, List.length_append]
    exact Nat.lt_add_right _ hnumber

/-- **An event is told of in full**: to everybody who is registered at this moment, once and in the
order of registration. -/
theorem notify_tells (hinner : ∀ step, Leads Delivers (inner step)) {event : Event} {s t : Session}
    (h : d.notify inner event s = .ok () t) (hs : s.Fair) :
    t.Fair ∧ ∃ es, t.journal = s.journal ++ .fired s.journal.length event s.observers :: es ∧
      Entry.Nested [] s.journal.length (.fired s.journal.length event s.observers :: es) ∧
      Entry.deliveries s.journal.length (.fired s.journal.length event s.observers :: es) =
        s.observers.map fun observer => (event, observer) := by
  let fired := s.record (.fired s.journal.length event s.observers)
  have hforEach : forEach (d.deliver inner s.journal.length event) s.observers fired = .ok () t := h
  have hjournal : fired.journal = s.journal ++ [.fired s.journal.length event s.observers] := rfl
  have hlength : fired.journal.length = s.journal.length + 1 := by
    rw [hjournal, List.length_append]
    rfl
  obtain ⟨ht, es, hes, hnested, htold⟩ := tells_of_forEach hinner hforEach ⟨hs.nodup, hs.idle⟩
    (hlength ▸ Nat.lt_succ_self _)
  rw [hlength] at hnested
  refine ⟨ht, es, ?_, hnested.fire hs.nodup htold, htold⟩
  rw [hes, hjournal, List.append_assoc]
  rfl

theorem delivers_enact (hinner : ∀ step, Leads Delivers (inner step)) (act : QueryM Outcome) :
    Leads Delivers (d.enact inner act) := by
  refine Leads.andThen delivers_preorder (Leads.of_keeps fun s => ?_) fun outcome => ?_
  · unfold after
    rw [onQuery_eq]
    cases act s.live.query <;>
      exact delivers_of_journal_eq rfl fun hs => ⟨hs.nodup, hs.idle⟩
  · refine Leads.andThen delivers_preorder ?_ fun _ => Leads.of_keeps delivers_preorder.refl
    cases outcome.announced with
    | none => exact Leads.of_keeps delivers_preorder.refl
    | some event =>
      intro s _ t h hs
      obtain ⟨ht, es, hes, hnested, -⟩ := notify_tells hinner h hs
      exact ⟨ht, _, hes, hnested⟩

theorem delivers_answer (filter : Option Filter) : Leads Delivers (answer filter) := by
  cases filter with
  | none => exact Leads.of_keeps delivers_preorder.refl
  | some f => exact Leads.attempt delivers_preorder _

theorem delivers_take (hinner : ∀ step, Leads Delivers (inner step)) (step : Step) :
    Leads Delivers (d.take inner step) := by
  have hthen {α β : Type} {act : SessionM α} {f : α → SessionM β} (hact : Leads Delivers act)
      (hf : ∀ x, Leads Delivers (f x)) : Leads Delivers (act >>= f) :=
    Leads.andThen delivers_preorder hact hf
  have hattempt {α : Type} (x : Except Failure α) : Leads Delivers (attempt x) :=
    Leads.attempt delivers_preorder x
  have hpure {α : Type} (x : α) : Leads Delivers (pure x : SessionM α) :=
    Leads.of_keeps delivers_preorder.refl
  have henact (act : QueryM Outcome) : Leads Delivers (d.enact inner act >>= answer) :=
    hthen (delivers_enact hinner act) delivers_answer
  have hfilter (position : Json) : Leads Delivers (filterAt position) :=
    hthen (Leads.of_keeps delivers_preorder.refl) fun s => hattempt _
  have hlooks (h : step.looks) : Leads Delivers (d.take inner step) := by
    refine Leads.of_keeps fun s => ?_
    rw [take_looks h]
    exact delivers_preorder.refl s
  cases step with
  | mutate m => exact henact m.perform
  | addAgain position => exact hthen (hfilter position) fun f => henact _
  | replaceAgain position => exact hthen (hfilter position) fun f => henact _
  | selectedFilter | hasClauses | compile | mapResponse | snapshot | fail => exact hlooks rfl
  | assign name value =>
    rw [take]
    split
    · refine hthen (delivers_modify fun s => ?_) fun _ => hpure _
      exact delivers_of_journal_eq rfl fun hs => ⟨hs.nodup, hs.idle⟩
    · exact hattempt (.error (.fault .value))
  | subscribe name scripts =>
    refine hthen (delivers_modify fun s => ?_) fun _ => hpure _
    exact delivers_preorder.trans (delivers_mention name scripts s) (delivers_register _ _)
  | unsubscribe name =>
    refine hthen (delivers_modify fun s => ?_) fun _ => hpure _
    exact delivers_preorder.trans (delivers_mention name [] s) (delivers_dismiss _ _)
  | query updates => exact hthen (delivers_query updates) fun result => hattempt _
  | fetchFields =>
    exact hthen (hthen (delivers_call _) fun mapping => hattempt _) fun fields => hattempt _
  | summarizeFields fields =>
    refine hthen (hthen (hattempt _) fun q => ?_) fun facets => hattempt _
    exact hthen (delivers_search q) fun result => hpure _
  | getRecord id =>
    exact hthen (hthen (delivers_call _) fun document => hattempt _) fun ms => hpure _
  | upsertRecord record => exact hthen (hattempt _) fun id => delivers_call _
  | updateRecord record id => exact delivers_call _
  | removeRecord id => exact delivers_call _
  | close =>
    exact hthen (delivers_modify fun s => delivers_dismiss .autoQuery s) fun _ => hpure _

/-- **Every step that succeeds delivers its events**, however deep the steps nest. -/
theorem run_delivers (d : Dataset) (depth : Nat) : ∀ step, Leads Delivers (d.run depth step) := by
  induction depth with
  | zero => exact fun step => Leads.of_keeps delivers_preorder.refl
  | succ depth ih => exact delivers_take ih

/-! ## Runs -/

/-- The sessions of a run in which nobody fails: replies are made ready in which nothing happens
while the engine works, edits are performed and other steps are taken, whatever listeners do.  An
edit that is refused leaves the session as it is, so it makes no difference to a run. -/
inductive Heard (d : Dataset) : Session → Prop where
  | start (live : LiveQuery) (autoQuery : Bool) : Heard d (Session.start live autoQuery)
  | ready {s : Session} (h : Heard d s) (replies : List Reply)
      (hreplies : ∀ reply ∈ replies, reply.during = none) : Heard d { s with replies }
  | edited {s t : Session} {filter : Option Filter} (h : Heard d s) (depth : Nat) (e : Edit)
      (ht : d.enact (d.run depth) e.perform s = .ok filter t) : Heard d t
  | taken {s t : Session} {x : Json} (h : Heard d s) (depth : Nat) (step : Step)
      (ht : d.run depth step s = .ok x t) : Heard d t

/-- A turn that succeeds is a part of such a run. -/
theorem Heard.turn {s : Session} (h : d.Heard s) (depth : Nat) {t : Turn}
    (hidle : ∀ reply ∈ t.replies, reply.during = none) {x : Json}
    (hx : (d.turn depth s t).outcome = .ok x) : d.Heard (d.turn depth s t).after := by
  unfold Dataset.turn at hx ⊢
  dsimp only at hx ⊢
  have hready := h.ready t.replies hidle
  cases hrun : d.run depth t.step { s with replies := t.replies } with
  | ok y u => exact hready.taken depth t.step hrun
  | error e u =>
    rw [hrun] at hx
    cases hx

theorem Heard.through {s : Session} (h : d.Heard s) {depth : Nat} {turns : List Turn}
    (hidle : ∀ t ∈ turns, ∀ reply ∈ t.replies, reply.during = none)
    (hok : ∀ r ∈ d.playFrom depth s turns, ∃ x, r.outcome = .ok x) :
    d.Heard (d.through depth s turns) := by
  induction turns generalizing s with
  | nil => exact h
  | cons t turns ih =>
    obtain ⟨ht, hturns⟩ := List.forall_mem_cons.1 hidle
    obtain ⟨⟨x, hx⟩, hrest⟩ := List.forall_mem_cons.1 hok
    exact ih (h.turn depth ht hx) hturns hrest

/-- The journal of a run tells of all of its events in full. -/
theorem Heard.nested {s : Session} (h : d.Heard s) : s.Fair ∧ Entry.Nested [] 0 s.journal := by
  have hnext {s t : Session} (hst : Delivers s t) (h : s.Fair ∧ Entry.Nested [] 0 s.journal) :
      t.Fair ∧ Entry.Nested [] 0 t.journal := by
    obtain ⟨ht, es, hes, hnested⟩ := hst h.1
    rw [hes]
    rw [← Nat.zero_add s.journal.length] at hnested
    exact ⟨ht, h.2.append hnested⟩
  induction h with
  | start live autoQuery =>
    refine ⟨⟨?_, nofun⟩, .nil nofun⟩
    cases autoQuery <;> simp [Session.start]
  | ready h replies hreplies ih => exact ⟨⟨ih.1.nodup, hreplies⟩, ih.2⟩
  | edited h depth e ht ih => exact hnext (delivers_enact (d.run_delivers depth) _ _ _ _ ht) ih
  | taken h depth step ht ih => exact hnext (d.run_delivers depth step _ _ _ ht) ih

/-- **Every event is delivered exactly once**, whatever listeners do as long as nobody fails.
Nobody is registered twice.  The journal of a run tells of each event that everybody who was
registered when it was fired was told of it once, in order of registration, and nobody else; and
before the next of them was told, everybody had been told of whatever was fired since.  Those who are
told of an event are those who are registered at the moment when it is fired, wherever in a run this
is, and whoever of them is dismissed meanwhile. -/
theorem delivery_exactly_once (d : Dataset) :
    (∀ s, d.Heard s → s.observers.Nodup ∧ Entry.Nested [] 0 s.journal) ∧
    ∀ depth event s t, s.Fair → d.notify (d.run depth) event s = .ok () t →
      t.observers.Nodup ∧ ∃ es,
        t.journal = s.journal ++ .fired s.journal.length event s.observers :: es ∧
        Entry.Nested [] s.journal.length (.fired s.journal.length event s.observers :: es) ∧
        Entry.deliveries s.journal.length es =
          s.observers.map fun observer => (event, observer) := by
  refine ⟨fun s h => ⟨h.nested.1.nodup, h.nested.2⟩, fun depth event s t hs h => ?_⟩
  obtain ⟨ht, es, hes, hnested, htold⟩ := notify_tells (d.run_delivers depth) h hs
  exact ⟨ht.nodup, es, hes, hnested, htold⟩

/-- A listener dismisses the next one, registers another one and fires an event of its own. -/
theorem delivery_exactly_once_amid :
    let d : Dataset := ⟨"products", .standard⟩
    let turns : List Turn := [
      ⟨.subscribe "view" [[.unsubscribe "map", .subscribe "log" [], .mutate .clearBoosts]], []⟩,
      ⟨.subscribe "map" [], []⟩,
      ⟨.mutate .clearFilters, []⟩]
    let start := Session.start (.ofQuery (Query.blank 10)) false
    let s := d.through 3 start turns
    let u : Session := { start with observers := [.listener "map"] }
    d.Heard s ∧
      s.journal = [.fired 0 .filters [.listener "view", .listener "map"],
        .delivered 0 .filters (.listener "view"),
        .fired 2 .boosts [.listener "view", .listener "log"],
        .delivered 2 .boosts (.listener "view"), .delivered 2 .boosts (.listener "log"),
        .delivered 0 .filters (.listener "map")] ∧
      (s.observers.Nodup ∧ Entry.Nested [] 0 s.journal) ∧
      u.Fair ∧ ∃ t, d.notify (d.run 1) .boosts u = .ok () t ∧ t.observers.Nodup ∧ ∃ es,
        t.journal = u.journal ++ .fired u.journal.length .boosts u.observers :: es ∧
        Entry.Nested [] u.journal.length (.fired u.journal.length .boosts u.observers :: es) ∧
        Entry.deliveries u.journal.length es =
          u.observers.map fun observer => (.boosts, observer) := by
  intro d turns start s u
  have hok : (d.playFrom 3 start turns).all (fun r => r.outcome.isOk) := by decide +kernel
  have hs : d.Heard s := by
    have hidle : ∀ t ∈ turns, t.replies = [] := by simp [turns]
    refine (Heard.start _ false).through (fun t ht reply hreply => ?_) fun r hr => ?_
    · rw [hidle t ht] at hreply
      cases hreply
    · cases houtcome : r.outcome with
      | ok x => exact ⟨x, rfl⟩
      | error e =>
        have hr := List.all_eq_true.1 hok r hr
        rw [houtcome] at hr
        cases hr
  have hu : u.Fair := ⟨by simp [u], nofun⟩
  have hnotify : d.notify (d.run 1) .boosts u = .ok () _ := rfl
  exact ⟨hs, by decide +kernel, (delivery_exactly_once d).1 s hs, hu, _, hnotify,
    (delivery_exactly_once d).2 1 .boosts u _ hu hnotify⟩

end Dataset

end FacetedSearch
