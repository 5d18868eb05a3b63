import FacetedSearch.Dataset.Run
import FacetedSearch.Proofs.Query.Mutation

/-!
# What every step keeps

Whatever is done in a session is made of a few small changes, put together in order, repeated, or
cut short by a failure.  A relation between a session and what becomes of it that each small change
satisfies, and queries too, is therefore satisfied by every step, however deep the steps nest.

* `SessionM.after` — the session that an action leaves behind, whether it fails or not.
* `SessionM.Keeps` — what an action leaves behind is always so related to what it found.
* `Session.Preorder` — relations that go along with doing one thing after another.
* `Session.Law` — relations that all small changes satisfy.
* `Dataset.run_keeps` — what small changes and queries keep, every step keeps.
* `Dataset.through` — the session that some turns lead to.
-/

set_option autoImplicit false

namespace FacetedSearch

namespace SessionM

/-- The session that an action leaves behind. -/
def after {α : Type} (act : SessionM α) (s : Session) : Session :=
  match act s with
  | .ok _ t => t
  | .error _ t => t

/-- What an action leaves behind is always so related to what it found. -/
def Keeps {α : Type} (R : Session → Session → Prop) (act : SessionM α) : Prop :=
  ∀ s, R s (act.after s)

end SessionM

/-- A relation that holds when nothing is done, and along whatever is done one after another. -/
structure Session.Preorder (R : Session → Session → Prop) : Prop where
  refl : ∀ s, R s s
  trans : ∀ {s t u}, R s t → R t u → R s u

/-- A relation between a session and what becomes of it that all small changes satisfy. -/
structure Session.Law (R : Session → Session → Prop) : Prop where
  refl : ∀ s, R s s
  trans : ∀ {s t u}, R s t → R t u → R s u
  live : ∀ s live, s.live.Becomes live → R s { s with live }
  observers : ∀ s observers, R s { s with observers }
  agendas : ∀ s agendas, R s { s with agendas }
  replies : ∀ s replies, R s { s with replies }
  called : ∀ s request, R s { s with calls := s.calls ++ [⟨request, none⟩] }
  noted : ∀ s position outcomes, R s (s.noteDuring position outcomes)
  fired : ∀ s number event audience, R s (s.record (.fired number event audience))
  delivered : ∀ s number event observer, R s (s.record (.delivered number event observer))

namespace Session

variable {R : Session → Session → Prop}

theorem Law.preorder (law : Law R) : Preorder R := ⟨law.refl, law.trans⟩

theorem Law.register (law : Law R) (observer : Observer) (s : Session) :
    R s (s.register observer) := by
  unfold Session.register
  split
  · exact law.refl s
  · exact law.observers s _

theorem Law.mention (law : Law R) (name : String) (scripts : List (List Step)) (s : Session) :
    R s (s.mention name scripts) := by
  unfold Session.mention
  split
  · exact law.refl s
  · exact law.agendas s _

end Session

namespace SessionM

variable {R : Session → Session → Prop} {α β : Type}

theorem after_ok {act : SessionM α} {s t : Session} {x : α} (h : act s = .ok x t) :
    act.after s = t := by
  rw [after, h]

theorem after_error {act : SessionM α} {s t : Session} {e : Failure} (h : act s = .error e t) :
    act.after s = t := by
  rw [after, h]

theorem bind_of_ok {act : SessionM α} {s t : Session} {x : α} (h : act s = .ok x t)
    (f : α → SessionM β) : (act >>= f) s = f x t := by
  simp [bind, EStateM.bind, h]

theorem bind_of_error {act : SessionM α} {s t : Session} {e : Failure} (h : act s = .error e t)
    (f : α → SessionM β) : (act >>= f) s = .error e t := by
  simp [bind, EStateM.bind, h]

theorem after_bind_of_ok {act : SessionM α} {s t : Session} {x : α} (h : act s = .ok x t)
    (f : α → SessionM β) : (act >>= f).after s = (f x).after t := by
  unfold after
  rw [bind_of_ok h]

theorem after_bind_of_error {act : SessionM α} {s t : Session} {e : Failure}
    (h : act s = .error e t) (f : α → SessionM β) : (act >>= f).after s = t :=
  after_error (bind_of_error h f)

theorem after_attempt (x : Except Failure α) (s : Session) : (attempt x).after s = s := by
  cases x <;> rfl

/-- To make something of what an action gives leaves what the action leaves. -/
theorem after_bind_attempt (act : SessionM α) (f : α → Except Failure β) (s : Session) :
    (act >>= fun x => attempt (f x)).after s = act.after s := by
  cases h : act s with
  | ok x t => rw [after_bind_of_ok h, after_attempt, after_ok h]
  | error e t => rw [after_bind_of_error h, after_error h]

theorem after_discard (act : SessionM α) (s : Session) : (discard act).after s = act.after s :=
  after_bind_attempt act (fun _ => .ok ()) s

/-- What succeeds in two parts succeeds in each. -/
theorem bind_succeeds_iff {act : SessionM α} {f : α → SessionM β} {s u : Session} {y : β} :
    (act >>= f) s = .ok y u ↔ ∃ x t, act s = .ok x t ∧ f x t = .ok y u := by
  cases h : act s with
  | ok x t => simp [bind_of_ok h, and_assoc]
  | error e t => simp [bind_of_error h]

theorem attempt_succeeds_iff {x : Except Failure α} {s t : Session} {y : α} :
    attempt x s = .ok y t ↔ x = .ok y ∧ t = s := by
  cases x with
  | ok x =>
    show EStateM.Result.ok x s = .ok y t ↔ _
    simp [eq_comm]
  | error e => exact ⟨nofun, nofun⟩

theorem bind_get (f : Session → SessionM β) (s : Session) : (get >>= f) s = f s s := rfl

theorem bind_attempt (x : Except Failure α) (f : α → SessionM β) (s : Session) :
    (attempt x >>= f) s =
      match x with
      | .ok y => f y s
      | .error e => .error e s := by
  cases x <;> rfl

theorem Keeps.pure (law : Session.Law R) (x : α) : Keeps R (Pure.pure x : SessionM α) := law.refl

theorem Keeps.throw (law : Session.Law R) (e : Failure) :
    Keeps R (MonadExcept.throw e : SessionM α) := law.refl

theorem Keeps.get (law : Session.Law R) : Keeps R (MonadState.get : SessionM Session) := law.refl

theorem Keeps.modify {f : Session → Session} (h : ∀ s, R s (f s)) :
    Keeps R (modify f : SessionM Unit) := h

theorem Keeps.attemptOf (order : Session.Preorder R) (x : Except Failure α) :
    Keeps R (SessionM.attempt x) := by
  cases x with
  | ok x => exact order.refl
  | error e => exact order.refl

theorem Keeps.attempt (law : Session.Law R) (x : Except Failure α) : Keeps R (attempt x) :=
  Keeps.attemptOf law.preorder x

/-- One thing after another, when the relation goes along with that. -/
theorem Keeps.andThen (order : Session.Preorder R) {act : SessionM α} {f : α → SessionM β}
    (hact : Keeps R act) (hf : ∀ x, Keeps R (f x)) : Keeps R (act >>= f) := by
  intro s
  have hs := hact s
  cases h : act s with
  | ok x t =>
    rw [after_ok h] at hs
    rw [after, bind_of_ok h]
    exact order.trans hs (hf x t)
  | error e t =>
    rw [after_error h] at hs
    rwa [after_error (bind_of_error h f)]

theorem Keeps.bind (law : Session.Law R) {act : SessionM α} {f : α → SessionM β}
    (hact : Keeps R act) (hf : ∀ x, Keeps R (f x)) : Keeps R (act >>= f) :=
  Keeps.andThen law.preorder hact hf

/-- Work something out from the session, and go on with it. -/
theorem Keeps.read (law : Session.Law R) {x : Session → Except Failure α} {f : α → SessionM β}
    (hf : ∀ y, Keeps R (f y)) :
    Keeps R (MonadState.get >>= fun s => SessionM.attempt (x s) >>= f : SessionM β) :=
  Keeps.bind law (Keeps.get law) fun s => Keeps.bind law (Keeps.attempt law (x s)) hf

theorem Keeps.discard (law : Session.Law R) {act : SessionM α} (h : Keeps R act) :
    Keeps R (Functor.discard act) :=
  Keeps.bind law h fun _ => Keeps.pure law ()

theorem after_observe (act : SessionM α) (s : Session) : (observe act).after s = act.after s := by
  unfold after SessionM.observe
  cases act s <;> rfl

theorem Keeps.observe {act : SessionM α} (h : Keeps R act) : Keeps R (observe act) := by
  intro s
  rw [after_observe]
  exact h s

theorem Keeps.forEachOf (order : Session.Preorder R) {act : α → SessionM Unit} {xs : List α}
    (h : ∀ x ∈ xs, Keeps R (act x)) : Keeps R (forEach act xs) := by
  induction xs with
  | nil => exact order.refl
  | cons x xs ih =>
    obtain ⟨hx, hxs⟩ := List.forall_mem_cons.1 h
    exact Keeps.andThen order hx fun _ => ih hxs

theorem Keeps.forEach (law : Session.Law R) {act : α → SessionM Unit} (h : ∀ x, Keeps R (act x))
    (xs : List α) : Keeps R (forEach act xs) :=
  Keeps.forEachOf law.preorder fun x _ => h x

theorem Keeps.collectOf (order : Session.Preorder R) {act : α → SessionM β} {xs : List α}
    (h : ∀ x ∈ xs, Keeps R (act x)) : Keeps R (collect act xs) := by
  induction xs with
  | nil => exact order.refl
  | cons x xs ih =>
    obtain ⟨hx, hxs⟩ := List.forall_mem_cons.1 h
    exact Keeps.andThen order hx fun _ => Keeps.andThen order (ih hxs) fun _ => order.refl

theorem Keeps.collect (law : Session.Law R) {act : α → SessionM β} (h : ∀ x, Keeps R (act x))
    (xs : List α) : Keeps R (collect act xs) :=
  Keeps.collectOf law.preorder fun x _ => h x

end SessionM

namespace Dataset

open SessionM

variable {R : Session → Session → Prop} {inner : Meaning}

/-- The reply is the next one that is ready, or that of an engine which holds nothing. -/
theorem takeReply_cases (s : Session) :
    (s.replies = [] ∧ takeReply s = .ok ⟨none, none⟩ s) ∨
      ∃ reply replies, s.replies = reply :: replies ∧
        takeReply s = .ok reply { s with replies } := by
  unfold takeReply
  rw [bind_get]
  cases s.replies with
  | nil => exact .inl ⟨rfl, rfl⟩
  | cons reply replies => exact .inr ⟨reply, replies, rfl, rfl⟩

theorem keeps_takeReply (law : Session.Law R) : Keeps R takeReply := by
  refine Keeps.bind law (Keeps.get law) fun s => ?_
  split
  · exact Keeps.pure law _
  · exact Keeps.bind law (Keeps.modify fun s => law.replies s _) fun _ => Keeps.pure law _

/-- Wait for the reply to a request that was made as the call at a position. -/
def await (inner : Meaning) (position : Nat) (request : Request) : SessionM Json := do
  let reply ← takeReply
  match reply.during with
  | some steps => do
    let outcomes ← collect (fun step => observe (inner step)) steps
    modify (Session.noteDuring position outcomes)
  | none => pure ()
  attempt (reply.outcome.getD (.ok request.emptyAnswer))

/-- A call is noted before it is waited for. -/
theorem call_eq (inner : Meaning) (request : Request) (s : Session) :
    call inner request s =
      await inner s.calls.length request { s with calls := s.calls ++ [⟨request, none⟩] } := rfl

theorem keeps_await (law : Session.Law R) (hinner : ∀ step, Keeps R (inner step))
    (position : Nat) (request : Request) : Keeps R (await inner position request) := by
  refine Keeps.bind law (keeps_takeReply law) fun reply => ?_
  have hanswer := Keeps.attempt law (reply.outcome.getD (.ok request.emptyAnswer))
  cases reply.during with
  | none => exact hanswer
  | some steps =>
    refine Keeps.bind law (Keeps.collect law (fun step => Keeps.observe (hinner step)) steps)
      fun outcomes => ?_
    exact Keeps.bind law (Keeps.modify fun s => law.noted s _ outcomes) fun _ => hanswer

theorem keeps_call (law : Session.Law R) (hinner : ∀ step, Keeps R (inner step))
    (request : Request) : Keeps R (call inner request) := by
  intro s
  rw [after, call_eq]
  exact law.trans (law.called s request) (keeps_await law hinner _ request _)

theorem keeps_search (law : Session.Law R) (hinner : ∀ step, Keeps R (inner step))
    (d : Dataset) (q : Query) : Keeps R (d.search inner q) := by
  refine Keeps.bind law (Keeps.attempt law _) fun body => ?_
  exact Keeps.bind law (keeps_call law hinner _) fun response => Keeps.attempt law _

theorem keeps_react (law : Session.Law R) (hinner : ∀ step, Keeps R (inner step)) {d : Dataset}
    (hquery : ∀ updates, Keeps R (d.query inner updates)) (event : Event) (observer : Observer) :
    Keeps R (d.react inner event observer) := by
  cases observer with
  | autoQuery =>
    rw [react]
    split
    · exact Keeps.discard law (hquery .null)
    · exact Keeps.pure law ()
  | listener name =>
    refine Keeps.bind law (Keeps.get law) fun s => ?_
    refine Keeps.bind law (Keeps.modify fun s => law.agendas s _) fun _ => ?_
    exact Keeps.forEach law (fun step => Keeps.discard law (hinner step)) _

theorem keeps_notify (law : Session.Law R) (hinner : ∀ step, Keeps R (inner step)) {d : Dataset}
    (hquery : ∀ updates, Keeps R (d.query inner updates)) (event : Event) :
    Keeps R (d.notify inner event) := by
  refine Keeps.bind law (Keeps.get law) fun s => ?_
  refine Keeps.bind law (Keeps.modify fun t => law.fired t _ event s.observers) fun _ => ?_
  refine Keeps.forEach law (fun observer => ?_) s.observers
  refine Keeps.bind law (Keeps.modify fun t => law.delivered t _ event observer) fun _ => ?_
  exact keeps_react law hinner hquery event observer

theorem keeps_edit (law : Session.Law R) (edit : Edit) : Keeps R (onQuery edit.perform) := by
  intro s
  have hlive := law.live s _ (.edited edit)
  unfold SessionM.after onQuery
  unfold Query.after at hlive
  cases h : edit.perform s.live.query with
  | ok x q =>
    rw [h] at hlive
    exact hlive
  | error e q =>
    rw [h] at hlive
    exact hlive

/-- What the steps inside it and queries keep, an edit keeps. -/
theorem keeps_enact (law : Session.Law R) (hinner : ∀ step, Keeps R (inner step)) {d : Dataset}
    (hquery : ∀ updates, Keeps R (d.query inner updates)) (edit : Edit) :
    Keeps R (d.enact inner edit.perform) := by
  refine Keeps.bind law (keeps_edit law edit) fun outcome => ?_
  refine Keeps.bind law ?_ fun _ => Keeps.pure law _
  cases outcome.announced with
  | none => exact Keeps.pure law ()
  | some event => exact keeps_notify law hinner hquery event

theorem keeps_answer (law : Session.Law R) (filter : Option Filter) : Keeps R (answer filter) := by
  cases filter with
  | none => exact Keeps.pure law _
  | some f => exact Keeps.attempt law _

theorem keeps_filterAt (law : Session.Law R) (position : Json) : Keeps R (filterAt position) :=
  Keeps.bind law (Keeps.get law) fun _ => Keeps.attempt law _

theorem keeps_fetchFields (law : Session.Law R) (hinner : ∀ step, Keeps R (inner step)) :
    Keeps R (fetchFields inner) :=
  Keeps.bind law (keeps_call law hinner _) fun _ => Keeps.attempt law _

theorem keeps_summarizeFields (law : Session.Law R) (hinner : ∀ step, Keeps R (inner step))
    (d : Dataset) (fields : Json) : Keeps R (d.summarizeFields inner fields) := by
  refine Keeps.bind law (Keeps.attempt law _) fun q => ?_
  exact Keeps.bind law (keeps_search law hinner d q) fun result => Keeps.pure law _

theorem keeps_getRecord (law : Session.Law R) (hinner : ∀ step, Keeps R (inner step)) (id : Json) :
    Keeps R (getRecord inner id) :=
  Keeps.bind law (keeps_call law hinner _) fun _ => Keeps.attempt law _

/-- What the steps inside it and queries keep, a step keeps. -/
theorem keeps_take (law : Session.Law R) (hinner : ∀ step, Keeps R (inner step)) {d : Dataset}
    (hquery : ∀ updates, Keeps R (d.query inner updates)) (step : Step) :
    Keeps R (d.take inner step) := by
  have hcall (request : Request) := keeps_call law hinner request
  have henact (edit : Edit) :=
    Keeps.bind law (keeps_enact law hinner hquery edit) fun filter => keeps_answer law filter
  cases step with
  | mutate m => exact henact (.mutation m)
  | addAgain position =>
    exact Keeps.bind law (keeps_filterAt law position) fun f => henact (.addFilter f false)
  | replaceAgain position =>
    exact Keeps.bind law (keeps_filterAt law position) fun f => henact (.replaceFilter f)
  | selectedFilter field => exact Keeps.bind law (Keeps.get law) fun s => Keeps.attempt law _
  | assign name value =>
    rw [take]
    split
    · refine Keeps.bind law (Keeps.modify fun s => ?_) fun _ => Keeps.pure law _
      exact law.live s _ (.assigned _ value)
    · exact Keeps.throw law _
  | subscribe name scripts =>
    refine Keeps.bind law (Keeps.modify fun s => ?_) fun _ => Keeps.pure law _
    exact law.trans (law.mention name scripts s) (law.register _ _)
  | unsubscribe name =>
    refine Keeps.bind law (Keeps.modify fun s => ?_) fun _ => Keeps.pure law _
    exact law.trans (law.mention name [] s) (law.observers _ _)
  | hasClauses => exact Keeps.bind law (Keeps.get law) fun s => Keeps.pure law _
  | compile =>
    exact Keeps.read law fun body => Keeps.pure law _
  | mapResponse response =>
    exact Keeps.read law fun result => Keeps.attempt law _
  | snapshot => exact Keeps.read law fun q => Keeps.attempt law _
  | query updates => exact Keeps.bind law (hquery updates) fun result => Keeps.attempt law _
  | fetchFields =>
    exact Keeps.bind law (keeps_fetchFields law hinner) fun fields => Keeps.attempt law _
  | summarizeFields fields =>
    exact Keeps.bind law (keeps_summarizeFields law hinner d fields) fun facets =>
      Keeps.attempt law _
  | getRecord id =>
    exact Keeps.bind law (keeps_getRecord law hinner id) fun ms => Keeps.pure law _
  | upsertRecord record => exact Keeps.bind law (Keeps.attempt law _) fun id => hcall _
  | updateRecord record id => exact hcall _
  | removeRecord id => exact hcall _
  | close =>
    exact Keeps.bind law (Keeps.modify fun s => law.observers s _) fun _ => Keeps.pure law _
  | fail failure => exact Keeps.throw law failure

/-- **What small changes and queries keep, every step keeps**, however deep the steps nest. -/
theorem run_keeps (law : Session.Law R) (d : Dataset)
    (hquery : ∀ inner : Meaning, (∀ step, Keeps R (inner step)) →
      ∀ updates, Keeps R (d.query inner updates)) (depth : Nat) :
    ∀ step, Keeps R (d.run depth step) := by
  induction depth with
  | zero => exact fun step => Keeps.throw law .nestedTooDeeply
  | succ depth ih => exact fun step => keeps_take law ih (hquery _ ih) step

/-- A turn is a step for which replies are ready. -/
theorem turn_after (d : Dataset) (depth : Nat) (s : Session) (t : Turn) :
    (d.turn depth s t).after = (d.run depth t.step).after { s with replies := t.replies } := by
  unfold turn SessionM.after
  dsimp only
  cases d.run depth t.step { s with replies := t.replies } <;> rfl

/-- The session that some turns lead to. -/
def through (d : Dataset) (depth : Nat) (s : Session) (turns : List Turn) : Session :=
  turns.foldl (fun s t => (d.turn depth s t).after) s

theorem playFrom_append (d : Dataset) (depth : Nat) (s : Session) (before after : List Turn) :
    d.playFrom depth s (before ++ after) =
      d.playFrom depth s before ++ d.playFrom depth (d.through depth s before) after := by
  induction before generalizing s with
  | nil => rfl
  | cons t before ih => exact congrArg _ (ih (d.turn depth s t).after)

theorem length_playFrom (d : Dataset) (depth : Nat) (s : Session) (turns : List Turn) :
    (d.playFrom depth s turns).length = turns.length := by
  induction turns generalizing s with
  | nil => rfl
  | cons t turns ih => exact congrArg (· + 1) (ih (d.turn depth s t).after)

end Dataset

end FacetedSearch
