import FacetedSearch.Http.Service
import FacetedSearch.Proofs.Dataset.SelfObserved
import FacetedSearch.Proofs.Http.Paths
import FacetedSearch.Proofs.Search.Failing

/-!
# Compiling and querying

A query can be sent to be compiled or to be carried out.  Compiling shows what would be searched for
and leaves the engine alone.  Carrying out takes another way, through a session and a checked copy
of the query, and comes to the same search, or to the same refusal before the engine is asked at
all.

* `Json.presented_of_isWritable` — what JSON text can hold is shown as it is.
* `Response.send_eq_ok_iff` — what can be sent is sent as it is.
* `Failure.isOwn`, `Response.isError_ofFailure` — a failure has the status of an error, unless
  whoever reports it describes it in full.
* `Body.IsShown`, `Body.IsRefused` — bodies that compile to what can be shown, and bodies that do
  not compile.
* `Command.carryOut_query_requests`, `Command.carryOut_query_refused` — what comes of a query.
* `Service.respond_of_method`, `Service.respond_of_refused`, `Service.respond_of_read` — what the
  service does, by what is asked.
* `Service.compile_and_query_agree` — compiling and querying the same body.
* `Application.handle_below` — what is posted below an index is left to the service.
-/

set_option autoImplicit false

namespace FacetedSearch

/-! ## Values as they are shown -/

namespace Json

mutual

/-- What JSON text can hold is shown as it is. -/
theorem presented_of_isWritable : ∀ {x : Json}, x.isWritable → x.presented = x
  | null, _ => rfl
  | bool _, _ => rfl
  | int _, _ => rfl
  | float _, h => if_pos h
  | str _, _ => rfl
  | arr _, h => congrArg arr (presentedItems_of_areWritable h)
  | obj _, h => congrArg obj (presentedMembers_of_areWritable h)

theorem presentedItems_of_areWritable : ∀ {xs : List Json}, areWritable xs → presentedItems xs = xs
  | [], _ => rfl
  | x :: xs, h => by
    obtain ⟨hx, hxs⟩ := Bool.and_eq_true_iff.1 h
    rw [presentedItems, presented_of_isWritable hx, presentedItems_of_areWritable hxs]

theorem presentedMembers_of_areWritable :
    ∀ {ms : List (String × Json)}, membersAreWritable ms → presentedMembers ms = ms
  | [], _ => rfl
  | (key, x) :: ms, h => by
    obtain ⟨hx, hms⟩ := Bool.and_eq_true_iff.1 h
    rw [presentedMembers, presented_of_isWritable hx, presentedMembers_of_areWritable hms]

end

end Json

/-! ## Failures that are no success -/

/-- A failure whose status is told by its kind, and not by whoever reports it. -/
def Failure.isOwn : Failure → Bool
  | described _ _ _ _ => false
  | _ => true

theorem Checked.isOwn_of_orFail {α : Type} {x : Checked α} {failure : Failure}
    (h : x.orFail = .error failure) : failure.isOwn := by
  cases x <;> cases h
  rfl

namespace Query

theorem isOwn_of_checkFilters {ms : Members} {failure : Failure}
    (h : checkFilters ms = .error failure) : failure.isOwn := by
  obtain ⟨_, rfl⟩ | ⟨_, rfl⟩ := of_checkFilters_eq_error h
  · rfl
  · rfl

/-- A value that is not read as a query is refused with a failure of its own. -/
theorem isOwn_of_read {size : Int} {shape : Validation.Rule} {x : Json} {failure : Failure}
    (h : read size shape x = .error failure) : failure.isOwn := by
  cases x with
  | obj ms =>
    rcases bind_eq_error_iff.1 h with hfilters | ⟨_, -, hmembers⟩
    · exact isOwn_of_checkFilters hfilters
    · exact Checked.isOwn_of_orFail hmembers
  | null | bool | int | float | str | arr =>
    cases h
    rfl

theorem isOwn_of_searchBody {s : Settings} {q : Query} {failure : Failure}
    (h : q.searchBody s = .error failure) : failure.isOwn := by
  rcases searchBody_eq_error_iff.1 h with ⟨_, f, _, -, -, -, rfl⟩ | ⟨-, -, rfl⟩
  · rfl
  · rfl

end Query

namespace Http

namespace Response

/-- The status is that of an error. -/
def IsError (response : Response) : Prop := ∃ n : Int, 400 ≤ n ∧ response.status = .int n

theorem IsError.status_ne {response : Response} (h : response.IsError) :
    response.status ≠ .int 200 := by
  obtain ⟨n, hn, hstatus⟩ := h
  rw [hstatus, ne_eq, Json.int.injEq]
  omega

/-- A value is sent as it is, with a status that is a number. -/
theorem send_eq_ok_iff {status body : Json} {response : Response} :
    send status body = .ok response ↔
      (body.isWritable ∧ body.isPrintable) ∧ body.isWellFormed ∧ isStatus status ∧
        response = ⟨status, body⟩ := by
  unfold send
  cases body.isWritable <;> cases body.isPrintable <;> cases body.isWellFormed <;>
    cases isStatus status <;> simp [eq_comm]

theorem status_ofEnvelope (e : Envelope) :
    (orUnexpected (ofEnvelope e)).status = e.status ∨
      (orUnexpected (ofEnvelope e)).status = .int 500 := by
  cases h : ofEnvelope e with
  | error failure => exact .inr rfl
  | ok response =>
    obtain ⟨-, -, -, rfl⟩ := send_eq_ok_iff.1 h
    exact .inl rfl

theorem status_envelope? {failure : Failure} (h : failure.isOwn) {e : Envelope}
    (he : failure.envelope? = .ok (some e)) : ∃ n : Int, 400 ≤ n ∧ e.status = .int n := by
  cases failure with
  | described => cases h
  | unsupportedFilterKind =>
    cases he
    exact ⟨400, by decide, rfl⟩
  | missingDateFormat | recordNotFound =>
    obtain ⟨_, -, he⟩ := bind_eq_ok_iff.1 he
    obtain ⟨_, -, he⟩ := bind_eq_ok_iff.1 he
    cases he
    exact ⟨_, by decide, rfl⟩
  | aggregationKeyCollision | queryFailed | engineFailed =>
    obtain ⟨_, -, he⟩ := bind_eq_ok_iff.1 he
    cases he
    exact ⟨_, by decide, rfl⟩
  | invalid | unknownSpecification | fault | unserializable | undecodable | unencodable
    | nestedTooDeeply => cases he

/-- A failure of its own is told with the status of an error. -/
theorem isError_ofFailure {failure : Failure} (h : failure.isOwn) :
    (ofFailure failure).IsError := by
  unfold ofFailure
  split
  · next e he =>
    obtain ⟨n, hn, hstatus⟩ := status_envelope? h he
    rcases status_ofEnvelope e with hsent | hsent
    · exact ⟨n, hn, hsent.trans hstatus⟩
    · exact ⟨500, by decide, hsent⟩
  · exact ⟨500, by decide, rfl⟩
  · exact ⟨500, by decide, rfl⟩

/-- A failure of its own has another status than success. -/
theorem status_ofFailure {failure : Failure} (h : failure.isOwn) :
    (ofFailure failure).status ≠ .int 200 := (isError_ofFailure h).status_ne

theorem status_ofCauses (causes : List Validation.Cause) :
    (ofCauses causes).status ≠ .int 200 := by
  unfold ofCauses
  dsimp only
  split <;> nofun

/-- A request has succeeded when something came of it whose texts can all be sent. -/
theorem status_ofOutcome_iff {outcome : Except Failure Json}
    (hown : ∀ failure, outcome = .error failure → failure.isOwn) :
    (ofOutcome outcome).status = .int 200 ↔ ∃ x, outcome = .ok x ∧ x.isWellFormed := by
  cases outcome with
  | error failure =>
    refine ⟨fun h => absurd h (status_ofFailure (hown failure rfl)), ?_⟩
    rintro ⟨x, hx, -⟩
    cases hx
  | ok x =>
    unfold ofOutcome
    dsimp only
    constructor
    · intro h
      split at h
      · next hform => exact ⟨x, rfl, hform⟩
      · cases h
    · rintro ⟨_, hx, hform⟩
      cases hx
      rw [if_pos hform]
      rfl

theorem body_ofOutcome {x : Json} (h : x.isWellFormed) :
    (ofOutcome (.ok x)).body = x.presented := by
  unfold ofOutcome
  dsimp only
  rw [if_pos h]
  rfl

end Response

/-- A refusal for a failure of its own, or because nothing can be read. -/
def Refusal.isOwn : Refusal → Bool
  | .unreadable => true
  | .failure cause => cause.isOwn

theorem Response.status_ofRefusal {refusal : Refusal} (h : refusal.isOwn) :
    (ofRefusal refusal).status ≠ .int 200 := by
  unfold ofRefusal
  split
  · nofun
  · exact status_ofCauses _
  · exact status_ofFailure h

namespace Body

theorem isOwn_place (failure : Failure) : (place failure).isOwn = failure.isOwn := by
  cases failure <;> rfl

/-- A body is read when it holds a value that is. -/
theorem read_eq_ok_iff {α : Type} {reader : Json → Except Failure α} {body : Body} {y : α} :
    body.read reader = .ok y ↔ ∃ x, body = value x ∧ reader x = .ok y := by
  cases body with
  | value x =>
    show (reader x).mapError (Refusal.failure ∘ place) = .ok y ↔ _
    cases hx : reader x <;> simp [Except.mapError, hx]
  | absent | unreadable | malformed | octets => exact ⟨nofun, nofun⟩

theorem isOwn_of_read {α : Type} {reader : Json → Except Failure α}
    (hreader : ∀ x failure, reader x = .error failure → failure.isOwn) {body : Body}
    {refusal : Refusal} (h : body.read reader = .error refusal) : refusal.isOwn := by
  cases body with
  | value x =>
    have hx : (reader x).mapError (Refusal.failure ∘ place) = .error refusal := h
    cases hfailure : reader x with
    | ok y =>
      rw [hfailure] at hx
      cases hx
    | error failure =>
      rw [hfailure] at hx
      cases hx
      exact (isOwn_place failure).trans (hreader x failure hfailure)
  | absent | unreadable | malformed | octets =>
    cases h
    rfl

/-- The query that a body holds. -/
def query (s : Settings) (body : Body) : Except Refusal Query :=
  body.read (Query.read s.defaultSize .modelAttributesType)

theorem valid_of_query {s : Settings} (hs : 0 ≤ s.defaultSize) {body : Body} {q : Query}
    (h : body.query s = .ok q) : q.Valid := by
  obtain ⟨x, -, hx⟩ := read_eq_ok_iff.1 h
  exact Query.valid_of_read hs hx

/-- A body is refused when it holds no query, or one that does not compile. -/
def IsRefused (s : Settings) (body : Body) : Prop :=
  (∃ refusal, body.query s = .error refusal) ∨
    ∃ q failure, body.query s = .ok q ∧ q.searchBody s = .error failure

/-- A body holds a query that compiles to what can be shown: it does not nest too deeply, and its
texts can be sent. -/
def IsShown (s : Settings) (body : Body) : Prop :=
  ∃ q compiled, body.query s = .ok q ∧ q.searchBody s = .ok compiled ∧
    compiled.toJson.parts.all Json.isShallow ∧ compiled.toJson.isWellFormed

theorem IsShown.not_isRefused {s : Settings} {body : Body} (h : body.IsShown s) :
    ¬ body.IsRefused s := by
  obtain ⟨q, compiled, hq, hcompiled, -⟩ := h
  rintro (⟨refusal, hrefusal⟩ | ⟨q', failure, hq', hfailure⟩)
  · cases hq.symm.trans hrefusal
  · cases hq.symm.trans hq'
    cases hcompiled.symm.trans hfailure

end Body

end Http

/-! ## Compiling and querying -/

namespace Http

namespace Command

open SessionM

/-- The session in which a request is carried out. -/
def opening (s : Settings) (command : Command) (outcomes : List (Option (Except Failure Json))) :
    Session :=
  { Session.start (.ofQuery (command.startingQuery s)) false with
    replies := outcomes.map fun outcome => Reply.mk none outcome }

variable {s : Settings} {command : Command} {outcomes : List (Option (Except Failure Json))}
  {t : Session}

theorem carryOut_of_ok {x : Json}
    (h : command.perform s (Dataset.run ⟨command.index, s⟩ 0) (command.opening s outcomes) =
      .ok x t) :
    command.carryOut s outcomes = (Response.ofOutcome (.ok x), t.calls) := by
  unfold carryOut
  unfold opening at h
  dsimp only
  rw [h]

theorem carryOut_of_error {failure : Failure}
    (h : command.perform s (Dataset.run ⟨command.index, s⟩ 0) (command.opening s outcomes) =
      .error failure t) :
    command.carryOut s outcomes = (Response.ofOutcome (.error failure), t.calls) := by
  unfold carryOut
  unfold opening at h
  dsimp only
  rw [h]

theorem carryOut_calls (s : Settings) (command : Command)
    (outcomes : List (Option (Except Failure Json))) :
    (command.carryOut s outcomes).2 =
      ((command.perform s (Dataset.run ⟨command.index, s⟩ 0)).after
        (command.opening s outcomes)).calls := by
  cases h : command.perform s (Dataset.run ⟨command.index, s⟩ 0) (command.opening s outcomes) with
  | ok x t => rw [carryOut_of_ok h, after_ok h]
  | error failure t => rw [carryOut_of_error h, after_error h]

/-- What compiling a query shows. -/
def compiled (s : Settings) (q : Query) : Except Failure Json := do
  let body ← q.searchBody s
  serializable body.toJson.parts body.toJson

/-- To compile a query is to look at it, and no more. -/
theorem carryOut_compile (s : Settings) (q : Query)
    (outcomes : List (Option (Except Failure Json))) :
    (compile q).carryOut s outcomes = (Response.ofOutcome (compiled s q), []) := by
  have hperform (inner : Dataset.Meaning) (t : Session) :
      (compile q).perform s inner t = attempt (compiled s q) t := by
    refine (bind_attempt (q.searchBody s) _ t).trans ?_
    unfold compiled
    cases q.searchBody s <;> rfl
  have hopened := hperform (Dataset.run ⟨(compile q).index, s⟩ 0) ((compile q).opening s outcomes)
  cases h : compiled s q with
  | ok x =>
    rw [h] at hopened
    exact carryOut_of_ok hopened
  | error failure =>
    rw [h] at hopened
    exact carryOut_of_error hopened

theorem isOwn_of_compiled {q : Query} {failure : Failure}
    (h : compiled s q = .error failure) : failure.isOwn := by
  rcases bind_eq_error_iff.1 h with hbody | ⟨body, -, hshown⟩
  · exact Query.isOwn_of_searchBody hbody
  · unfold serializable at hshown
    split at hshown <;> cases hshown
    rfl

theorem compiled_eq_ok_iff {q : Query} {x : Json} :
    compiled s q = .ok x ↔
      ∃ body, q.searchBody s = .ok body ∧ body.toJson.parts.all Json.isShallow ∧
        x = body.toJson := by
  unfold compiled
  rw [bind_eq_ok_iff]
  refine exists_congr fun body => and_congr_right fun _ => ?_
  unfold serializable
  split
  · next hshallow =>
    rw [Except.ok.injEq, eq_comm]
    exact (and_iff_right hshallow).symm
  · next hdeep => exact ⟨nofun, fun h => absurd h.1 hdeep⟩

theorem opening_selfObserved (s : Settings) (index : String) {q : Query} (hq : q.Valid)
    (outcomes : List (Option (Except Failure Json))) :
    ((query index q).opening s outcomes).SelfObserved :=
  ⟨rfl, hq, .inr rfl⟩

/-- A query that compiles is searched for once. -/
theorem carryOut_query_requests (s : Settings) (index : String) {q : Query} (hq : q.Valid)
    {body : SearchBody} (hbody : q.searchBody s = .ok body)
    (outcomes : List (Option (Except Failure Json))) :
    ((query index q).carryOut s outcomes).2.map Call.request = [.search body.toJson] := by
  let d : Dataset := ⟨index, s⟩
  let opened := (query index q).opening s outcomes
  have hself : opened.SelfObserved := opening_selfObserved s index hq outcomes
  have hreplies : ∀ reply ∈ opened.replies, reply.Looks := by
    intro reply hreply
    obtain ⟨outcome, -, rfl⟩ := List.mem_map.1 hreply
    exact nofun
  have hdue : d.searchesFor opened.live = [.search body.toJson] := by
    have hopened : opened.live.query.searchBody d.settings = .ok body := hbody
    rw [d.searchesFor_eq hself.fit, hopened]
  have hpassed : opened.Passed ((d.query (d.run 0) .null).after opened) []
      (d.searchesFor opened.live) :=
    d.passed_query (fun _ _ _ => rfl) opened hself hreplies
  have hafter : ((query index q).perform s (d.run 0)).after opened =
      (d.query (d.run 0) .null).after opened := after_bind_attempt _ _ opened
  rw [hdue, ← hafter] at hpassed
  rw [carryOut_calls]
  exact hpassed.requests

/-- A query that does not compile is refused for the reason for which compiling it is. -/
theorem carryOut_query_refused (s : Settings) (index : String) {q : Query} (hq : q.Valid)
    {failure : Failure} (hbody : q.searchBody s = .error failure)
    (outcomes : List (Option (Except Failure Json))) :
    (query index q).carryOut s outcomes = (Response.ofOutcome (.error failure), []) := by
  let d : Dataset := ⟨index, s⟩
  have hself := opening_selfObserved s index hq outcomes
  have hlive :
      ((query index q).opening s outcomes).live.searchBody d.settings = .error failure := by
    rw [LiveQuery.searchBody_of_fit s hself.fit]
    exact hbody
  have hfails : d.query (d.run 0) .null _ = _ := Dataset.query_of_selfObserved_fails hself hlive
  have hperform : (query index q).perform s (d.run 0) ((query index q).opening s outcomes) =
      .error failure _ := bind_of_error hfails _
  exact carryOut_of_error hperform

end Command

/-- A body that is posted below an index. -/
def Request.below (index name : String) (body : Body) : Request :=
  ⟨"POST", Route.below index name, [], body⟩

namespace Service

section

variable {s : Settings} {r : Request} {route : Route}
  {outcomes : List (Option (Except Failure Json))}

/-- A body that is refused is told why. -/
theorem respond_of_refused {refusal : Refusal} (hroute : Route.ofPath? r.path = some route)
    (hmethod : r.method ∈ route.methods)
    (hread : Command.read s route r.method r.body = .error refusal) :
    respond s r outcomes = ⟨.ofRefusal refusal, "", []⟩ := by
  unfold respond
  rw [hroute]
  dsimp only
  rw [if_pos (List.contains_iff_mem.2 hmethod), hread]

/-- What is asked for is carried out. -/
theorem respond_of_read {command : Command} (hroute : Route.ofPath? r.path = some route)
    (hmethod : r.method ∈ route.methods)
    (hread : Command.read s route r.method r.body = .ok command) :
    respond s r outcomes =
      ⟨(command.carryOut s outcomes).1, command.index, (command.carryOut s outcomes).2⟩ := by
  unfold respond
  rw [hroute]
  dsimp only
  rw [if_pos (List.contains_iff_mem.2 hmethod), hread]

end

variable {s : Settings} {index : String} {body : Body}

theorem respond_compile (s : Settings) (hindex : Route.IsName index) (body : Body)
    (outcomes : List (Option (Except Failure Json))) :
    respond s (.below index "compile" body) outcomes =
      match body.query s with
      | .error refusal => ⟨.ofRefusal refusal, "", []⟩
      | .ok q => ⟨.ofOutcome (Command.compiled s q), "", []⟩ := by
  have hroute : Route.ofPath? (Route.below index "compile") = some (.compile index) :=
    Route.ofPath?_below hindex (by decide)
  have hread : Command.read s (.compile index) "POST" body =
      (body.query s).map Command.compile := rfl
  cases hquery : body.query s with
  | error refusal =>
    rw [hquery] at hread
    exact respond_of_refused hroute List.mem_cons_self hread
  | ok q =>
    rw [hquery] at hread
    have hresponse : respond s (.below index "compile" body) outcomes =
        ⟨((Command.compile q).carryOut s outcomes).1, "",
          ((Command.compile q).carryOut s outcomes).2⟩ :=
      respond_of_read hroute List.mem_cons_self hread
    rw [hresponse, Command.carryOut_compile]

theorem respond_query (s : Settings) (hindex : Route.IsName index) (body : Body)
    (outcomes : List (Option (Except Failure Json))) :
    respond s (.below index "query" body) outcomes =
      match body.query s with
      | .error refusal => ⟨.ofRefusal refusal, "", []⟩
      | .ok q =>
        ⟨((Command.query index q).carryOut s outcomes).1, index,
          ((Command.query index q).carryOut s outcomes).2⟩ := by
  have hroute : Route.ofPath? (Route.below index "query") = some (.query index) :=
    Route.ofPath?_below hindex (by decide)
  have hread : Command.read s (.query index) "POST" body =
      (body.query s).map (Command.query index) := rfl
  cases hquery : body.query s with
  | error refusal =>
    rw [hquery] at hread
    exact respond_of_refused hroute List.mem_cons_self hread
  | ok q =>
    rw [hquery] at hread
    exact respond_of_read hroute List.mem_cons_self hread

/-- A path that leads to neither is refused alike. -/
theorem respond_elsewhere (s : Settings) (hindex : ¬ Route.IsName index) (body : Body)
    (outcomes outcomes' : List (Option (Except Failure Json))) :
    ∃ response, response.status ≠ .int 200 ∧
      respond s (.below index "compile" body) outcomes = ⟨response, "", []⟩ ∧
      respond s (.below index "query" body) outcomes' = ⟨response, "", []⟩ := by
  unfold respond Request.below
  dsimp only
  rcases Route.ofPath?_below_elsewhere hindex with ⟨hcompile, hquery⟩ | ⟨i, hcompile, hquery⟩
  · rw [hcompile, hquery]
    exact ⟨Response.notFound, nofun, rfl, rfl⟩
  · rw [hcompile, hquery]
    exact ⟨Response.methodNotAllowed, nofun, rfl, rfl⟩

/-- Compiling never asks the engine for anything. -/
theorem compile_calls (s : Settings) (index : String) (body : Body)
    (outcomes : List (Option (Except Failure Json))) :
    (respond s (.below index "compile" body) outcomes).calls = [] := by
  by_cases hindex : Route.IsName index
  · rw [respond_compile s hindex]
    cases body.query s <;> rfl
  · obtain ⟨response, -, hcompiled, -⟩ := respond_elsewhere s hindex body outcomes outcomes
    rw [hcompiled]

/-- Compiling succeeds below a name, with a body that can be shown when it is compiled. -/
theorem compile_succeeds_iff (s : Settings) (index : String) (body : Body)
    (outcomes : List (Option (Except Failure Json))) :
    (respond s (.below index "compile" body) outcomes).response.status = .int 200 ↔
      Route.IsName index ∧ body.IsShown s := by
  by_cases hindex : Route.IsName index
  · rw [respond_compile s hindex, and_iff_right hindex]
    unfold Body.IsShown
    cases hbody : body.query s with
    | error refusal =>
      have hstatus : (Response.ofRefusal refusal).status ≠ .int 200 :=
        Response.status_ofRefusal (Body.isOwn_of_read (fun _ _ h => Query.isOwn_of_read h) hbody)
      refine ⟨fun h => absurd h hstatus, ?_⟩
      rintro ⟨q, compiled, hq, -⟩
      cases hq
    | ok q =>
      show (Response.ofOutcome (Command.compiled s q)).status = _ ↔ _
      rw [Response.status_ofOutcome_iff fun _ => Command.isOwn_of_compiled]
      constructor
      · rintro ⟨x, hx, hform⟩
        obtain ⟨compiled, hcompiled, hshallow, rfl⟩ := Command.compiled_eq_ok_iff.1 hx
        exact ⟨q, compiled, rfl, hcompiled, hshallow, hform⟩
      · rintro ⟨_, compiled, hq, hcompiled, hshallow, hform⟩
        cases hq
        exact ⟨_, Command.compiled_eq_ok_iff.2 ⟨compiled, hcompiled, hshallow, rfl⟩, hform⟩
  · obtain ⟨response, hstatus, hcompiled, -⟩ := respond_elsewhere s hindex body outcomes outcomes
    rw [hcompiled]
    exact ⟨fun h => absurd h hstatus, fun h => absurd h.1 hindex⟩

/-- What is refused is refused alike, before the engine is asked. -/
theorem refused_alike (hs : 0 ≤ s.defaultSize) (index : String) (hbody : body.IsRefused s)
    (outcomes outcomes' : List (Option (Except Failure Json))) :
    (respond s (.below index "compile" body) outcomes).response =
        (respond s (.below index "query" body) outcomes').response ∧
      (respond s (.below index "query" body) outcomes').calls = [] := by
  by_cases hindex : Route.IsName index
  · rw [respond_compile s hindex, respond_query s hindex]
    rcases hbody with ⟨refusal, hrefusal⟩ | ⟨q, failure, hq, hfailure⟩
    · rw [hrefusal]
      exact ⟨rfl, rfl⟩
    · have hcompiled : Command.compiled s q = .error failure := by
        unfold Command.compiled
        rw [hfailure]
        rfl
      rw [hq]
      dsimp only
      rw [Command.carryOut_query_refused s index (Body.valid_of_query hs hq) hfailure, hcompiled]
      exact ⟨rfl, rfl⟩
  · obtain ⟨response, -, hcompiled, hqueried⟩ :=
      respond_elsewhere s hindex body outcomes outcomes'
    rw [hcompiled, hqueried]
    exact ⟨rfl, rfl⟩

/-- **Compiling and querying agree.**  Compiling a body never asks the engine for anything, and
succeeds when the index has a name and the body holds a query that compiles to what can be shown.
Then querying with the same body asks the engine once, for the index, to search for what was shown:
the body that is sent and the body that is shown differ in nothing but that numbers which JSON text
cannot hold are shown as null, and are one when there are none.  When the body is refused, or does
not compile, both are answered alike, with another status than success, and the engine is not
asked. -/
theorem compile_and_query_agree (hs : 0 ≤ s.defaultSize) (index : String) (body : Body)
    (outcomes outcomes' : List (Option (Except Failure Json))) :
    let compiled := respond s (.below index "compile" body) outcomes
    let queried := respond s (.below index "query" body) outcomes'
    compiled.calls = [] ∧
    (compiled.response.status = .int 200 ↔ Route.IsName index ∧ body.IsShown s) ∧
    (compiled.response.status = .int 200 →
      ∃ sent, compiled.response.body = sent.presented ∧
        (sent.isWritable → compiled.response.body = sent) ∧
        queried.index = index ∧ queried.calls.map Call.request = [.search sent]) ∧
    (body.IsRefused s →
      compiled.response = queried.response ∧ compiled.response.status ≠ .int 200 ∧
        queried.calls = []) := by
  intro compiled queried
  have hsucceeds := compile_succeeds_iff s index body outcomes
  refine ⟨compile_calls s index body outcomes, hsucceeds, fun h => ?_, fun hrefused => ?_⟩
  · obtain ⟨hindex, q, sent, hbody, hsent, hshallow, hform⟩ := hsucceeds.1 h
    have hcompiled : Command.compiled s q = .ok sent.toJson :=
      Command.compiled_eq_ok_iff.2 ⟨sent, hsent, hshallow, rfl⟩
    have hshown : compiled.response.body = sent.toJson.presented := by
      simp only [compiled, respond_compile s hindex, hbody, hcompiled]
      exact Response.body_ofOutcome hform
    have hqueried : queried = _ := respond_query s hindex body outcomes'
    rw [hbody] at hqueried
    rw [hqueried]
    refine ⟨sent.toJson, hshown, fun hwritable => ?_, rfl, ?_⟩
    · rw [hshown, Json.presented_of_isWritable hwritable]
    · exact Command.carryOut_query_requests s index (Body.valid_of_query hs hbody) hsent outcomes'
  · obtain ⟨halike, hcalls⟩ := refused_alike hs index hrefused outcomes outcomes'
    exact ⟨halike, fun h => (hsucceeds.1 h).2.not_isRefused hrefused, hcalls⟩

/-- A filter by color, and a filter of a kind that is not known. -/
theorem compile_and_query_agree_colored :
    let s := Settings.standard
    let colored := Body.value (.obj [("filters", .arr [.obj [("type", .str "term"),
      ("field", .str "color"), ("term", .str "red")]])])
    let spatial := Body.value (.obj [("filters", .arr [.obj [("type", .str "spatial")]])])
    let compiled (body : Body) := respond s (.below "products" "compile" body) []
    let queried (body : Body) := respond s (.below "products" "query" body) []
    0 ≤ s.defaultSize ∧
      ((compiled colored).response.status = .int 200 ∧
        ∃ sent, (compiled colored).response.body = sent.presented ∧
          (queried colored).index = "products" ∧
          (queried colored).calls.map Call.request = [.search sent]) ∧
      (spatial.IsRefused s ∧ (compiled spatial).response = (queried spatial).response ∧
        (queried spatial).calls = []) := by
  intro s colored spatial compiled queried
  have hs : 0 ≤ s.defaultSize := by decide
  have hstatus : (compiled colored).response.status = .int 200 := by decide +kernel
  have hrefused : spatial.IsRefused s :=
    .inl ⟨.failure (.unsupportedFilterKind "spatial"), by decide +kernel⟩
  obtain ⟨sent, hshown, -, hindex, hcalls⟩ :=
    (compile_and_query_agree hs "products" colored [] []).2.2.1 hstatus
  obtain ⟨halike, -, hnone⟩ := (compile_and_query_agree hs "products" spatial [] []).2.2.2 hrefused
  exact ⟨hs, ⟨hstatus, sent, hshown, hindex, hcalls⟩, hrefused, halike, hnone⟩

/-- A number that is too large to be finite can be given, is searched for, and is shown as null. -/
theorem compile_shows_null_for_infinity :
    let s := Settings.standard
    let body := Body.ofText ("\x7b\"filters\":[\x7b\"type\":\"term\",\"field\":\"price\"," ++
      "\"term\":1e999\x7d]\x7d")
    let compiled := respond s (.below "products" "compile" body) []
    let queried := respond s (.below "products" "query" body) []
    0 ≤ s.defaultSize ∧ compiled.response.status = .int 200 ∧
      queried.calls.map Call.request ≠ [.search compiled.response.body] := by
  decide +kernel

end Service

/-- **What is posted below an index is left to the service**: no page, no other path and no question
of a browser comes between. -/
theorem Application.handle_below (s : Settings) (index : String) {name : String} (hne : name ≠ "")
    (hname : '/' ∉ name.toList) (body : Body) (outcomes : List (Option (Except Failure Json))) :
    handle s (.below index name body) outcomes =
      .ofExchange (Service.respond s (.below index name body) outcomes) := by
  have hplain : (Request.below index name body).preflight? = none := rfl
  have hpath := Destination.ofPath?_below index name
  have hinstead := Destination.instead?_below index hne hname
  unfold handle
  rw [hplain]
  unfold Service.respond Request.below
  dsimp only
  rw [hpath, hinstead]
  cases Route.ofPath? (Route.below index name) <;> rfl

end Http

end FacetedSearch
