import FacetedSearch.Proofs.Dataset.Isolation
import FacetedSearch.Proofs.Dataset.Storage
import FacetedSearch.Proofs.Result.Mapping

/-!
# Summaries of fields

How the values of some fields are spread is asked of the whole index, with one search that finds
every record and returns none.  The live query of the session has no part in it, and nothing in the
session changes, whether the search succeeds or not.

* `Dataset.summaryBody` — what is searched for.
* `Dataset.counting`, `Dataset.summaryQuery_names` — the query that counts the values of fields.
* `Dataset.searchBody_counting` — what that query compiles to.
* `Dataset.call_undisturbed` — a request while which nothing else is done.
* `Dataset.summarizeFields_isolated` — a summary and what it leaves.
-/

set_option autoImplicit false

namespace FacetedSearch

open SessionM

/-- Nothing is done with the session while the engine works on the next request. -/
def Session.Undisturbed (s : Session) : Prop :=
  ∀ reply, s.replies.head? = some reply → reply.during = none

namespace Dataset

/-! ## The query -/

/-- What is searched for: every record, of which none is returned, and the values of each of the
fields, the fields in the order in which they first occur. -/
def summaryBody (names : List String) : Json :=
  .obj ([("query", .obj [("bool", .obj [("must", .arr [.obj [("match_all", .obj [])]]),
      ("must_not", .arr []), ("should", .arr [])])]), ("aggs", .obj [])]
    ++ (if names = [] then []
      else [("facets", .obj (names.eraseDups.map fun name =>
        (name, .obj [("terms", .obj [("field", .str name)])])))])
    ++ [("size", .int 0), ("from", .int 0)])

/-- The query that returns no records and counts the values of these fields. -/
def counting (names : List String) : Query :=
  { Query.blank 0 with facets := names.map fun name => (name, ⟨name, .terms none⟩) }

theorem has_counting {name : String} {names : List String} :
    Members.has name (counting names).facets ↔ name ∈ names := by
  rw [Members.has_iff]
  simp [counting]

/-- A facet is added to a query that has none of the field. -/
theorem apply_addFacet (q : Query) (name : String) (silent : Bool) :
    (Mutation.addFacet (.str name) .null silent).apply q =
      .ok (if Members.has name q.facets then q.unchanged
        else q.putFacet ⟨name, .terms none⟩ silent) := by
  show (if Members.has name q.facets then Except.ok q.unchanged
    else .ok (q.putFacet ⟨name, .terms none⟩ silent)) = _
  split <;> rfl

/-- A field is added to those that are counted, if it is not among them. -/
theorem addFacet_counting (names : List String) (name : String) :
    ∃ c, (Mutation.addFacet (.str name) .null true).apply (counting names) = .ok c ∧
      c.query = counting (if name ∈ names then names else names ++ [name]) := by
  refine ⟨_, apply_addFacet _ _ _, ?_⟩
  by_cases hname : name ∈ names
  · rw [if_pos (has_counting.2 hname), if_pos hname]
    rfl
  · have hnew : ¬ Members.has name (counting names).facets := mt has_counting.1 hname
    rw [if_neg hnew, if_neg hname]
    unfold Query.putFacet
    rw [Members.insert_of_not_has hnew]
    simp [counting]

theorem summaryQuery_names (names : List String) :
    summaryQuery (.arr (names.map .str)) = .ok (counting names.eraseDups) := by
  -- by induction on the names, whatever is counted already
  have hfold (seen : List String) : names.foldlM (fun q name => do
      let c ← (Mutation.addFacet (.str name) .null true).apply q
      return c.query) (counting seen) =
        .ok (counting (names.foldl (fun seen name => if name ∈ seen then seen else seen ++ [name])
          seen)) := by
    induction names generalizing seen with
    | nil => rfl
    | cons name names ih =>
      obtain ⟨c, hc, hquery⟩ := addFacet_counting seen name
      rw [List.foldlM_cons, hc, List.foldl_cons, ← ih, ← hquery]
      rfl
  show (names.map Json.str).foldlM _ (counting []) = _
  rw [List.foldlM_map, hfold, Members.foldl_new_nil]

/-- What the query compiles to, with any settings. -/
theorem searchBody_counting (settings : Settings) (names : List String) :
    ∃ body, (counting names.eraseDups).searchBody settings = .ok body ∧
      body.toJson = summaryBody names := by
  refine ⟨_, rfl, ?_⟩
  have hblock : Facet.block (counting names.eraseDups).facets = names.eraseDups.map fun name =>
      (name, .obj [("terms", .obj [("field", .str name)])]) := by
    rw [Facet.block, counting, List.map_map]
    rfl
  show Json.obj ([("query", _), ("aggs", .obj [])] ++
    SearchBody.optionalMember "facets" (.obj (Facet.block _)) (counting names.eraseDups).facets ++
      [("size", .int 0), ("from", .int 0)]) = _
  rw [hblock]
  cases names with
  | nil => rfl
  | cons name names =>
    unfold summaryBody
    rw [if_neg (List.cons_ne_nil _ _), List.eraseDups_cons]
    rfl

/-! ## The search -/

theorem call_undisturbed {s : Session} (h : s.Undisturbed) (inner : Meaning) (request : Request) :
    call inner request s =
      attempt (s.nextAnswer request) { s.asked request with replies := s.replies.tail } := by
  rw [call_eq]
  unfold await Session.nextAnswer
  rcases takeReply_cases { s with calls := s.calls ++ [⟨request, none⟩] } with
    ⟨hnone, htake⟩ | ⟨reply, replies, hreplies, htake⟩
  · have hs : s.replies = [] := hnone
    rw [bind_of_ok htake, hs]
    rfl
  · have hs : s.replies = reply :: replies := hreplies
    have hduring : reply.during = none := h reply (by rw [hs]; rfl)
    rw [bind_of_ok htake, hs]
    dsimp only
    rw [hduring]
    rfl

/-- A summary is one search, and what is made of its response. -/
theorem summarizeFields_eq (d : Dataset) (inner : Meaning) (names : List String) (s : Session) :
    d.summarizeFields inner (.arr (names.map .str)) s =
      (call inner (.search (summaryBody names)) >>= fun response =>
        attempt (((counting names.eraseDups).mapResponse response).map SearchResult.facets)) s := by
  obtain ⟨body, hbody, hjson⟩ := searchBody_counting d.settings names
  have hfacets (response : Json) :
      (attempt ((counting names.eraseDups).mapResponse response) >>= fun result =>
        pure result.facets) =
      attempt (((counting names.eraseDups).mapResponse response).map SearchResult.facets) := by
    cases (counting names.eraseDups).mapResponse response <;> rfl
  unfold summarizeFields search
  rw [bind_attempt, summaryQuery_names]
  dsimp only
  rw [bind_assoc, bind_attempt, hbody]
  dsimp only
  rw [bind_assoc, hjson]
  simp only [hfacets]

/-- **A summary of fields has nothing to do with the session's own query.**  One search is made, for
what `summaryBody` says, and nothing else: if nothing is done by others while the engine works on
it, the session is as it was, but for the search that was made and the reply that was used up,
whether the summary succeeds or not.  A summary that succeeds has the names under which the response
has counts. -/
theorem summarizeFields_isolated (d : Dataset) (inner : Meaning) (names : List String)
    (s : Session) :
    (d.summarizeFields inner (.arr (names.map .str))).after s =
        (call inner (.search (summaryBody names))).after s ∧
      (s.Undisturbed →
        (d.summarizeFields inner (.arr (names.map .str))).after s =
          { s with
            calls := s.calls ++ [⟨.search (summaryBody names), none⟩]
            replies := s.replies.tail }) ∧
      ∀ facets t, d.summarizeFields inner (.arr (names.map .str)) s = .ok facets t →
        ∃ response, s.nextAnswer (.search (summaryBody names)) = .ok response ∧
          facets.map Prod.fst = (Engine.named "facets" response).map Prod.fst := by
  have hafter : (d.summarizeFields inner (.arr (names.map .str))).after s =
      (call inner (.search (summaryBody names))).after s := by
    rw [after, summarizeFields_eq]
    exact after_bind_attempt _ _ s
  refine ⟨hafter, fun hs => ?_, fun facets t h => ?_⟩
  · rw [hafter, after, call_undisturbed hs]
    exact after_attempt _ _
  · rw [summarizeFields_eq] at h
    obtain ⟨response, u, hcall, hmapped⟩ := bind_succeeds_iff.1 h
    obtain ⟨result, hresult, rfl⟩ := map_eq_ok_iff.1 (attempt_succeeds_iff.1 hmapped).1
    rw [call_eq] at hcall
    have hanswer := await_answers hcall
    have hnames : List.Forall₂ (· = ·) ((Engine.named "facets" response).map Prod.fst)
        (result.facets.map Prod.fst) := by
      rw [List.forall₂_map_left_iff, List.forall₂_map_right_iff]
      exact (Query.mapResponse_eq_ok hresult).facets.imp fun _ _ h => h.1.symm
    rw [List.forall₂_eq_eq_eq] at hnames
    exact ⟨response, hanswer, hnames.symm⟩

/-- A session with a filter, in its third query and with the data set as its observer. -/
theorem summarizeFields_isolated_from_filters :
    let s : Session := { Session.start (.ofQuery { Query.blank 10 with
        filters := [⟨"tags", false, .term (.str "new")⟩] }) true with
      generation := 3
      replies := [⟨none, some (.ok (.obj [("facets", .obj [("tags", .obj [("_type", .str "terms"),
        ("terms", .arr [])])])]))⟩] }
    ∃ facets t,
      summarizeFields ⟨"products", .standard⟩ (fun _ => pure .null)
        (.arr [.str "tags", .str "color", .str "tags"]) s = .ok facets t ∧
      t = { s with
        calls := [⟨.search (summaryBody ["tags", "color", "tags"]), none⟩], replies := [] } ∧
      facets.map Prod.fst = ["tags"] := by
  intro s
  have hs : s.Undisturbed := by
    intro reply hreply
    cases hreply
    rfl
  have hfacets : ∃ facets t, summarizeFields ⟨"products", .standard⟩ (fun _ => pure .null)
      (.arr [.str "tags", .str "color", .str "tags"]) s = .ok facets t := ⟨_, _, rfl⟩
  obtain ⟨facets, t, h⟩ := hfacets
  obtain ⟨-, hafter, hnames⟩ := summarizeFields_isolated ⟨"products", .standard⟩
    (fun _ => pure .null) ["tags", "color", "tags"] s
  obtain ⟨response, hresponse, hkeys⟩ := hnames facets t h
  cases hresponse
  exact ⟨facets, t, h, (after_ok h).symm.trans (hafter hs), hkeys⟩

end Dataset

end FacetedSearch
