import FacetedSearch.Proofs.Dataset.Phases
import FacetedSearch.Proofs.Query.Update

/-!
# Updating a session

A query may come with updates.  They are refused as a whole, and then the query has not even begun,
or they are applied without anybody being told of it.  What they name is as they say, and what they
do not name is as it was; only an attribute to which something unfit was assigned is read anew, as a
snapshot reads it.

* `Dataset.query_of_updated` — a query with updates is a query of the updated session.
* `Dataset.query_updates` — what updates do to a session.
* `Dataset.query_updates_unnamed` — what is not named can be written differently afterwards.
-/

set_option autoImplicit false

namespace FacetedSearch

open SessionM Validation

namespace Dataset

/-- A query with updates that are applied is a query of the updated session. -/
theorem query_of_updated {d : Dataset} {updates : Json} {s : Session} {live : LiveQuery}
    (h : d.updated updates s.live = .ok live) (inner : Meaning) :
    d.query inner updates s = d.query inner .null { s with live } := by
  rw [query_eq, query_eq, h]
  rfl

theorem updated_obj (d : Dataset) (us : Members) (l : LiveQuery) :
    d.updated (.obj us) l = if us = [] then .ok l else l.update d.settings (.obj us) := by
  cases us <;> rfl

/-- Updates that are applied do what they say. -/
theorem updatedBy_of_updated {d : Dataset} {us : Members} {l l' : LiveQuery} {p : Query}
    (hl : l.Regular) (hp : l.snapshot = .ok p) (h : d.updated (.obj us) l = .ok l') :
    l.UpdatedBy d.settings.defaultSize us p l' := by
  rw [updated_obj] at h
  split_ifs at h with hnil
  · subst hnil
    cases h
    exact .nil
  · exact .of_update hl hp hnil h

/-- **Updates are refused as a whole or applied in silence.**  Updates that are refused raise their
error and leave the session as it was.  Updates that are applied change the live query and nothing
else in the session, after which the query is like one without updates: every part that they name
is what its last entry is read as alone, and every other part is as it was.  Entries for no part are
of no consequence, and updates that have no others are never refused. -/
theorem query_updates (d : Dataset) (inner : Meaning) (us : Members) {s : Session} {p : Query}
    (hlive : s.live.Reached) (hsnapshot : s.live.snapshot = .ok p) :
    (∀ e, d.updated (.obj us) s.live = .error e → d.query inner (.obj us) s = .error e s) ∧
    (∀ live, d.updated (.obj us) s.live = .ok live →
      d.applyUpdates (.obj us) s = .ok () { s with live } ∧
      d.query inner (.obj us) s = d.query inner .null { s with live } ∧
      s.live.UpdatedBy d.settings.defaultSize us p live) ∧
    s.live.update d.settings (.obj us) =
      s.live.update d.settings (.obj (us.filter fun m => (Part.ofName? m.1).isSome)) ∧
    ((∀ part : Part, part.given? us = none) → ∃ live, d.updated (.obj us) s.live = .ok live) := by
  refine ⟨fun e h => query_eq_error_iff.2 (.inl ⟨h, rfl⟩), fun live h => ⟨?_, ?_, ?_⟩, ?_, ?_⟩
  · rw [applyUpdates_eq, h]
  · exact query_of_updated h inner
  · exact updatedBy_of_updated hlive.regular hsnapshot h
  · rw [LiveQuery.update_obj, LiveQuery.update_obj, LiveQuery.read_merge_known]
  · intro hnone
    rw [updated_obj]
    split_ifs
    · exact ⟨_, rfl⟩
    · exact ⟨_, LiveQuery.update_of_unnamed hlive.regular hsnapshot d.settings hnone⟩

/-- Updates by either name and for no part, of which the last for a part counts, and updates that
are refused for a filter of an unknown kind. -/
theorem query_updates_names :
    let d : Dataset := ⟨"products", .standard⟩
    let s := Session.start ((LiveQuery.ofQuery (Query.blank 10)).assign .size (.str "5")) false
    let us : Members := [("from", .int 3), ("colour", .null), ("from_", .int 7)]
    let refused : Members := [("q", .str "x"), ("filters", .arr [.obj [("type", .str "colour")]])]
    let p := Query.blank 5
    s.live.Reached ∧ s.live.snapshot = .ok p ∧
      (∃ live, d.updated (.obj us) s.live = .ok live ∧
        d.applyUpdates (.obj us) s = .ok () { s with live } ∧
        d.query (d.run 1) (.obj us) s = d.query (d.run 1) .null { s with live } ∧
        s.live.UpdatedBy d.settings.defaultSize us p live) ∧
      (∃ live, d.updated (.obj [("colour", .null)]) s.live = .ok live) ∧
      ∃ e, d.updated (.obj refused) s.live = .error e ∧
        d.query (d.run 1) (.obj refused) s = .error e s := by
  intro d s us refused p
  have hread : Query.read 10 .modelType (.obj []) = .ok (Query.blank 10) := rfl
  have hreached : s.live.Reached := .next (.read hread) (.assigned .size (.str "5"))
  have hsnapshot : ((LiveQuery.ofQuery (Query.blank 10)).assign .size (.str "5")).snapshot =
      .ok (Query.blank 5) := by decide +kernel
  have hupdated : updated ⟨"products", .standard⟩
      (.obj [("from", .int 3), ("colour", .null), ("from_", .int 7)])
      ((LiveQuery.ofQuery (Query.blank 10)).assign .size (.str "5")) =
      .ok (.ofQuery { Query.blank 5 with start := 7 }) := by decide +kernel
  have hrefused : d.updated (.obj refused) s.live = .error _ := rfl
  refine ⟨hreached, hsnapshot, ⟨_, hupdated, ?_⟩, ?_, _, hrefused, ?_⟩
  · exact (query_updates d (d.run 1) us hreached hsnapshot).2.1 _ hupdated
  · refine (query_updates d (d.run 1) [("colour", .null)] hreached hsnapshot).2.2.2 fun part => ?_
    cases part <;> rfl
  · exact (query_updates d (d.run 1) refused hreached hsnapshot).1 _ hrefused

/-- A size that was assigned as a string is an integer once a text was given. -/
theorem query_updates_unnamed :
    let d : Dataset := ⟨"products", .standard⟩
    let s := Session.start ((LiveQuery.ofQuery (Query.blank 10)).assign .size (.str "5")) false
    let us : Members := [("q", .str "x")]
    s.live.Reached ∧ (∃ p, s.live.snapshot = .ok p) ∧ Part.size.given? us = none ∧
      (s.live.writeMembers id fun _ x => x).lookup "size" = some (.str "5") ∧
      ∃ live, d.updated (.obj us) s.live = .ok live ∧
        d.applyUpdates (.obj us) s = .ok () { s with live } ∧
        (live.writeMembers id fun _ x => x).lookup "size" = some (.int 5) := by
  intro d s us
  have hread : Query.read 10 .modelType (.obj []) = .ok (Query.blank 10) := rfl
  have hreached : s.live.Reached := .next (.read hread) (.assigned .size (.str "5"))
  have hupdated : updated ⟨"products", .standard⟩ (.obj [("q", .str "x")])
      ((LiveQuery.ofQuery (Query.blank 10)).assign .size (.str "5")) =
      .ok (.ofQuery { Query.blank 5 with text := "x" }) := by decide +kernel
  have hsnapshot : ((LiveQuery.ofQuery (Query.blank 10)).assign .size (.str "5")).snapshot =
      .ok (Query.blank 5) := by decide +kernel
  refine ⟨hreached, ⟨_, hsnapshot⟩, rfl, rfl, _, hupdated, ?_, rfl⟩
  rw [applyUpdates_eq, show d.updated (.obj us) s.live = _ from hupdated]

end Dataset

end FacetedSearch
