import FacetedSearch.Proofs.Outcome
import FacetedSearch.Search.Body

/-!
# Compilation, step by step

A query compiles when all its filters have clauses and no aggregation takes the reserved key.
Nothing else can stop it, and its body is then put together from the clauses and the query alone.

* `Query.enclosed` — the clauses of the filters around the scoring part.
* `Query.assembled` — the body, given the clauses of the filters.
* `Query.searchBody_eq_ok_iff` — when a query compiles, and to what.
* `Query.clauseWith_eq_ok`, `Query.searchBodyWith_eq_ok` — the same for attributes of any form.
-/

set_option autoImplicit false

namespace FacetedSearch

theorem Clause.listToJson_eq_map (cs : List Clause) :
    Clause.listToJson cs = cs.map Clause.toJson := by
  induction cs with
  | nil => rfl
  | cons c cs ih => rw [Clause.listToJson, ih, List.map_cons]

theorem Clause.toJson_bool (must mustNot should : List Clause) (least : Option Int) :
    (Clause.bool must mustNot should least).toJson =
      .obj [("bool", .obj (("must", .arr (must.map Clause.toJson))
        :: ("must_not", .arr (mustNot.map Clause.toJson))
        :: ("should", .arr (should.map Clause.toJson))
        :: least.toList.map fun n => ("minimum_should_match", .int n)))] := by
  cases least <;> simp [Clause.toJson, Clause.listToJson_eq_map]

theorem Clause.toJson_filtered (filters : List Clause) (inner : Option Clause) :
    (Clause.filtered filters inner).toJson =
      .obj [("filtered", .obj (("filter", .obj [("and", .arr (filters.map Clause.toJson))])
        :: inner.toList.map fun c => ("query", c.toJson)))] := by
  cases inner <;> simp [Clause.toJson, Clause.listToJson_eq_map]

namespace Query

/-- The clauses of the filters around the scoring part of a query. -/
def enclosed (s : Settings) (q : Query) (filters : List Clause) : Clause :=
  if q.filters.isEmpty then q.core s
  else .filtered filters (if q.isMatchAll then none else some (q.core s))

/-- How many records are asked for: all those that are named, or the size of a page. -/
def extent (q : Query) : Int :=
  match q.ids with
  | some ids => ids.length
  | none => q.size

/-- The body of a query, given the clauses of its filters. -/
def assembled (s : Settings) (q : Query) (filters : List Clause) : SearchBody where
  query := q.enclosed s filters
  sort := q.sort
  marking := marking (.str q.text) q.highlights
  aggregations := q.aggregations
  topDocs := q.mode == .allTypes
  facets := q.facets
  size := .int q.extent
  start := .int q.start

theorem clauseWith_plain (s : Settings) (q : Query) :
    q.clauseWith s q.plain = (q.filters.mapM q.filterClause).map (q.enclosed s) := by
  unfold clauseWith enclosed
  cases hf : q.filters with
  | nil => rfl
  | cons f fs =>
    cases hm : (f :: fs).mapM q.filterClause with
    | error e => rfl
    | ok cs => rfl

/-- A query is compiled filter by filter, and then its aggregations are looked at. -/
theorem searchBody_eq (s : Settings) (q : Query) :
    q.searchBody s = do
      let filters ← q.filters.mapM q.filterClause
      Aggregation.checkKeys (q.mode == .allTypes) q.aggregations
      return q.assembled s filters := by
  unfold searchBody searchBodyWith
  rw [clauseWith_plain]
  cases q.filters.mapM q.filterClause with
  | error e => rfl
  | ok filters =>
    cases hids : q.ids with
    | none => simp [assembled, extent, plain, hids, bind, Except.bind, Except.map]
    | some ids => simp [assembled, extent, plain, hids, bind, Except.bind, Except.map]

/-- **A query compiles exactly when its filters do and no key collides**, to the body put together
from the clauses of its filters. -/
theorem searchBody_eq_ok_iff {s : Settings} {q : Query} {b : SearchBody} :
    q.searchBody s = .ok b ↔
      ∃ filters, q.filters.mapM q.filterClause = .ok filters ∧
        Aggregation.checkKeys (q.mode == .allTypes) q.aggregations = .ok () ∧
        b = q.assembled s filters := by
  rw [searchBody_eq, bind_eq_ok_iff]
  refine exists_congr fun filters => and_congr_right fun _ => ?_
  rw [bind_eq_ok_iff]
  constructor
  · rintro ⟨_, hkeys, h⟩
    cases h
    exact ⟨hkeys, rfl⟩
  · rintro ⟨hkeys, rfl⟩
    exact ⟨(), hkeys, rfl⟩

theorem checkKeys_eq_ok_iff {allTypes : Bool} {as : List (String × Aggregation)} :
    Aggregation.checkKeys allTypes as = .ok () ↔
      (allTypes = true → as.lookup Aggregation.topDocsKey = none) := by
  unfold Aggregation.checkKeys Members.has
  cases allTypes <;> cases as.lookup Aggregation.topDocsKey <;> simp

variable {s : Settings} {p : PlainAttributes} {q : Query}

/-- Whatever the plain attributes are, the filters are put around the scoring part if there are any. -/
theorem clauseWith_eq_ok {c : Clause} (h : q.clauseWith s p = .ok c) :
    ∃ filters, q.filters.mapM q.filterClause = .ok filters ∧
      c = if q.filters.isEmpty then q.coreWith s p
        else .filtered filters (if q.isMatchAllWith p then none else some (q.coreWith s p)) := by
  unfold clauseWith at h
  by_cases hempty : q.filters.isEmpty = true
  · rw [if_pos hempty] at h
    cases h
    refine ⟨[], ?_, (if_pos hempty).symm⟩
    rw [List.isEmpty_iff.1 hempty]
    rfl
  · rw [if_neg hempty] at h
    obtain ⟨filters, hfilters, h⟩ := bind_eq_ok_iff.1 h
    cases h
    exact ⟨filters, hfilters, (if_neg hempty).symm⟩

theorem searchBodyWith_eq_ok {b : SearchBody} (h : q.searchBodyWith s p = .ok b) :
    q.clauseWith s p = .ok b.query ∧
      (p.allTypes = true → q.aggregations.lookup Aggregation.topDocsKey = none) ∧
      b.aggregations = q.aggregations ∧ b.topDocs = p.allTypes := by
  obtain ⟨clause, hclause, h⟩ := bind_eq_ok_iff.1 h
  obtain ⟨highlights, -, h⟩ := bind_eq_ok_iff.1 h
  obtain ⟨⟨⟩, hkeys, h⟩ := bind_eq_ok_iff.1 h
  cases h
  exact ⟨hclause, checkKeys_eq_ok_iff.1 hkeys, rfl, rfl⟩

end Query

end FacetedSearch
