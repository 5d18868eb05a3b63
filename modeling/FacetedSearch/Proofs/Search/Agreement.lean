import FacetedSearch.Proofs.Search.Encoding

/-!
# Queries with the same body

A body keeps everything that concerns the engine and nothing else: the bodies of two queries are
equal exactly when the queries agree on all that the engine is told.  Selections are not part of it,
nor is anything that goes without saying once records are asked for by identifier.

* `Query.Agree` — agreement on all that the engine is told.
* `SearchBody.toJson_alike_iff` — bodies are told apart by each of their parts.
* `Query.searchBody_alike_iff` — the bodies of two queries are equal exactly when these agree.
-/

set_option autoImplicit false

namespace FacetedSearch

open Sense

variable {σ : Sense}

/-! ## Bodies -/

theorem SearchBody.mem_optionalMember {α : Type} {name : String} {x : Json} {items : List α}
    {m : String × Json} :
    m ∈ SearchBody.optionalMember name x items ↔ items ≠ [] ∧ m = (name, x) := by
  cases items <;> simp [SearchBody.optionalMember]

/-- A member that is written for a list unless it is empty. -/
theorem SearchBody.entries_optionalMember {α : Type} {name : String} {x y : Json}
    {xs ys : List α} {ms ns : Members}
    (hm : ∀ m ∈ ms, m.1 ≠ name) (hn : ∀ n ∈ ns, n.1 ≠ name) :
    σ.entries σ.alike (SearchBody.optionalMember name x xs ++ ms)
        (SearchBody.optionalMember name y ys ++ ns)
      ↔ ((xs = [] ↔ ys = []) ∧ (xs ≠ [] → σ.alike x y)) ∧ σ.entries σ.alike ms ns := by
  cases xs with
  | nil =>
    cases ys with
    | nil => simp [SearchBody.optionalMember]
    | cons y ys => simp [SearchBody.optionalMember, not_entries_cons_right hm]
  | cons x xs =>
    cases ys with
    | nil => simp [SearchBody.optionalMember, not_entries_cons_left hn]
    | cons y ys => simp [SearchBody.optionalMember, entries_cons hm hn]

theorem SearchBody.sort_alike_iff {ks ls : List SortKey} :
    ((ks = [] ↔ ls = []) ∧ (ks ≠ [] →
        σ.alike (.arr (ks.map SortKey.toEngine)) (.arr (ls.map SortKey.toEngine))))
      ↔ List.Forall₂ (SortKey.Agree σ) ks ls := by
  cases ks <;> cases ls <;> simp [SortKey.toEngine_alike_iff]

theorem SearchBody.marking_alike_iff {x y : Option Json} :
    ((x.toList = [] ↔ y.toList = []) ∧ (x.toList ≠ [] → σ.alike (x.getD .null) (y.getD .null)))
      ↔ Option.Rel σ.alike x y := by
  cases x <;> cases y <;> simp

theorem SearchBody.facets_alike_iff {fs gs : List (String × Facet)} :
    ((fs = [] ↔ gs = []) ∧ (fs ≠ [] → σ.alike (.obj (Facet.block fs)) (.obj (Facet.block gs))))
      ↔ σ.entries (· = ·) fs gs := by
  rw [alike_obj_iff, Facet.block_alike_iff]
  cases fs <;> cases gs <;> simp [entries_nil_left, entries_nil_right]

/-- Bodies are told apart by each of their parts. -/
theorem SearchBody.toJson_alike_iff {b c : SearchBody} :
    σ.alike b.toJson c.toJson ↔
      σ.alike b.query.toJson c.query.toJson ∧
      List.Forall₂ (SortKey.Agree σ) b.sort c.sort ∧
      Option.Rel σ.alike b.marking c.marking ∧
      σ.entries σ.alike (Aggregation.blockWith b.topDocs b.aggregations)
        (Aggregation.blockWith c.topDocs c.aggregations) ∧
      σ.entries (· = ·) b.facets c.facets ∧
      σ.alike b.size c.size ∧ σ.alike b.start c.start := by
  unfold SearchBody.toJson
  simp only [alike_obj_iff, List.append_assoc, List.cons_append, List.nil_append]
  -- the names of the members are all different, so the members are compared one by one
  rw [entries_cons, SearchBody.entries_optionalMember, SearchBody.sort_alike_iff,
    SearchBody.entries_optionalMember, SearchBody.marking_alike_iff, entries_cons, alike_obj_iff,
    SearchBody.entries_optionalMember, SearchBody.facets_alike_iff, entries_cons,
    entries_singleton]
  · simp
  all_goals simp [SearchBody.mem_optionalMember, or_imp, forall_and]

/-! ## Queries -/

/-- The clauses of the filters of a query as the engine reads them, each date in its own format. -/
def Query.encodedFilters (q : Query) : Except Failure (List Json) :=
  (q.filters.mapM q.filterClause).map (·.map Clause.toJson)

/-- Two queries agree on all that the engine is told. -/
structure Query.Agree (σ : Sense) (q p : Query) : Prop where
  ids : q.ids = p.ids
  /-- text, demands and the size of a page count as long as no identifiers are given -/
  text : q.ids = none → q.text = p.text
  clauses : q.ids = none → q.clauses.Agree σ p.clauses
  size : q.ids = none → q.size = p.size
  /-- boosts count only for free text, and only as it names them -/
  boosts : q.ids = none → q.text ≠ "" →
    q.boosts.map BoostField.term = p.boosts.map BoostField.term
  filters : ∃ xs ys, q.encodedFilters = .ok xs ∧ p.encodedFilters = .ok ys ∧
    List.Forall₂ σ.alike xs ys
  sort : List.Forall₂ (SortKey.Agree σ) q.sort p.sort
  marked : σ.names q.marked p.marked
  aggregations : σ.entries (Aggregation.Agree σ) q.aggregations p.aggregations
  facets : σ.entries (· = ·) q.facets p.facets
  allTypes : q.mode = .allTypes ↔ p.mode = .allTypes
  start : q.start = p.start

theorem Query.scoringAgree_and_extent_iff {q p : Query} :
    (q.ScoringAgree σ p ∧ q.extent = p.extent) ↔
      q.ids = p.ids ∧ (q.ids = none → q.text = p.text) ∧
      (q.ids = none → q.clauses.Agree σ p.clauses) ∧ (q.ids = none → q.size = p.size) ∧
      (q.ids = none → q.text ≠ "" →
        q.boosts.map BoostField.term = p.boosts.map BoostField.term) := by
  unfold Query.ScoringAgree Query.extent
  cases hq : q.ids with
  | none =>
    constructor
    · rintro ⟨⟨hids, h⟩, hextent⟩
      obtain ⟨htext, hclauses, hboosts⟩ := h rfl
      rw [← hids] at hextent
      exact ⟨hids, fun _ => htext, fun _ => hclauses, fun _ => hextent, fun _ => hboosts⟩
    · rintro ⟨hids, htext, hclauses, hsize, hboosts⟩
      rw [← hids]
      exact ⟨⟨rfl, fun _ => ⟨htext rfl, hclauses rfl, hboosts rfl⟩⟩, hsize rfl⟩
  | some ids =>
    constructor
    · rintro ⟨⟨hids, -⟩, -⟩
      exact ⟨hids, nofun, nofun, nofun, nofun⟩
    · rintro ⟨hids, -⟩
      rw [← hids]
      exact ⟨⟨rfl, nofun⟩, rfl⟩

/-- **The bodies of two queries are equal exactly when the queries agree on all that the engine is
told.** -/
theorem Query.searchBody_alike_iff (σ : Sense) {s : Settings} {q p : Query} {b c : SearchBody}
    (hq : q.searchBody s = .ok b) (hp : p.searchBody s = .ok c) :
    σ.alike b.toJson c.toJson ↔ q.Agree σ p := by
  obtain ⟨cs, hcs, hqkeys, rfl⟩ := Query.searchBody_eq_ok_iff.1 hq
  obtain ⟨ds, hds, hpkeys, rfl⟩ := Query.searchBody_eq_ok_iff.1 hp
  have hcslen := (mapM_eq_ok_iff.1 hcs).length_eq.symm
  have hdslen := (mapM_eq_ok_iff.1 hds).length_eq.symm
  rw [Query.checkKeys_eq_ok_iff] at hqkeys hpkeys
  have hxs : q.encodedFilters = .ok (cs.map Clause.toJson) := by
    rw [Query.encodedFilters, hcs]; rfl
  have hys : p.encodedFilters = .ok (ds.map Clause.toJson) := by
    rw [Query.encodedFilters, hds]; rfl
  have hmode : (q.mode == .allTypes) = (p.mode == .allTypes) ↔
      (q.mode = .allTypes ↔ p.mode = .allTypes) := by
    cases q.mode <;> cases p.mode <;> simp
  rw [SearchBody.toJson_alike_iff]
  simp only [Query.assembled, Query.enclosed_alike_iff s hcslen hdslen, Query.marking_alike_iff,
    Aggregation.blockWith_alike_iff hqkeys hpkeys, alike_int_iff, hmode]
  constructor
  · rintro ⟨⟨hfilters, hscoring⟩, hsort, hmarked, ⟨haggs, hall⟩, hfacets, hextent, hstart⟩
    obtain ⟨hids, htext, hclauses, hsize, hboosts⟩ :=
      Query.scoringAgree_and_extent_iff.1 ⟨hscoring, hextent⟩
    exact ⟨hids, htext, hclauses, hsize, hboosts, ⟨_, _, hxs, hys, hfilters⟩, hsort, hmarked, haggs,
      hfacets, hall, hstart⟩
  · intro h
    obtain ⟨hscoring, hextent⟩ := Query.scoringAgree_and_extent_iff.2
      ⟨h.ids, h.text, h.clauses, h.size, h.boosts⟩
    obtain ⟨xs, ys, hxs', hys', hfilters⟩ := h.filters
    cases hxs.symm.trans hxs'
    cases hys.symm.trans hys'
    exact ⟨⟨hfilters, hscoring⟩, h.sort, h.marked, ⟨h.aggregations, h.allTypes⟩, h.facets, hextent,
      h.start⟩

/-- Selections and repeated highlights do not reach the engine. -/
theorem Query.searchBody_alike_iff_water :
    ∃ b c,
      { Query.blank 10 with
        text := "water", highlights := ["title", "body", "title"],
        filters := [⟨"color", true, .term (.str "red")⟩] }.searchBody .standard = .ok b ∧
      { Query.blank 10 with
        text := "water", highlights := ["title", "body"], selections := [("color", .obj [])],
        filters := [⟨"color", true, .term (.str "red")⟩] }.searchBody .standard = .ok c ∧
      (Sense.written.alike b.toJson c.toJson ↔
        Query.Agree .written
          { Query.blank 10 with
            text := "water", highlights := ["title", "body", "title"],
            filters := [⟨"color", true, .term (.str "red")⟩] }
          { Query.blank 10 with
            text := "water", highlights := ["title", "body"], selections := [("color", .obj [])],
            filters := [⟨"color", true, .term (.str "red")⟩] }) :=
  ⟨_, _, rfl, rfl, Query.searchBody_alike_iff .written rfl rfl⟩

end FacetedSearch
