import FacetedSearch.Proofs.Json.Members
import FacetedSearch.Proofs.Json.Sense
import FacetedSearch.Proofs.Search.Compilation

/-!
# What parts of a body tell apart

Every part of a query that enters its body is written so that it can be told from any other such
part: the values written for two parts are equal, in either sense, exactly when the parts agree.

* `BoolClause.Agree`, `SortKey.Agree`, `Aggregation.Agree` — parts that hold values of any kind
  agree up to the sense in which values are equal.
* `Query.ScoringAgree`, `Query.core_alike_iff` — the scoring part.
* `Query.enclosed_alike_iff` — the filters around the scoring part, which is sometimes left out.
* `marking_alike_iff` — the fields in which matches are marked.
* `Aggregation.blockWith_alike_iff` — the aggregations, together with the hits of all types.
-/

set_option autoImplicit false

namespace FacetedSearch

open Sense

variable {σ : Sense}

/-! ## Demands and sort keys -/

/-- Two demands are for the same value of the same field. -/
def BoolClause.Agree (σ : Sense) (c d : BoolClause) : Prop :=
  c.field = d.field ∧ σ.alike c.value d.value

/-- The same demands occur in the same ways, in order. -/
structure BoolClauses.Agree (σ : Sense) (c d : BoolClauses) : Prop where
  must : List.Forall₂ (BoolClause.Agree σ) c.must d.must
  should : List.Forall₂ (BoolClause.Agree σ) c.should d.should
  mustNot : List.Forall₂ (BoolClause.Agree σ) c.mustNot d.mustNot

/-- Two sort keys name the same field and the same options. -/
def SortKey.Agree (σ : Sense) (k l : SortKey) : Prop :=
  k.field = l.field ∧ σ.entries σ.alike k.options l.options

theorem BoolClause.clause_alike_iff {c d : BoolClause} :
    σ.alike c.clause.toJson d.clause.toJson ↔ c.Agree σ d := by
  simp [BoolClause.clause, Clause.toJson, Leaf.toJson, entries_singleton, BoolClause.Agree]

theorem BoolClause.clauses_alike_iff {cs ds : List BoolClause} :
    List.Forall₂ σ.alike ((cs.map BoolClause.clause).map Clause.toJson)
        ((ds.map BoolClause.clause).map Clause.toJson)
      ↔ List.Forall₂ (BoolClause.Agree σ) cs ds := by
  simp only [List.map_map, List.forall₂_map_left_iff, List.forall₂_map_right_iff,
    Function.comp_apply, BoolClause.clause_alike_iff]

theorem SortKey.toEngine_alike_iff {k l : SortKey} :
    σ.alike k.toEngine l.toEngine ↔ k.Agree σ l := by
  simp [SortKey.toEngine, entries_singleton, SortKey.Agree]

theorem BoolClauses.Agree.isAny_eq {c d : BoolClauses} (h : c.Agree σ d) : c.isAny = d.isAny := by
  have hempty : ∀ {cs ds : List BoolClause},
      List.Forall₂ (BoolClause.Agree σ) cs ds → cs.isEmpty = ds.isEmpty := by
    intro cs ds h
    cases h <;> rfl
  unfold BoolClauses.isAny
  rw [hempty h.must, hempty h.should, hempty h.mustNot]

/-! ## The scoring part -/

theorem RecordId.toJson_alike_iff {i j : RecordId} : σ.alike i.toJson j.toJson ↔ i = j := by
  cases i <;> cases j <;> simp [RecordId.toJson]

theorem Leaf.ids_alike_iff {ids ids' : List RecordId} :
    σ.alike (Leaf.ids (ids.map RecordId.toJson)).toJson (Leaf.ids (ids'.map RecordId.toJson)).toJson
      ↔ ids = ids' := by
  simp [Leaf.toJson, entries_singleton, RecordId.toJson_alike_iff]

/-- Free text is told apart by the text and the fields that it names. -/
theorem Settings.freeText_alike_iff (s : Settings) {t u : String} {as bs : List BoostField} :
    σ.alike (s.freeText (.str t) as).toJson (s.freeText (.str u) bs).toJson
      ↔ t = u ∧ as.map BoostField.term = bs.map BoostField.term := by
  have hrest : ∀ (ms : Members), σ.entries σ.alike ms ms := fun ms =>
    alike_obj_iff.1 (alike_refl (.obj ms))
  unfold Settings.freeText
  rw [Leaf.toJson, Leaf.toJson, alike_obj_iff, entries_singleton, alike_obj_iff]
  generalize as.map BoostField.term = xs
  generalize bs.map BoostField.term = ys
  cases xs with
  | nil =>
    cases ys with
    | nil => simp [entries_cons, hrest]
    | cons y ys => simp [entries_cons, not_entries_cons_right]
  | cons x xs =>
    cases ys with
    | nil => simp [entries_cons, not_entries_cons_left]
    | cons y ys => simp [entries_cons, hrest]

/-- What is searched for when no identifiers are given: free text, or everything. -/
def Query.main (s : Settings) (q : Query) : Clause :=
  if q.text = "" then .matchAll else .leaf (s.freeText (.str q.text) q.boosts)

theorem Query.core_of_ids {s : Settings} {q : Query} {ids : List RecordId} (h : q.ids = some ids) :
    q.core s = .leaf (.ids (ids.map RecordId.toJson)) := by
  simp [Query.core, Query.coreWith, Query.plain, h]

theorem Query.core_of_none {s : Settings} {q : Query} (h : q.ids = none) :
    q.core s = .bool (q.main s :: q.clauses.must.map BoolClause.clause)
      (q.clauses.mustNot.map BoolClause.clause) (q.clauses.should.map BoolClause.clause)
      (if q.clauses.isAny then some 1 else none) := by
  have htext : (Json.str q.text).isTruthy = !decide (q.text = "") := rfl
  simp only [Query.core, Query.coreWith, Query.plain, h, Option.map_none, htext, Query.main]
  by_cases ht : q.text = "" <;> simp [ht]

/-- Free text is told from everything, and from other free text by its words and its fields. -/
theorem Query.main_alike_iff (s : Settings) {q p : Query} :
    σ.alike (q.main s).toJson (p.main s).toJson ↔
      q.text = p.text ∧
        (q.text ≠ "" → q.boosts.map BoostField.term = p.boosts.map BoostField.term) := by
  unfold Query.main
  by_cases hq : q.text = "" <;> by_cases hp : p.text = ""
  · simp [hq, hp, alike_refl]
  · have hne : "" ≠ p.text := fun h => hp h.symm
    simp [hq, hp, hne, Clause.toJson, Settings.freeText, Leaf.toJson, entries_singleton]
  · simp [hq, hp, Clause.toJson, Settings.freeText, Leaf.toJson, entries_singleton]
  · simp [hq, hp, Clause.toJson, Settings.freeText_alike_iff]

/-- What of two queries has to be the same for their scoring parts to be. -/
def Query.ScoringAgree (σ : Sense) (q p : Query) : Prop :=
  q.ids = p.ids ∧
    (q.ids = none → q.text = p.text ∧ q.clauses.Agree σ p.clauses ∧
      (q.text ≠ "" → q.boosts.map BoostField.term = p.boosts.map BoostField.term))

theorem Clause.bool_alike_iff {must mustNot should must' mustNot' should' : List Clause}
    {least least' : Option Int} :
    σ.alike (Clause.bool must mustNot should least).toJson
        (Clause.bool must' mustNot' should' least').toJson
      ↔ List.Forall₂ σ.alike (must.map Clause.toJson) (must'.map Clause.toJson) ∧
        List.Forall₂ σ.alike (mustNot.map Clause.toJson) (mustNot'.map Clause.toJson) ∧
        List.Forall₂ σ.alike (should.map Clause.toJson) (should'.map Clause.toJson) ∧
        least = least' := by
  simp only [Clause.toJson_bool, alike_obj_iff, entries_singleton]
  cases least <;> cases least' <;>
    simp [entries_cons, entries_nil, not_entries_cons_left, not_entries_cons_right]

theorem Query.core_alike_iff (s : Settings) {q p : Query} :
    σ.alike (q.core s).toJson (p.core s).toJson ↔ q.ScoringAgree σ p := by
  unfold Query.ScoringAgree
  cases hq : q.ids with
  | some ids =>
    rw [Query.core_of_ids hq]
    cases hp : p.ids with
    | some ids' =>
      rw [Query.core_of_ids hp, Clause.toJson, Clause.toJson, Leaf.ids_alike_iff]
      simp
    | none =>
      rw [Query.core_of_none hp]
      simp [Clause.toJson, Leaf.toJson, entries_singleton]
  | none =>
    rw [Query.core_of_none hq]
    cases hp : p.ids with
    | some ids' =>
      rw [Query.core_of_ids hp]
      simp [Clause.toJson, Leaf.toJson, entries_singleton]
    | none =>
      rw [Query.core_of_none hp, Clause.bool_alike_iff, List.map_cons, List.map_cons,
        List.forall₂_cons]
      simp only [BoolClause.clauses_alike_iff, Query.main_alike_iff, true_and, forall_const]
      constructor
      · rintro ⟨⟨⟨htext, hboosts⟩, hmust⟩, hmustNot, hshould, -⟩
        exact ⟨htext, ⟨hmust, hshould, hmustNot⟩, hboosts⟩
      · rintro ⟨htext, hclauses, hboosts⟩
        refine ⟨⟨⟨htext, hboosts⟩, hclauses.must⟩, hclauses.mustNot, hclauses.should, ?_⟩
        rw [hclauses.isAny_eq]

/-! ## Filters around the scoring part -/

theorem Query.not_alike_core_filtered {s : Settings} {q : Query} {filters : List Clause}
    {inner : Option Clause} :
    ¬ σ.alike (q.core s).toJson (Clause.filtered filters inner).toJson := by
  rw [Clause.toJson_filtered]
  cases hq : q.ids with
  | some ids => simp [Query.core_of_ids hq, Clause.toJson, Leaf.toJson, entries_singleton]
  | none => simp [Query.core_of_none hq, Clause.toJson_bool, entries_singleton]

theorem Clause.filtered_alike_iff {filters filters' : List Clause} {inner inner' : Option Clause} :
    σ.alike (Clause.filtered filters inner).toJson (Clause.filtered filters' inner').toJson
      ↔ List.Forall₂ σ.alike (filters.map Clause.toJson) (filters'.map Clause.toJson) ∧
        Option.Rel σ.alike (inner.map Clause.toJson) (inner'.map Clause.toJson) := by
  simp only [Clause.toJson_filtered, alike_obj_iff, entries_singleton]
  cases inner <;> cases inner' <;>
    simp [entries_cons, entries_nil, not_entries_cons_left, not_entries_cons_right]

/-- A query that matches everything by its form has no identifiers, no text and no demands. -/
theorem Query.isMatchAll_iff {q : Query} :
    q.isMatchAll = true ↔ q.ids = none ∧ q.text = "" ∧ q.clauses.isAny = false := by
  have htext : (Json.str q.text).isTruthy = !decide (q.text = "") := rfl
  unfold Query.isMatchAll Query.isMatchAllWith Query.plain
  rw [htext]
  cases q.ids <;> simp

/-- Queries that agree in their scoring parts leave them out together. -/
theorem Query.ScoringAgree.isMatchAll_eq {q p : Query} (h : q.ScoringAgree σ p) :
    q.isMatchAll = p.isMatchAll := by
  obtain ⟨hids, hscoring⟩ := h
  rw [Bool.eq_iff_iff, Query.isMatchAll_iff, Query.isMatchAll_iff, ← hids]
  refine and_congr_right fun hnone => ?_
  obtain ⟨htext, hclauses, -⟩ := hscoring hnone
  rw [htext, hclauses.isAny_eq]

/-- Scoring parts that are left out agree. -/
theorem Query.scoringAgree_of_isMatchAll {q p : Query} (hq : q.isMatchAll = true)
    (hp : p.isMatchAll = true) : q.ScoringAgree σ p := by
  obtain ⟨hids, htext, hany⟩ := Query.isMatchAll_iff.1 hq
  obtain ⟨hids', htext', hany'⟩ := Query.isMatchAll_iff.1 hp
  have hnone : ∀ {c : BoolClauses}, c.isAny = false → c = .none := by
    intro c hc
    obtain ⟨must, should, mustNot⟩ := c
    simpa [BoolClauses.isAny, BoolClauses.none, and_assoc] using hc
  refine ⟨by rw [hids, hids'], fun _ => ⟨by rw [htext, htext'], ?_, fun h => absurd htext h⟩⟩
  rw [hnone hany, hnone hany']
  exact ⟨.nil, .nil, .nil⟩

/-- Whole queries are told apart by their filters and their scoring parts, although a scoring part
that matches everything is left out. -/
theorem Query.enclosed_alike_iff (s : Settings) {q p : Query} {cs ds : List Clause}
    (hcs : cs.length = q.filters.length) (hds : ds.length = p.filters.length) :
    σ.alike (q.enclosed s cs).toJson (p.enclosed s ds).toJson ↔
      List.Forall₂ σ.alike (cs.map Clause.toJson) (ds.map Clause.toJson) ∧ q.ScoringAgree σ p := by
  unfold Query.enclosed
  cases hq : q.filters with
  | nil =>
    obtain rfl : cs = [] := List.length_eq_zero_iff.1 (by rw [hcs, hq]; rfl)
    cases hp : p.filters with
    | nil =>
      obtain rfl : ds = [] := List.length_eq_zero_iff.1 (by rw [hds, hp]; rfl)
      simp [Query.core_alike_iff]
    | cons g gs =>
      have hne : ds ≠ [] := by rintro rfl; rw [hp] at hds; cases hds
      simp [Query.not_alike_core_filtered, hne]
  | cons f fs =>
    cases hp : p.filters with
    | nil =>
      obtain rfl : ds = [] := List.length_eq_zero_iff.1 (by rw [hds, hp]; rfl)
      have hne : cs ≠ [] := by rintro rfl; rw [hq] at hcs; cases hcs
      rw [alike_comm]
      simp [Query.not_alike_core_filtered, hne]
    | cons g gs =>
      simp only [List.isEmpty_cons, Bool.false_eq_true, if_false, Clause.filtered_alike_iff]
      refine and_congr_right fun _ => ?_
      cases hqm : q.isMatchAll <;> cases hpm : p.isMatchAll
      · simp [Query.core_alike_iff]
      · have : ¬ q.ScoringAgree σ p := fun h => by simp [h.isMatchAll_eq, hpm] at hqm
        simp [this]
      · have : ¬ q.ScoringAgree σ p := fun h => by simp [h.isMatchAll_eq, hpm] at hqm
        simp [this]
      · simp [Query.scoringAgree_of_isMatchAll hqm hpm]

/-! ## Aggregations and facets -/

/-- Two groupings are of the same kind and have the same parameters. -/
def Grouping.Agree (σ : Sense) : Grouping → Grouping → Prop
  | .terms size, .terms size' => size = size'
  | .range ranges, .range ranges' => List.Forall₂ (σ.entries σ.alike) ranges ranges'
  | .dateRange format ranges, .dateRange format' ranges' =>
    format = format' ∧ List.Forall₂ (σ.entries σ.alike) ranges ranges'
  | _, _ => False

/-- Two aggregations group by the same field in the same way. -/
def Aggregation.Agree (σ : Sense) (a b : Aggregation) : Prop :=
  a.field = b.field ∧ a.grouping.Agree σ b.grouping

theorem Grouping.rangesToJson_alike_iff {rs ss : List Members} :
    σ.alike (Grouping.rangesToJson rs) (Grouping.rangesToJson ss)
      ↔ List.Forall₂ (σ.entries σ.alike) rs ss := by
  simp [Grouping.rangesToJson]

theorem Aggregation.toEngine_alike_iff {a b : Aggregation} :
    σ.alike a.toEngine b.toEngine ↔ a.Agree σ b := by
  obtain ⟨field, grouping⟩ := a
  obtain ⟨field', grouping'⟩ := b
  unfold Aggregation.toEngine Aggregation.parameters Aggregation.Agree
  rw [alike_obj_iff, entries_singleton, alike_obj_iff]
  cases grouping with
  | terms size =>
    cases grouping' with
    | terms size' =>
      cases size <;> cases size' <;>
        simp [Grouping.name, Grouping.Agree, entries_cons, entries_nil, not_entries_cons_left,
          not_entries_cons_right]
    | range _ => simp [Grouping.name, Grouping.Agree]
    | dateRange _ _ => simp [Grouping.name, Grouping.Agree]
  | range ranges =>
    cases grouping' with
    | range ranges' =>
      simp [Grouping.name, Grouping.Agree, entries_cons, entries_nil,
        Grouping.rangesToJson_alike_iff]
    | terms _ => simp [Grouping.name, Grouping.Agree]
    | dateRange _ _ => simp [Grouping.name, Grouping.Agree]
  | dateRange format ranges =>
    cases grouping' with
    | dateRange format' ranges' =>
      simp [Grouping.name, Grouping.Agree, entries_cons, entries_nil,
        Grouping.rangesToJson_alike_iff]
    | terms _ => simp [Grouping.name, Grouping.Agree]
    | range _ => simp [Grouping.name, Grouping.Agree]

theorem Facet.toEngine_alike_iff {f g : Facet} : σ.alike f.toEngine g.toEngine ↔ f = g := by
  obtain ⟨field, count⟩ := f
  obtain ⟨field', count'⟩ := g
  unfold Facet.toEngine Facet.parameters
  rw [alike_obj_iff, entries_singleton, alike_obj_iff]
  cases count with
  | terms size =>
    cases count' with
    | terms size' =>
      cases size <;> cases size' <;>
        simp [Count.name, entries_cons, entries_nil, not_entries_cons_left,
          not_entries_cons_right]
    | dateHistogram _ => simp [Count.name]
  | dateHistogram interval =>
    cases count' with
    | terms _ => simp [Count.name]
    | dateHistogram interval' => simp [Count.name, entries_cons, entries_nil]

/-- The hits of all types are never taken for an aggregation of a query. -/
theorem Aggregation.not_alike_topDocs {a : Aggregation} :
    ¬ σ.alike a.toEngine Aggregation.topDocs := by
  unfold Aggregation.topDocs Aggregation.toEngine
  rw [alike_obj_iff]
  intro h
  have hkey := Entries.lookup h "aggs"
  cases hg : a.grouping <;> simp [hg, Grouping.name, List.lookup_cons] at hkey

theorem Aggregation.block_alike_iff {as bs : List (String × Aggregation)} :
    σ.entries σ.alike (Aggregation.block as) (Aggregation.block bs)
      ↔ σ.entries (Aggregation.Agree σ) as bs := by
  unfold Aggregation.block
  rw [entries_map]
  simp only [Aggregation.toEngine_alike_iff]

theorem Aggregation.blockWith_true (as : List (String × Aggregation)) :
    Aggregation.blockWith true as
      = Aggregation.block as ++ [(Aggregation.topDocsKey, Aggregation.topDocs)] := rfl

theorem Aggregation.blockWith_false (as : List (String × Aggregation)) :
    Aggregation.blockWith false as = Aggregation.block as := List.append_nil _

theorem Aggregation.lookup_blockWith_true {as : List (String × Aggregation)}
    (h : as.lookup Aggregation.topDocsKey = none) :
    (Aggregation.blockWith true as).lookup Aggregation.topDocsKey = some Aggregation.topDocs := by
  rw [Aggregation.blockWith_true, List.lookup_append, Aggregation.block, Members.lookup_map, h]
  rfl

/-- Aggregations are told from such with the hits of all types among them. -/
theorem Aggregation.not_entries_blockWith_true {as bs : List (String × Aggregation)}
    (hbs : bs.lookup Aggregation.topDocsKey = none) :
    ¬ σ.entries σ.alike (Aggregation.blockWith false as) (Aggregation.blockWith true bs) := by
  intro h
  have hkey := Entries.lookup h Aggregation.topDocsKey
  rw [Aggregation.lookup_blockWith_true hbs, Aggregation.blockWith_false, Aggregation.block,
    Members.lookup_map] at hkey
  cases ha : as.lookup Aggregation.topDocsKey with
  | none => simp [ha] at hkey
  | some a => simp [ha, Aggregation.not_alike_topDocs] at hkey

/-- The aggregations of two queries are told apart, and so is whether the hits of all types are
asked for, as long as these find their key free. -/
theorem Aggregation.blockWith_alike_iff {t u : Bool} {as bs : List (String × Aggregation)}
    (ht : t = true → as.lookup Aggregation.topDocsKey = none)
    (hu : u = true → bs.lookup Aggregation.topDocsKey = none) :
    σ.entries σ.alike (Aggregation.blockWith t as) (Aggregation.blockWith u bs)
      ↔ σ.entries (Aggregation.Agree σ) as bs ∧ t = u := by
  cases t with
  | false =>
    cases u with
    | false =>
      rw [Aggregation.blockWith_false, Aggregation.blockWith_false, Aggregation.block_alike_iff]
      simp
    | true => simp [Aggregation.not_entries_blockWith_true (hu rfl)]
  | true =>
    cases u with
    | false =>
      rw [entries_alike_comm]
      simp [Aggregation.not_entries_blockWith_true (ht rfl)]
    | true =>
      have hfree : ∀ {cs : List (String × Aggregation)},
          cs.lookup Aggregation.topDocsKey = none →
          ∀ m ∈ Aggregation.block cs, m.1 ≠ Aggregation.topDocsKey := by
        intro cs hcs
        rw [← Members.lookup_eq_none_iff, Aggregation.block, Members.lookup_map, hcs]
        rfl
      rw [Aggregation.blockWith_true, Aggregation.blockWith_true,
        entries_concat (hfree (ht rfl)) (hfree (hu rfl)), Aggregation.block_alike_iff]
      simp [alike_refl]

theorem Facet.block_alike_iff {fs gs : List (String × Facet)} :
    σ.entries σ.alike (Facet.block fs) (Facet.block gs) ↔ σ.entries (· = ·) fs gs := by
  unfold Facet.block
  rw [entries_map]
  simp only [Facet.toEngine_alike_iff]

/-! ## Marked fields -/

/-- The fields in which matches are marked, each once; without free text there are none. -/
def Query.marked (q : Query) : List String := if q.text = "" then [] else q.highlights.eraseDups

/-- Names that all have one value are told apart as names. -/
theorem entries_const_iff (x : Json) {xs ys : List String} :
    σ.entries σ.alike (xs.map fun name => (name, x)) (ys.map fun name => (name, x))
      ↔ σ.names xs ys := by
  cases σ with
  | written =>
    simp only [entries, alike, List.forall₂_map_left_iff, List.forall₂_map_right_iff, and_true]
    rw [List.forall₂_eq_eq_eq]
    rfl
  | meant =>
    refine forall_congr' fun key => ?_
    rw [Members.lookup_map_const, Members.lookup_map_const]
    by_cases hx : key ∈ xs <;> by_cases hy : key ∈ ys <;> simp [hx, hy, alike_refl]

theorem markedFields_alike_iff {xs ys : List String} :
    σ.alike (markedFields xs) (markedFields ys) ↔ σ.names xs.eraseDups ys.eraseDups := by
  unfold markedFields
  rw [alike_obj_iff, Members.ofList_map_const, Members.ofList_map_const]
  simp [entries_cons, entries_nil, entries_const_iff]

theorem Query.marking_eq (q : Query) :
    marking (.str q.text) q.highlights
      = if q.marked = [] then none else some (markedFields q.highlights) := by
  unfold marking Query.marked
  by_cases ht : q.text = ""
  · simp [ht, Json.isTruthy]
  · cases q.highlights <;> simp [ht, Json.isTruthy, List.eraseDups_cons]

theorem Query.marking_alike_iff {q p : Query} :
    Option.Rel σ.alike (marking (.str q.text) q.highlights) (marking (.str p.text) p.highlights)
      ↔ σ.names q.marked p.marked := by
  have hmarked : ∀ {r : Query}, r.marked ≠ [] → r.marked = r.highlights.eraseDups := by
    intro r hr
    unfold Query.marked at hr ⊢
    split at hr
    · exact absurd rfl hr
    · rw [if_neg (by assumption)]
  rw [Query.marking_eq, Query.marking_eq]
  by_cases hq : q.marked = [] <;> by_cases hp : p.marked = []
  · simp [hq, hp, names_nil_left]
  · simp [hq, hp, names_nil_left]
  · simp [hq, hp, names_nil_right]
  · simp only [hq, hp, if_false, Option.rel_some_some, markedFields_alike_iff]
    rw [hmarked hq, hmarked hp]

end FacetedSearch
