import FacetedSearch.Proofs.Json.Members
import FacetedSearch.Proofs.Query.Mutation

/-!
# Coherent queries

The registries of a query depend on one another: aggregations and facets are registered under keys
that follow from their fields, a field is boosted once, and only what is registered is selected.
Edits keep all of this, whatever their arguments.

* `Query.Coherent` — the parts of a query fit together.
* `Query.Moves.coherent` — every move keeps them so.
* `Query.afterAll_coherent` — hence every run of edits does.
-/

set_option autoImplicit false

namespace FacetedSearch

/-- A key holds no point. -/
theorem Aggregation.point_notMem_key (field : String) : '.' ∉ (Aggregation.key field).toList := by
  unfold Aggregation.key
  rw [String.toList_map, List.mem_map]
  rintro ⟨c, -, hc⟩
  split at hc
  · cases hc
  · exact absurd hc ‹_›

theorem FilterKind.mem_all (kind : FilterKind) : kind ∈ FilterKind.all := by
  cases kind <;> decide

theorem FilterKind.ofName?_name (kind : FilterKind) :
    FilterKind.ofName? kind.name = some kind := by
  cases kind <;> rfl

namespace Query

/-- The parts of a query fit together. -/
structure Coherent (q : Query) : Prop where
  /-- no field is boosted twice -/
  boosts : (q.boosts.map BoostField.field).Nodup
  /-- aggregations are registered under the keys of their fields, which hold no points -/
  aggregations : ∀ m ∈ q.aggregations, m.1 = Aggregation.key m.2.field ∧ '.' ∉ m.1.toList
  /-- facets are registered under their fields -/
  facets : ∀ m ∈ q.facets, m.1 = m.2.field
  /-- what is selected is registered -/
  selections : ∀ m ∈ q.selections, Members.has m.1 q.aggregations
  /-- filters are of the known kinds, and are tagged as such -/
  filters : ∀ f ∈ q.filters, f.kind ∈ FilterKind.all ∧ FilterKind.ofName? f.kind.name = some f.kind

theorem coherent_blank (size : Int) : (blank size).Coherent where
  boosts := List.nodup_nil
  aggregations := nofun
  facets := nofun
  selections := nofun
  filters := nofun

/-- **A move keeps a query coherent.** -/
theorem Moves.coherent {q p : Query} (h : q.Moves p) (hq : q.Coherent) : p.Coherent := by
  cases h with
  | still => exact hq
  | filters fs =>
    exact { hq with filters := fun f _ => ⟨f.kind.mem_all, f.kind.ofName?_name⟩ }
  | addBoost b new =>
    refine { hq with boosts := ?_ }
    rw [List.map_append, List.map_singleton, List.nodup_append]
    refine ⟨hq.boosts, List.pairwise_singleton _ _, ?_⟩
    intro field hfield other hother
    obtain ⟨c, hc, rfl⟩ := List.mem_map.1 hfield
    cases List.mem_singleton.1 hother
    exact new c hc
  | clearBoosts => exact { hq with boosts := List.nodup_nil }
  | addClause occurrence c => exact { hq with }
  | putFacet f =>
    refine { hq with facets := fun m hm => ?_ }
    rcases Members.mem_of_mem_insert hm with rfl | hm
    · rfl
    · exact hq.facets m hm
  | dropFacet field =>
    exact { hq with facets := fun m hm => hq.facets m (Members.mem_erase_iff.1 hm).1 }
  | clearFacets => exact { hq with facets := nofun }
  | addAggregation a new =>
    refine { hq with
      aggregations := fun m hm => ?_
      selections := fun m hm => Members.has_insert.2 (.inr (hq.selections m hm)) }
    rcases Members.mem_of_mem_insert hm with rfl | hm
    · exact ⟨rfl, Aggregation.point_notMem_key a.field⟩
    · exact hq.aggregations m hm
  | select key selection registered =>
    refine { hq with selections := fun m hm => ?_ }
    rcases Members.mem_of_mem_insert hm with rfl | hm
    · exact registered
    · exact hq.selections m hm
  | unselect key =>
    exact { hq with selections := fun m hm => hq.selections m (Members.mem_erase_iff.1 hm).1 }
  | dropAggregation key =>
    refine { hq with
      aggregations := fun m hm => hq.aggregations m (Members.mem_erase_iff.1 hm).1
      selections := fun m hm => ?_ }
    obtain ⟨hm, hkey⟩ := Members.mem_erase_iff.1 hm
    obtain ⟨n, hn, hname⟩ := Members.has_iff.1 (hq.selections m hm)
    exact Members.has_iff.2 ⟨n, Members.mem_erase_iff.2 ⟨hn, hname ▸ hkey⟩, hname⟩
  | clearAggregations => exact { hq with aggregations := nofun, selections := nofun }

/-- **Every run of edits leaves a coherent query behind**, if it found one, and so does every run
that begins with the query that finds everything.  Edits that fail are part of the run. -/
theorem afterAll_coherent :
    (∀ size es, ((blank size).afterAll es).Coherent) ∧
      ∀ q : Query, q.Coherent → ∀ es, (q.afterAll es).Coherent :=
  ⟨fun size es => afterAll_keeps Moves.coherent (coherent_blank size) es,
    fun _ hq es => afterAll_keeps Moves.coherent hq es⟩

/-- An aggregation is selected in and taken off again, between edits that are refused. -/
theorem afterAll_coherent_selection :
    let q : Query := { blank 10 with boosts := [⟨"title", none⟩] }
    let es : List Edit := [
      .mutation (.addTermsAggregation (.str "maker.name") (.str "many") false),
      .mutation (.addTermsAggregation (.str "maker.name") .null false),
      .mutation (.selectAggregation (.str "maker.name") (.obj [("Acme", .bool true)])),
      .mutation (.addBoost (.str "title") (.int 2) true),
      .replaceFilter ⟨"maker.name", false, .present⟩,
      .mutation (.removeAggregation (.str "maker.name")),
      .mutation (.addClause (.str "never") (.str "maker.name") .null)]
    q.Coherent ∧ (q.afterAll es).Coherent := by
  intro q es
  have hq : q.Coherent := { coherent_blank 10 with boosts := by decide }
  exact ⟨hq, afterAll_coherent.2 q hq es⟩

end Query

end FacetedSearch
