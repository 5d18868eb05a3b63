import FacetedSearch.Proofs.Query.FilterHistory
import FacetedSearch.Proofs.Query.Registry
import FacetedSearch.Proofs.Query.RegistryCall

/-!
# The registries of a query and their history

An edit asks at most one thing of the registries, and what it asks can be told without looking at the
query.  The registries of a query are therefore those after the calls of its edits.  An edit that
fails is no call at all.

* `Edit.registryCall?` — what an edit asks of the registries, its arguments read.
* `Query.registries_after` — an edit does to the registries what it asks of them.
* `Query.registries_afterAll` — so does a run of edits.
* `Query.registries_follow_history` — the registries of a query and its history.
-/

set_option autoImplicit false

namespace FacetedSearch

/-! ## What is asked -/

/-- What a mutation asks of the registries, if its arguments can be read. -/
def Mutation.registryCall? : Mutation → Option RegistryCall
  | addBoost field boost _ =>
    (BoostField.readMembers [("field", field), ("boost", boost)]).orFail.toOption.map .addBoost
  | clearBoosts => some .clearBoosts
  | addFacet field size _ =>
    (Facet.readTerms [("field", field), ("size", size)]).orFail.toOption.map .addFacet
  | addHistogramFacet field interval =>
    (Facet.readHistogram [("field", field), ("interval", interval)]).orFail.toOption.map .putFacet
  | removeFacet field => field.string?.map .dropFacet
  | clearFacets => some .clearFacets
  | addTermsAggregation field size _ =>
    (Aggregation.readTerms [("field", field), ("size", size)]).orFail.toOption.map .addAggregation
  | addRangeAggregation field ranges _ =>
    (Aggregation.readRange [("field", field), ("ranges", ranges)]).orFail.toOption.map
      .addAggregation
  | addDateRangeAggregation field format ranges _ =>
    (Aggregation.readDateRange [("field", field), ("format", format), ("ranges", ranges)]).orFail
      |>.toOption.map .addAggregation
  | selectAggregation field selection => (keyOf field).toOption.map (.select · selection)
  | unselectAggregation field => (keyOf field).toOption.map .unselect
  | removeAggregation field => (keyOf field).toOption.map .dropAggregation
  | clearAggregations => some .clearAggregations
  | _ => none

/-- What an edit asks of the registries. -/
def Edit.registryCall? : Edit → Option RegistryCall
  | mutation m => m.registryCall?
  | addFilter _ _ | replaceFilter _ => none

/-! ## Queries -/

namespace Query

/-- What a query has registered. -/
def registries (q : Query) : Registries := ⟨q.aggregations, q.selections, q.boosts, q.facets⟩

end Query

theorem Facet.field_of_readTerms {field size : Json} {f : Facet}
    (h : Facet.readTerms [("field", field), ("size", size)] = .ok f) : field = .str f.field := by
  obtain ⟨_, _, hfield, -, rfl⟩ := Checked.seq_eq_ok_iff.1 h
  obtain ⟨name, hname, rfl⟩ := Checked.map_eq_ok_iff.1 hfield
  exact Checked.string_eq_ok_iff.1 (Checked.under_eq_ok_iff.1 hname)

namespace Mutation

variable {m : Mutation} {q : Query}

theorem registries_addAggregation (q : Query) (a : Aggregation) (silent : Bool) :
    (q.addAggregation a silent).query.registries = q.registries.after (.addAggregation a) := by
  show _ = { q.registries with
    aggregations := Members.insertNew (Aggregation.key a.field) a q.aggregations }
  unfold Members.insertNew
  by_cases hhas : Members.has (Aggregation.key a.field) q.aggregations
  · rw [Query.addAggregation_of_has hhas, if_pos hhas]
    rfl
  · rw [Query.addAggregation_of_not_has hhas, if_neg hhas]
    rfl

theorem registries_addBoost {field boost : Json} {silent : Bool} {c : Change}
    (h : (addBoost field boost silent).apply q = .ok c) :
    c.query.registries =
      (addBoost field boost silent).registryCall?.elim q.registries q.registries.after := by
  have hcall : (addBoost field boost silent).registryCall? =
      (BoostField.readMembers [("field", field), ("boost", boost)]).orFail.toOption.map .addBoost :=
    rfl
  rw [hcall]
  simp only [apply] at h
  split at h
  · rename_i hknown
    cases h
    -- the boost is not looked at, so it may or may not be one
    cases hread : BoostField.readMembers [("field", field), ("boost", boost)] with
    | refused causes => rfl
    | ok b =>
      cases BoostField.field_of_readMembers hread
      have hany : (q.boosts.any fun c => c.field = b.field) = true := by
        simpa only [Json.str.injEq, eq_comm] using hknown
      exact congrArg (Registries.mk _ _ · _) (if_pos hany).symm
  · rename_i hnew
    obtain ⟨b, hb, h⟩ := bind_eq_ok_iff.1 h
    cases h
    cases BoostField.field_of_readMembers (Checked.orFail_eq_ok_iff.1 hb)
    have hany : ¬ (q.boosts.any fun c => c.field = b.field) = true := by
      simpa only [Json.str.injEq, eq_comm] using hnew
    rw [hb]
    exact congrArg (Registries.mk _ _ · _) (if_neg hany).symm

theorem registries_addFacet {field size : Json} {silent : Bool} {c : Change}
    (h : (addFacet field size silent).apply q = .ok c) :
    c.query.registries =
      (addFacet field size silent).registryCall?.elim q.registries q.registries.after := by
  have hcall : (addFacet field size silent).registryCall? =
      (Facet.readTerms [("field", field), ("size", size)]).orFail.toOption.map .addFacet := rfl
  rw [hcall]
  obtain ⟨isKnown, hknown, h⟩ := bind_eq_ok_iff.1 h
  split at h
  · rename_i hhas
    cases h
    -- the facet is not looked at, so it may or may not be one
    cases hread : Facet.readTerms [("field", field), ("size", size)] with
    | refused causes => rfl
    | ok f =>
      cases Facet.field_of_readTerms hread
      cases hknown
      exact congrArg (Registries.mk _ _ _ ·) (if_pos hhas).symm
  · rename_i hnew
    obtain ⟨f, hf, h⟩ := bind_eq_ok_iff.1 h
    cases h
    cases Facet.field_of_readTerms (Checked.orFail_eq_ok_iff.1 hf)
    cases hknown
    rw [hf]
    exact congrArg (Registries.mk _ _ _ ·) (if_neg hnew).symm

theorem registries_removeFacet {field : Json} {c : Change} (h : dropFacet q field = .ok c) :
    c.query.registries =
      (removeFacet field).registryCall?.elim q.registries q.registries.after := by
  have hcall : (removeFacet field).registryCall? = field.string?.map .dropFacet := rfl
  rw [hcall]
  have hkept (name : String) (hnone : ∀ m ∈ q.facets, m.1 ≠ name) :
      q.registries = q.registries.after (.dropFacet name) :=
    congrArg (Registries.mk _ _ _ ·) (Members.erase_eq_self hnone).symm
  unfold dropFacet at h
  split at h
  · rename_i hempty
    cases h
    cases field with
    | str name =>
      refine hkept name ?_
      rw [List.isEmpty_iff.1 hempty]
      exact fun _ hm => absurd hm List.not_mem_nil
    | _ => rfl
  · split at h
    · rename_i name
      split at h
      · cases h
        rfl
      · rename_i hnew
        cases h
        exact hkept name fun m hm hname => hnew (Members.has_iff.2 ⟨m, hm, hname⟩)
    · rename_i hother
      split at h
      · cases h
        cases field with
        | str name => exact absurd rfl (hother name)
        | _ => rfl
      · cases h

/-- A mutation that succeeds does to the registries what it asks of them. -/
theorem registries_of_apply {c : Change} (h : m.apply q = .ok c) :
    c.query.registries = m.registryCall?.elim q.registries q.registries.after := by
  cases m with
  | addFilter | replaceFilter =>
    obtain ⟨f, -, h⟩ := bind_eq_ok_iff.1 h
    cases h
    rfl
  | removeFilters field => cases field <;> cases h <;> rfl
  | addBoost field boost silent => exact registries_addBoost h
  | addClause occurrence field value =>
    obtain ⟨occurrence, -, h⟩ := bind_eq_ok_iff.1 h
    obtain ⟨c, -, h⟩ := bind_eq_ok_iff.1 h
    cases h
    rfl
  | addFacet field size silent => exact registries_addFacet h
  | addHistogramFacet field interval =>
    obtain ⟨f, hf, h⟩ := bind_eq_ok_iff.1 h
    cases h
    simp only [registryCall?, hf]
    rfl
  | removeFacet field => exact registries_removeFacet h
  | addTermsAggregation | addRangeAggregation | addDateRangeAggregation =>
    obtain ⟨a, ha, h⟩ := bind_eq_ok_iff.1 h
    cases h
    simp only [registryCall?, ha]
    exact registries_addAggregation q a _
  | selectAggregation field selection =>
    obtain ⟨key, hkey, h⟩ := bind_eq_ok_iff.1 h
    simp only [registryCall?, hkey]
    split at h
    · rename_i hhas
      cases h
      exact congrArg (Registries.mk _ · _ _) (if_pos hhas).symm
    · rename_i hhas
      cases h
      exact congrArg (Registries.mk _ · _ _) (if_neg hhas).symm
  | unselectAggregation field | removeAggregation field =>
    obtain ⟨key, hkey, h⟩ := bind_eq_ok_iff.1 h
    cases h
    simp only [registryCall?, hkey]
    rfl
  | clearFilters | clearBoosts | clearFacets | refreshFacets | clearAggregations
    | refreshAggregations =>
    cases h
    rfl

/-- A mutation that fails asks nothing of the registries. -/
theorem registryCall?_of_refused {failure : Failure} (h : m.apply q = .error failure) :
    m.registryCall? = none := by
  cases m with
  | addFilter | replaceFilter | addClause => rfl
  | removeFilters field => cases field <;> cases h
  | addBoost field boost silent =>
    simp only [apply] at h
    split at h
    · cases h
    · rcases bind_eq_error_iff.1 h with hb | ⟨b, -, h⟩
      · simp only [registryCall?, hb]
        rfl
      · cases h
  | addFacet field size silent =>
    rcases bind_eq_error_iff.1 h with hknown | ⟨isKnown, -, h⟩
    · -- what cannot be looked up is no field
      cases hread : Facet.readTerms [("field", field), ("size", size)] with
      | refused causes =>
        simp only [registryCall?, hread]
        rfl
      | ok f =>
        cases Facet.field_of_readTerms hread
        cases hknown
    · split at h
      · cases h
      · rcases bind_eq_error_iff.1 h with hf | ⟨f, -, h⟩
        · simp only [registryCall?, hf]
          rfl
        · cases h
  | addHistogramFacet field interval =>
    rcases bind_eq_error_iff.1 h with hf | ⟨f, -, h⟩
    · simp only [registryCall?, hf]
      rfl
    · cases h
  | removeFacet field =>
    cases field with
    | str name =>
      have h : dropFacet q (.str name) = .error failure := h
      unfold dropFacet at h
      split at h
      · cases h
      · dsimp only at h
        split at h <;> cases h
    | _ => rfl
  | addTermsAggregation | addRangeAggregation | addDateRangeAggregation =>
    rcases bind_eq_error_iff.1 h with ha | ⟨a, -, h⟩
    · simp only [registryCall?, ha]
      rfl
    · cases h
  | selectAggregation field selection =>
    rcases bind_eq_error_iff.1 h with hkey | ⟨key, -, h⟩
    · simp only [registryCall?, hkey]
      rfl
    · split at h <;> cases h
  | unselectAggregation field | removeAggregation field =>
    rcases bind_eq_error_iff.1 h with hkey | ⟨key, -, h⟩
    · simp only [registryCall?, hkey]
      rfl
    · cases h
  | clearFilters | clearBoosts | clearFacets | refreshFacets | clearAggregations
    | refreshAggregations => cases h

end Mutation

/-- An edit that fails is no call. -/
theorem Edit.registryCall?_of_refused {e : Edit} {q : Query} {failure : Failure}
    (h : e.apply q = .error failure) : e.registryCall? = none := by
  cases e with
  | mutation m => exact Mutation.registryCall?_of_refused h
  | addFilter | replaceFilter => rfl

namespace Query

/-- **What an edit does to the registries**: what it asks of them, if anything. -/
theorem registries_after (q : Query) (e : Edit) :
    (q.after e).registries = e.registryCall?.elim q.registries q.registries.after := by
  rw [after_eq]
  cases h : e.apply q with
  | ok c =>
    cases e with
    | mutation m => exact Mutation.registries_of_apply h
    | addFilter | replaceFilter =>
      cases h
      rfl
  | error failure =>
    rw [Edit.registryCall?_of_refused h]
    rfl

/-- **The registries after a run of edits** are those after its calls. -/
theorem registries_afterAll (size : Int) (es : List Edit) :
    ((blank size).afterAll es).registries = Registries.run (es.filterMap Edit.registryCall?) := by
  induction es using List.reverseRecOn with
  | nil => rfl
  | append_singleton es e ih =>
    rw [afterAll_concat, registries_after, ih, List.filterMap_append]
    cases he : e.registryCall? with
    | none => simp [he]
    | some c =>
      have hlast : [e].filterMap Edit.registryCall? = [c] := by
        rw [List.filterMap_cons_some he]
        rfl
      rw [hlast, Registries.run_concat]
      rfl

open RegistryCall in
/-- **The registries of a query follow from its history**, each by its own rule.  A key has the
first aggregation that was added under it since it was last taken off.  The boosts are the first ones
given for their fields, in that order, since they were last cleared.  A field has the last facet that
was put on it whatever was there, and else the first one that was added, since it was last taken
off.  A key has the last selection that was made while an aggregation was registered there, unless it
was taken off since.  Every name stands once, and a call that fails is of no account. -/
theorem registries_follow_history (size : Int) (es : List Edit) :
    let q := (blank size).afterAll es
    let calls := es.filterMap Edit.registryCall?
    (∀ key, q.aggregations.lookup key =
      (since (dropsAggregation key) calls).findSome? (aggregation? key)) ∧
    BoostField.FirstOf ((since clearsBoosts calls).filterMap boost?) q.boosts ∧
    (∀ field, q.facets.lookup field =
      ((since (dropsFacet field) calls).reverse.findSome? (putFacet? field)).or
        ((since (dropsFacet field) calls).findSome? (addedFacet? field))) ∧
    (∀ key selection,
      q.selections.lookup key = some selection ↔ IsLastSelection calls key selection) ∧
    q.registries.Distinct ∧
    ∀ (p p' : Query) (e : Edit) failure, e.perform p = .error failure p' →
      p' = p ∧ e.registryCall? = none := by
  intro q calls
  have hq : q.registries = Registries.run calls := registries_afterAll size es
  refine ⟨fun key => ?_, ?_, fun field => ?_, fun key selection => ?_, ?_, ?_⟩
  · exact (congrArg (·.aggregations.lookup key) hq).trans
      (Registries.lookup_aggregations_run calls key)
  · have hboosts : q.boosts = (Registries.run calls).boosts := congrArg Registries.boosts hq
    rw [hboosts]
    exact Registries.boosts_run calls
  · exact (congrArg (·.facets.lookup field) hq).trans (Registries.lookup_facets_run calls field)
  · have hselections : q.selections = (Registries.run calls).selections :=
      congrArg Registries.selections hq
    rw [hselections]
    exact Registries.lookup_selections_run_iff
  · exact hq ▸ Registries.distinct_run calls
  · intro p p' e failure h
    obtain ⟨rfl, hrefused⟩ := Edit.refused_of_perform h
    exact ⟨rfl, Edit.registryCall?_of_refused hrefused⟩

/-- A run in which an aggregation is added twice, taken off and added anew, in which a selection is
made too early and once more in time, and in which a facet over time takes the place of another. -/
def makerEdits : List Edit := [
  .mutation (.selectAggregation (.str "maker.name") (.obj [("Acme", .bool true)])),
  .mutation (.addTermsAggregation (.str "maker.name") (.int 5) false),
  .mutation (.removeAggregation (.str "maker_name")),
  .mutation (.addRangeAggregation (.str "maker.name") (.str "cheap") false),
  .mutation (.addRangeAggregation (.str "maker.name") (.arr []) true),
  .mutation (.addTermsAggregation (.str "maker_name") .null false),
  .mutation (.addBoost (.str "title") (.int 3) false),
  .mutation (.addBoost (.str "body") .null true),
  .mutation (.addBoost (.str "title") (.str "more") false),
  .mutation (.addHistogramFacet (.str "made") (.str "month")),
  .mutation (.addFacet (.str "made") (.int 5) false),
  .mutation (.selectAggregation (.str "maker_name") (.obj []))]

theorem registries_follow_history_maker :
    ((blank 10).afterAll makerEdits).aggregations.lookup "maker_name" =
        some ⟨"maker.name", .range []⟩ ∧
      ((blank 10).afterAll makerEdits).boosts.map BoostField.field = ["title", "body"] ∧
      ((blank 10).afterAll makerEdits).facets.lookup "made" =
        some ⟨"made", .dateHistogram "month"⟩ ∧
      ((blank 10).afterAll makerEdits).selections.lookup "maker_name" = some (.obj []) ∧
      (Edit.mutation (.addBoost (.str "title") (.str "more") false)).registryCall? = none := by
  have hkey : Aggregation.key "maker.name" = "maker_name" ∧
      Aggregation.key "maker_name" = "maker_name" := by decide +kernel
  have hcalls : makerEdits.filterMap Edit.registryCall? = [
      .select (Aggregation.key "maker.name") (.obj [("Acme", .bool true)]),
      .addAggregation ⟨"maker.name", .terms (some 5)⟩,
      .dropAggregation (Aggregation.key "maker_name"),
      .addAggregation ⟨"maker.name", .range []⟩, .addAggregation ⟨"maker_name", .terms none⟩,
      .addBoost ⟨"title", some (.ofInt 3)⟩, .addBoost ⟨"body", none⟩,
      .putFacet ⟨"made", .dateHistogram "month"⟩, .addFacet ⟨"made", .terms (some 5)⟩] ++
      [.select (Aggregation.key "maker_name") (.obj [])] := rfl
  rw [hkey.1, hkey.2] at hcalls
  obtain ⟨haggregations, hboosts, hfacets, hselections, -, hrefused⟩ :=
    registries_follow_history 10 makerEdits
  rw [hcalls] at haggregations hboosts hfacets hselections
  refine ⟨(haggregations _).trans (by decide +kernel), hboosts.fields.trans (by decide +kernel),
    (hfacets _).trans (by decide +kernel), (hselections _ _).2 ⟨_, [], rfl, ?_, ?_⟩,
    (hrefused (blank 10) _ _ _ rfl).2⟩
  · decide +kernel
  · intro between c rest h
    simp at h

end Query

end FacetedSearch
