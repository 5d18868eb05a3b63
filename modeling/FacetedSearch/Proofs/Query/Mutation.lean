import FacetedSearch.Proofs.Outcome
import FacetedSearch.Proofs.Validation.Reading
import FacetedSearch.Query.Live
import FacetedSearch.Query.Mutation

/-!
# What can be done to a query

A mutation checks its arguments at different moments, some before and some after it has looked at
what is already there.  Whenever it fails, it has not written yet: step by step it comes to what it
is to do as a whole.  What it then does to a query is one of a few small moves.  A filter that was
made before can be added as it is, which is a move too, and a run of all these is a run of moves.

* `QueryM.realizes_perform` — a mutation that fails has not written yet.
* `Query.Moves` — the moves that mutations are made of, with what they presuppose.
* `Edit` — a mutation, or a filter that is added as it is.
* `Query.after`, `Query.afterAll` — a query after an edit, and after a run of them.
* `Query.moves_after` — every edit, failing or not, is a move.
* `LiveQuery.Becomes`, `LiveQuery.Reached` — what becomes of a live query, which can also be
  assigned to and updated.
-/

set_option autoImplicit false

namespace FacetedSearch

/-! ## Step by step -/

namespace QueryM

variable {α : Type} {q : Query}

/-- Done step by step, an action comes to what it is to do as a whole: it gives the changed query
and what there is to tell, or it fails and leaves the query as it was. -/
def Realizes (act : QueryM Outcome) (q : Query) (whole : Except Failure Change) : Prop :=
  act q =
    match whole with
    | .ok c => .ok ⟨c.announced, c.filter⟩ c.query
    | .error e => .error e q

/-- A check, as long as nothing was written. -/
theorem Realizes.check (x : Except Failure α) {f : α → QueryM Outcome}
    {g : α → Except Failure Change} (h : ∀ y, Realizes (f y) q (g y)) :
    Realizes (QueryM.check x >>= f) q (x >>= g) := by
  cases x with
  | ok y => exact h y
  | error e => rfl

/-- A look at the query. -/
theorem Realizes.look {f : Query → QueryM Outcome} {whole : Except Failure Change}
    (h : Realizes (f q) q whole) : Realizes (get >>= f) q whole := h

theorem Realizes.ite {P : Prop} [Decidable P] {act act' : QueryM Outcome}
    {whole whole' : Except Failure Change} (h : Realizes act q whole)
    (h' : Realizes act' q whole') :
    Realizes (if P then act else act') q (if P then whole else whole') := by
  split
  · exact h
  · exact h'

theorem realizes_addAggregation (a : Aggregation) (silent : Bool) :
    Realizes (addAggregation a silent) q (.ok (q.addAggregation a silent)) := by
  unfold addAggregation Query.addAggregation
  refine .look ?_
  dsimp only
  split <;> rfl

theorem realizes_dropFacet (field : Json) :
    Realizes (dropFacet field) q (Mutation.dropFacet q field) := by
  unfold dropFacet Mutation.dropFacet
  refine .look (.ite rfl ?_)
  split
  · exact .ite rfl rfl
  · exact .ite rfl rfl

/-- **A mutation that fails has not written yet.**  All its checks come before its first write,
whatever it looks at in between. -/
theorem realizes_perform (m : Mutation) (q : Query) : Realizes m.perform q (m.apply q) := by
  cases m with
  | addFilter filter silent => exact .check _ fun f => rfl
  | replaceFilter filter => exact .check _ fun f => rfl
  | removeFilters field => cases field <;> rfl
  | addBoost field boost silent => exact .look (.ite rfl (.check _ fun b => rfl))
  | addClause occurrence field value => exact .check _ fun occurrence => .check _ fun c => rfl
  | addFacet field size silent =>
    exact .look (.check _ fun isKnown => .ite rfl (.check _ fun f => rfl))
  | addHistogramFacet field interval => exact .check _ fun f => rfl
  | removeFacet field => exact realizes_dropFacet field
  | addTermsAggregation field size silent =>
    exact .check _ fun a => realizes_addAggregation a silent
  | addRangeAggregation field ranges silent =>
    exact .check _ fun a => realizes_addAggregation a silent
  | addDateRangeAggregation field format ranges silent =>
    exact .check _ fun a => realizes_addAggregation a silent
  | selectAggregation field selection =>
    refine .check _ fun key => .look ?_
    dsimp only
    split <;> rfl
  | unselectAggregation field => exact .check _ fun key => rfl
  | removeAggregation field => exact .check _ fun key => rfl
  | clearFilters | clearBoosts | clearFacets | refreshFacets | clearAggregations
    | refreshAggregations => rfl

end QueryM

/-! ## Moves -/

namespace Query

/-- What a mutation can do to a query. -/
inductive Moves (q : Query) : Query → Prop where
  | still : Moves q q
  | filters (fs : List Filter) : Moves q { q with filters := fs }
  | addBoost (b : BoostField) (new : ∀ c ∈ q.boosts, c.field ≠ b.field) :
      Moves q { q with boosts := q.boosts ++ [b] }
  | clearBoosts : Moves q { q with boosts := [] }
  | addClause (occurrence : Occurrence) (c : BoolClause) :
      Moves q { q with clauses := q.clauses.push occurrence c }
  | putFacet (f : Facet) : Moves q { q with facets := Members.insert f.field f q.facets }
  | dropFacet (field : String) : Moves q { q with facets := Members.erase field q.facets }
  | clearFacets : Moves q { q with facets := [] }
  | addAggregation (a : Aggregation)
      (new : ¬ Members.has (Aggregation.key a.field) q.aggregations) :
      Moves q { q with
        aggregations := Members.insert (Aggregation.key a.field) a q.aggregations }
  | select (key : String) (selection : Json) (registered : Members.has key q.aggregations) :
      Moves q { q with selections := Members.insert key selection q.selections }
  | unselect (key : String) : Moves q { q with selections := Members.erase key q.selections }
  | dropAggregation (key : String) :
      Moves q { q with
        aggregations := Members.erase key q.aggregations
        selections := Members.erase key q.selections }
  | clearAggregations : Moves q { q with aggregations := [], selections := [] }

/-- Mutations do not touch the paging. -/
theorem Moves.size_eq {q p : Query} (h : q.Moves p) : p.size = q.size := by
  cases h <;> rfl

theorem Moves.start_eq {q p : Query} (h : q.Moves p) : p.start = q.start := by
  cases h <;> rfl

/-- Mutations do not touch the order of the records. -/
theorem Moves.sort_eq {q p : Query} (h : q.Moves p) : p.sort = q.sort := by
  cases h <;> rfl

end Query

/-- A boost is for the field that was given. -/
theorem BoostField.field_of_readMembers {field boost : Json} {b : BoostField}
    (h : BoostField.readMembers [("field", field), ("boost", boost)] = .ok b) :
    field = .str b.field := by
  obtain ⟨_, _, hfield, -, rfl⟩ := Checked.seq_eq_ok_iff.1 h
  obtain ⟨name, hname, rfl⟩ := Checked.map_eq_ok_iff.1 hfield
  have hread : Checked.string field = .ok name := Checked.under_eq_ok_iff.1 hname
  cases field <;> cases hread
  rfl

namespace Mutation

open Query

theorem moves_addAggregation (q : Query) (a : Aggregation) (silent : Bool) :
    q.Moves (q.addAggregation a silent).query := by
  unfold Query.addAggregation
  dsimp only
  split
  · exact .still
  · exact .addAggregation a ‹_›

theorem moves_of_dropFacet {q : Query} {field : Json} {c : Change}
    (h : Mutation.dropFacet q field = .ok c) : q.Moves c.query := by
  unfold Mutation.dropFacet at h
  split at h
  · cases h
    exact .still
  · split at h
    · split at h
      · cases h
        exact .dropFacet _
      · cases h
        exact .still
    · split at h
      · cases h
        exact .still
      · cases h

/-- A mutation that succeeds is a move. -/
theorem moves_of_apply {m : Mutation} {q : Query} {c : Change} (h : m.apply q = .ok c) :
    q.Moves c.query := by
  cases m with
  | addFilter filter silent =>
    obtain ⟨f, -, h⟩ := bind_eq_ok_iff.1 h
    cases h
    exact .filters _
  | replaceFilter filter =>
    obtain ⟨f, -, h⟩ := bind_eq_ok_iff.1 h
    cases h
    exact .filters _
  | removeFilters field =>
    cases field with
    | str name =>
      cases h
      exact .filters _
    | _ =>
      cases h
      exact .still
  | clearFilters =>
    cases h
    exact .filters _
  | addBoost field boost silent =>
    simp only [apply] at h
    split at h
    · cases h
      exact .still
    · rename_i hnew
      obtain ⟨b, hb, h⟩ := bind_eq_ok_iff.1 h
      cases h
      cases BoostField.field_of_readMembers (Checked.orFail_eq_ok_iff.1 hb)
      refine .addBoost b fun c hc hsame => hnew ?_
      exact List.any_eq_true.2 ⟨c, hc, by simp [hsame]⟩
  | clearBoosts =>
    cases h
    exact .clearBoosts
  | addClause occurrence field value =>
    obtain ⟨occurrence, -, h⟩ := bind_eq_ok_iff.1 h
    obtain ⟨c, -, h⟩ := bind_eq_ok_iff.1 h
    cases h
    exact .addClause occurrence c
  | addFacet field size silent =>
    obtain ⟨isKnown, -, h⟩ := bind_eq_ok_iff.1 h
    split at h
    · cases h
      exact .still
    · obtain ⟨f, -, h⟩ := bind_eq_ok_iff.1 h
      cases h
      exact .putFacet f
  | addHistogramFacet field interval =>
    obtain ⟨f, -, h⟩ := bind_eq_ok_iff.1 h
    cases h
    exact .putFacet f
  | removeFacet field => exact moves_of_dropFacet h
  | clearFacets =>
    cases h
    exact .clearFacets
  | refreshFacets | refreshAggregations =>
    cases h
    exact .still
  | addTermsAggregation | addRangeAggregation | addDateRangeAggregation =>
    obtain ⟨a, -, h⟩ := bind_eq_ok_iff.1 h
    cases h
    exact moves_addAggregation q a _
  | selectAggregation field selection =>
    obtain ⟨key, -, h⟩ := bind_eq_ok_iff.1 h
    split at h
    · cases h
      exact .select key selection ‹_›
    · cases h
      exact .still
  | unselectAggregation field =>
    obtain ⟨key, -, h⟩ := bind_eq_ok_iff.1 h
    cases h
    exact .unselect key
  | removeAggregation field =>
    obtain ⟨key, -, h⟩ := bind_eq_ok_iff.1 h
    cases h
    exact .dropAggregation key
  | clearAggregations =>
    cases h
    exact .clearAggregations

end Mutation

/-! ## Runs of edits -/

/-- A call that changes a query: a mutation, or one that is given a filter which was made before. -/
inductive Edit where
  | mutation (m : Mutation)
  | addFilter (f : Filter) (silent : Bool)
  | replaceFilter (f : Filter)
  deriving DecidableEq, Repr

/-- How an edit is done. -/
def Edit.perform : Edit → QueryM Outcome
  | mutation m => m.perform
  | addFilter f silent => QueryM.addFilter f silent
  | replaceFilter f => QueryM.replaceFilter f

namespace Query

/-- The query that an edit leaves behind, whether it fails or not. -/
def after (q : Query) (e : Edit) : Query :=
  match e.perform q with
  | .ok _ p => p
  | .error _ p => p

/-- The query that a run of edits leaves behind. -/
def afterAll (q : Query) (es : List Edit) : Query := es.foldl after q

theorem after_mutation (q : Query) (m : Mutation) :
    q.after (.mutation m) =
      match m.apply q with
      | .ok c => c.query
      | .error _ => q := by
  have hperform : (Edit.mutation m).perform q = _ := QueryM.realizes_perform m q
  unfold after
  rw [hperform]
  cases m.apply q <;> rfl

/-- **Every edit is a move**, one that fails being none at all. -/
theorem moves_after (q : Query) (e : Edit) : q.Moves (q.after e) := by
  cases e with
  | mutation m =>
    rw [after_mutation]
    cases h : m.apply q with
    | ok c => exact Mutation.moves_of_apply h
    | error e => exact .still
  | addFilter f silent => exact .filters (q.filters ++ [f])
  | replaceFilter f => exact .filters ((q.withoutFiltersOn f.field).filters ++ [f])

/-- What moves keep, runs of edits keep. -/
theorem afterAll_keeps {P : Query → Prop} (hmove : ∀ {q p : Query}, q.Moves p → P q → P p)
    {q : Query} (h : P q) (es : List Edit) : P (q.afterAll es) := by
  -- an edit leaves a query from which the rest of the run begins
  induction es generalizing q with
  | nil => exact h
  | cons e es ih => exact ih (hmove (q.moves_after e) h)

end Query

/-! ## Live queries -/

namespace LiveQuery

/-- What can become of a live query in one go. -/
inductive Becomes (l : LiveQuery) : LiveQuery → Prop where
  | edited (e : Edit) : Becomes l { l with query := l.query.after e }
  | assigned (a : Attribute) (x : Json) : Becomes l (l.assign a x)
  | updated {l' : LiveQuery} (s : Settings) (updates : Json) (h : l.update s updates = .ok l') :
      Becomes l l'

/-- An update that is applied gives a query that was read. -/
theorem exists_read_of_update {s : Settings} {l l' : LiveQuery} {updates : Json}
    (h : l.update s updates = .ok l') :
    ∃ x q, Query.read s.defaultSize .modelType x = .ok q ∧ l' = ofQuery q := by
  obtain ⟨ms, -, h⟩ := bind_eq_ok_iff.1 h
  obtain ⟨q, hq, h⟩ := bind_eq_ok_iff.1 h
  cases h
  exact ⟨_, q, hq, rfl⟩

/-- What a query that was read can become. -/
inductive Reached : LiveQuery → Prop where
  | read {size : Int} {shape : Validation.Rule} {x : Json} {q : Query}
      (h : Query.read size shape x = .ok q) : Reached (ofQuery q)
  | next {l l' : LiveQuery} (h : Reached l) (hl : l.Becomes l') : Reached l'

end LiveQuery

end FacetedSearch
