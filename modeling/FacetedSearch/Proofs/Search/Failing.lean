import FacetedSearch.Proofs.Search.Compilation

/-!
# Why queries do not compile

Two things can keep a query from being compiled: a filter on dates whose field has no aggregation
that declares a format, and an aggregation under the key that searches over all types add.  The
filters are looked at first, in order.  What the query searches for, how it sorts, marks, counts and
pages has no say in this.

* `Query.Dated` — a filter has the format that it needs.
* `Query.filterClause_succeeds_iff`, `Query.filterClause_eq_error_iff` — one filter.
* `Query.searchBody_eq_error_iff`, `Query.searchBody_succeeds_iff` — the whole query, and the order
  of its failures.
* `Query.searchBody_outcome` — when a query compiles, why it does not, and what has no say in it.
-/

set_option autoImplicit false

namespace FacetedSearch

theorem Aggregation.dateFormat?_eq_some_iff {a : Aggregation} {format : String} :
    a.dateFormat? = some format ↔ ∃ ranges, a.grouping = .dateRange format ranges := by
  unfold Aggregation.dateFormat?
  cases a.grouping <;> simp

namespace Query

/-- A filter on dates has a format when the aggregation under the key of its field is one by ranges
of dates.  Other filters need none. -/
def Dated (q : Query) (f : Filter) : Prop :=
  ∀ bounds, f.constraint = .dateRange bounds →
    ∃ a format ranges, q.aggregations.lookup (Aggregation.key f.field) = some a ∧
      a.grouping = .dateRange format ranges

variable {s : Settings} {q : Query} {f : Filter}

/-- The failure that a filter without its format is reported with. -/
def undated (f : Filter) : Failure :=
  .missingDateFormat (.str f.field) (.str (Aggregation.key f.field))

/-! ## One filter -/

theorem dateFormat_eq_ok_iff {bounds : Bounds} (hf : f.constraint = .dateRange bounds) {x : Json} :
    q.dateFormat f = .ok x ↔
      ∃ a format ranges, q.aggregations.lookup (Aggregation.key f.field) = some a ∧
        a.grouping = .dateRange format ranges ∧ x = .str format := by
  unfold dateFormat
  rw [hf]
  dsimp only
  constructor
  · intro h
    split at h
    · rename_i format hformat
      cases h
      obtain ⟨a, ha, hdeclared⟩ := Option.bind_eq_some_iff.1 hformat
      obtain ⟨ranges, hgrouping⟩ := Aggregation.dateFormat?_eq_some_iff.1 hdeclared
      exact ⟨a, format, ranges, ha, hgrouping, rfl⟩
    · cases h
  · rintro ⟨a, format, ranges, ha, hgrouping, rfl⟩
    have hdeclared := Aggregation.dateFormat?_eq_some_iff.2 ⟨ranges, hgrouping⟩
    rw [Option.bind_eq_some_iff.2 ⟨a, ha, hdeclared⟩]

theorem dateFormat_eq_ok_or_error (q : Query) (f : Filter) :
    (∃ x, q.dateFormat f = .ok x) ∨ q.dateFormat f = .error (undated f) := by
  unfold dateFormat
  split
  · split
    · exact .inl ⟨_, rfl⟩
    · exact .inr rfl
  · exact .inl ⟨_, rfl⟩

theorem dateFormat_succeeds_iff : (∃ x, q.dateFormat f = .ok x) ↔ q.Dated f := by
  constructor
  · rintro ⟨x, hx⟩ bounds hf
    obtain ⟨a, format, ranges, ha, hgrouping, -⟩ := (dateFormat_eq_ok_iff hf).1 hx
    exact ⟨a, format, ranges, ha, hgrouping⟩
  · intro h
    cases hf : f.constraint with
    | dateRange bounds =>
      obtain ⟨a, format, ranges, ha, hgrouping⟩ := h bounds hf
      exact ⟨_, (dateFormat_eq_ok_iff hf).2 ⟨a, format, ranges, ha, hgrouping, rfl⟩⟩
    | _ =>
      unfold dateFormat
      rw [hf]
      exact ⟨_, rfl⟩

theorem filterClause_succeeds_iff : (∃ c, q.filterClause f = .ok c) ↔ q.Dated f := by
  rw [← dateFormat_succeeds_iff]
  unfold filterClause
  cases q.dateFormat f <;> simp [Except.map]

theorem filterClause_eq_error_iff {e : Failure} :
    q.filterClause f = .error e ↔ ¬ q.Dated f ∧ e = undated f := by
  rw [← dateFormat_succeeds_iff]
  unfold filterClause
  rcases q.dateFormat_eq_ok_or_error f with ⟨x, hx⟩ | hx
  · simp [hx, Except.map]
  · simp [hx, Except.map, eq_comm]

/-! ## The whole query -/

/-- The clauses of filters fail with the first filter that has no format. -/
theorem filterClauses_eq_error_iff {fs : List Filter} {e : Failure} :
    fs.mapM q.filterClause = .error e ↔
      ∃ before f after, fs = before ++ f :: after ∧ (∀ g ∈ before, q.Dated g) ∧ ¬ q.Dated f ∧
        e = undated f := by
  rw [mapM_eq_error_iff]
  simp only [filterClause_succeeds_iff, filterClause_eq_error_iff]

theorem filterClauses_succeed_iff {fs : List Filter} :
    (∃ cs, fs.mapM q.filterClause = .ok cs) ↔ ∀ f ∈ fs, q.Dated f := by
  constructor
  · rintro ⟨cs, hcs⟩
    exact forall_mem_of_forall₂ (mapM_eq_ok_iff.1 hcs) fun f c hc =>
      filterClause_succeeds_iff.1 ⟨c, hc⟩
  · intro h
    cases hcs : fs.mapM q.filterClause with
    | ok cs => exact ⟨cs, rfl⟩
    | error e =>
      obtain ⟨before, f, after, rfl, -, hundated, -⟩ := filterClauses_eq_error_iff.1 hcs
      exact absurd (h f (by simp)) hundated

theorem checkKeys_eq_error_iff {as : List (String × Aggregation)} {mode : Mode} {e : Failure} :
    Aggregation.checkKeys (mode == .allTypes) as = .error e ↔
      (mode = .allTypes ∧ Members.has Aggregation.topDocsKey as) ∧
        e = .aggregationKeyCollision (.str Aggregation.topDocsKey) := by
  unfold Aggregation.checkKeys
  constructor
  · intro h
    split at h
    · rename_i hcollides
      cases h
      simpa using hcollides
    · cases h
  · rintro ⟨⟨rfl, hhas⟩, rfl⟩
    simp [hhas]

/-- **Why a query does not compile.**  The first filter that has no format is reported before the
key that is taken, and nothing else is ever reported. -/
theorem searchBody_eq_error_iff {e : Failure} :
    q.searchBody s = .error e ↔
      (∃ before f after, q.filters = before ++ f :: after ∧ (∀ g ∈ before, q.Dated g) ∧
        ¬ q.Dated f ∧ e = undated f) ∨
      ((∀ f ∈ q.filters, q.Dated f) ∧
        (q.mode = .allTypes ∧ Members.has Aggregation.topDocsKey q.aggregations) ∧
        e = .aggregationKeyCollision (.str Aggregation.topDocsKey)) := by
  rw [searchBody_eq, bind_eq_error_iff, filterClauses_eq_error_iff, ← filterClauses_succeed_iff]
  refine or_congr_right ?_
  rw [← exists_and_right]
  refine exists_congr fun cs => and_congr_right fun _ => ?_
  rw [← checkKeys_eq_error_iff, bind_eq_error_iff]
  constructor
  · rintro (h | ⟨_, -, h⟩)
    · exact h
    · cases h
  · exact .inl

/-- A query compiles when all its filters have formats and the key that is taken is not needed. -/
theorem searchBody_succeeds_iff :
    (∃ b, q.searchBody s = .ok b) ↔
      (∀ f ∈ q.filters, q.Dated f) ∧
        ¬ (q.mode = .allTypes ∧ Members.has Aggregation.topDocsKey q.aggregations) := by
  constructor
  · rintro ⟨b, hb⟩
    obtain ⟨cs, hcs, hkeys, -⟩ := searchBody_eq_ok_iff.1 hb
    refine ⟨filterClauses_succeed_iff.1 ⟨cs, hcs⟩, fun hcollides => ?_⟩
    rw [checkKeys_eq_error_iff.2 ⟨hcollides, rfl⟩] at hkeys
    cases hkeys
  · rintro ⟨hdated, hfree⟩
    cases hbody : q.searchBody s with
    | ok b => exact ⟨b, rfl⟩
    | error e =>
      rcases searchBody_eq_error_iff.1 hbody with ⟨_, f, _, hf, -, hundated, -⟩ | ⟨-, h, -⟩
      · exact absurd (hdated f (by simp [hf])) hundated
      · exact absurd h hfree

/-- **When a query compiles, and why it does not.**  It fails with the first filter on dates for
which no aggregation by ranges of dates is registered under the key of its field, whatever else is
wrong with it.  Otherwise it fails when it searches over all types and the key of the best hits is
taken.  Otherwise it has a body.  Free text, identifiers, boosts, demands, selections, facets, order,
marks, paging and the settings have no say in which of these it is. -/
theorem searchBody_outcome (s : Settings) (q : Query) :
    (∀ e, q.searchBody s = .error e ↔
      (∃ before f after, q.filters = before ++ f :: after ∧ (∀ g ∈ before, q.Dated g) ∧
        ¬ q.Dated f ∧
        e = .missingDateFormat (.str f.field) (.str (Aggregation.key f.field))) ∨
      ((∀ f ∈ q.filters, q.Dated f) ∧
        (q.mode = .allTypes ∧ Members.has Aggregation.topDocsKey q.aggregations) ∧
        e = .aggregationKeyCollision (.str Aggregation.topDocsKey))) ∧
    ((∃ b, q.searchBody s = .ok b) ↔
      (∀ f ∈ q.filters, q.Dated f) ∧
        ¬ (q.mode = .allTypes ∧ Members.has Aggregation.topDocsKey q.aggregations)) ∧
    ∀ s' text ids boosts clauses selections facets sort highlights size start e,
      ({ q with text, ids, boosts, clauses, selections, facets, sort, highlights, size, start
        }).searchBody s' = .error e ↔ q.searchBody s = .error e := by
  refine ⟨fun e => searchBody_eq_error_iff, searchBody_succeeds_iff, ?_⟩
  -- the failures are told by the filters, the aggregations and the mode alone
  intro s' text ids boosts clauses selections facets sort highlights size start e
  rw [searchBody_eq_error_iff, searchBody_eq_error_iff]
  rfl

end Query

end FacetedSearch
