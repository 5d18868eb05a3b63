import FacetedSearch.Proofs.Query.Registry
import FacetedSearch.Proofs.Search.Failing

/-!
# The formats of dates

A filter on dates is sent as a range with the format that an aggregation by ranges of dates
declares.  The aggregation is looked up under the key of the filter's field, so it may be on another
field of that key, and a format that is empty is not sent.  Otherwise the filter has its own field's
format.

* `Query.declaredFormat?` — the format that is declared for a field.
* `Bounds.lookup_format` — the format in what is sent of a range.
* `Query.dateFilter_format` — which format the clause of a filter on dates has, and when it is the
  one that is declared for its field.
-/

set_option autoImplicit false

namespace FacetedSearch

/-! ## Ranges that are sent -/

namespace Bounds

theorem lookup_sentBound_of_ne {name key : String} (h : key ≠ name) (x : Json) :
    (sentBound name x).lookup key = none := by
  unfold sentBound
  split
  · rw [Members.lookup_singleton, if_neg h]
  · rfl

theorem lookup_sentFlag_of_ne {name key : String} (h : key ≠ name) (flag : Option Bool) :
    (sentFlag name flag).lookup key = none := by
  cases flag with
  | none => rfl
  | some b => rw [sentFlag, Members.lookup_singleton, if_neg h]

/-- The format that is sent with the bounds of a range, if it is. -/
theorem lookup_format (b : Bounds) (format : String) :
    (b.sent ++ sentFormat (.str format)).lookup "format" =
      if format = "" then none else some (.str format) := by
  have hlower : (sentBound "from" b.lower).lookup "format" = none :=
    lookup_sentBound_of_ne (by decide) b.lower
  have hupper : (sentBound "to" b.upper).lookup "format" = none :=
    lookup_sentBound_of_ne (by decide) b.upper
  have hincludeLower : (sentFlag "include_lower" b.includeLower).lookup "format" = none :=
    lookup_sentFlag_of_ne (by decide) b.includeLower
  have hincludeUpper : (sentFlag "include_upper" b.includeUpper).lookup "format" = none :=
    lookup_sentFlag_of_ne (by decide) b.includeUpper
  unfold sent sentFormat
  simp only [List.lookup_append, hlower, hupper, hincludeLower, hincludeUpper, Option.or_none,
    Option.none_or]
  by_cases hformat : format = ""
  · simp [hformat, Json.isTruthy]
  · simp [hformat, Json.isTruthy]

end Bounds

namespace Query

/-- The format of dates that the aggregation on a field declares, if there is one that does. -/
def declaredFormat? (q : Query) (field : String) : Option String :=
  (q.aggregationOn? field).bind Aggregation.dateFormat?

variable {s : Settings} {q : Query} {b : SearchBody} {f : Filter} {i : Nat}

/-- The clause of a filter stands in the place of the filter. -/
theorem clause_at (hbody : q.searchBody s = .ok b) (hi : q.filters[i]? = some f) :
    ∃ clauses inner c, b.query = .filtered clauses inner ∧ clauses[i]? = some c ∧
      q.filterClause f = .ok c := by
  obtain ⟨clauses, hclauses, -, rfl⟩ := searchBody_eq_ok_iff.1 hbody
  obtain ⟨c, hc, hclause⟩ := getElem?_of_mapM_eq_ok hclauses hi
  have hsome : q.filters.isEmpty = false := by
    cases hfilters : q.filters with
    | nil => simp [hfilters] at hi
    | cons => rfl
  have hquery : (q.assembled s clauses).query =
      .filtered clauses (if q.isMatchAll then none else some (q.core s)) := by
    show q.enclosed s clauses = _
    unfold enclosed
    rw [hsome]
    rfl
  exact ⟨clauses, _, c, hquery, hc, hclause⟩

/-- The clause of a filter on dates has the format that is declared under the key of its field. -/
theorem filterClause_of_dateRange {c : Clause} {bounds : Bounds}
    (hf : f.constraint = .dateRange bounds) (h : q.filterClause f = .ok c) :
    ∃ a format, q.aggregations.lookup (Aggregation.key f.field) = some a ∧
      a.dateFormat? = some format ∧
      c = f.clause (.str format) ∧
      f.leaf (.str format) =
        .range f.field (bounds.sent ++ Bounds.sentFormat (.str format)) := by
  obtain ⟨x, hx, rfl⟩ := map_eq_ok_iff.1 h
  obtain ⟨a, format, ranges, ha, hgrouping, rfl⟩ := (dateFormat_eq_ok_iff hf).1 hx
  refine ⟨a, format, ha, Aggregation.dateFormat?_eq_some_iff.2 ⟨ranges, hgrouping⟩, rfl, ?_⟩
  unfold Filter.leaf
  rw [hf]

/-- **The format of a filter on dates.**  When a query compiles, however it came about, every filter
on dates has a range on its field as its clause, with the format that some aggregation by ranges of
dates declares whose field has the same key, unless that format is empty.  It is the format declared
for the field itself exactly when one is declared for the field itself that is not empty. -/
theorem dateFilter_format (size : Int) (es : List Edit) {bounds : Bounds}
    (hbody : ((blank size).afterAll es).searchBody s = .ok b)
    (hi : ((blank size).afterAll es).filters[i]? = some f)
    (hf : f.constraint = .dateRange bounds) :
    let q := (blank size).afterAll es
    ∃ clauses inner sent field format,
      b.query = .filtered clauses inner ∧
      clauses[i]? = some (if f.negated then .not (.leaf (.range f.field sent))
        else .leaf (.range f.field sent)) ∧
      sent = bounds.sent ++ Bounds.sentFormat (.str format) ∧
      Aggregation.key field = Aggregation.key f.field ∧ q.declaredFormat? field = some format ∧
      sent.lookup "format" = (if format = "" then none else some (.str format)) ∧
      ((∃ own, sent.lookup "format" = some (.str own) ∧ q.declaredFormat? f.field = some own) ↔
        ∃ own, own ≠ "" ∧ q.declaredFormat? f.field = some own) := by
  intro q
  have hq : q.Registered := registered_afterAll size es
  obtain ⟨clauses, inner, c, hquery, hc, hclause⟩ := clause_at hbody hi
  obtain ⟨a, format, ha, hformat, rfl, hleaf⟩ := filterClause_of_dateRange hf hclause
  unfold Filter.clause at hc
  rw [hleaf] at hc
  obtain ⟨hkey, hon⟩ := hq.aggregationOn?_of_lookup ha
  have hdeclared : q.declaredFormat? a.field = some format := by
    rw [declaredFormat?, hon]
    exact hformat
  refine ⟨clauses, inner, _, a.field, format, hquery, hc, rfl, hkey, hdeclared,
    bounds.lookup_format format, ?_⟩
  rw [bounds.lookup_format]
  constructor
  · rintro ⟨own, hsent, hown⟩
    split at hsent
    · cases hsent
    · rename_i hne
      cases hsent
      exact ⟨format, hne, hown⟩
  · rintro ⟨own, hne, hown⟩
    -- what is declared for the field itself is under its key, so it is what was found there
    obtain ⟨a', ha', hformat'⟩ := Option.bind_eq_some_iff.1 hown
    cases (hq.lookup_of_aggregationOn? ha').symm.trans ha
    cases hformat'.symm.trans hformat
    exact ⟨format, if_neg hne, hown⟩

/-- A filter on dates whose field has an aggregation that declares a format. -/
theorem dateFilter_format_made :
    let es : List Edit := [
      .mutation (.addDateRangeAggregation (.str "made") (.str "yyyy") (.arr []) true),
      .addFilter ⟨"made", true, .dateRange ⟨.int 1, .null, some true, none⟩⟩ true]
    let q := (blank 10).afterAll es
    let bounds : Bounds := ⟨.int 1, .null, some true, none⟩
    let f : Filter := ⟨"made", true, .dateRange bounds⟩
    ∃ b, q.searchBody .standard = .ok b ∧ q.filters[0]? = some f ∧
      f.constraint = .dateRange bounds ∧
      ∃ clauses inner sent, b.query = .filtered clauses inner ∧
        clauses[0]? = some (.not (.leaf (.range "made" sent))) ∧
        ∃ own, sent.lookup "format" = some (.str own) ∧ q.declaredFormat? "made" = some own := by
  intro es q bounds f
  have hfilters : q.filters[0]? = some f := by decide +kernel
  have hdeclared : q.declaredFormat? "made" = some "yyyy" := by decide +kernel
  have hcompiles : (q.searchBody .standard).toOption.isSome := by decide +kernel
  obtain ⟨b, hbody⟩ : ∃ b, q.searchBody .standard = .ok b := by
    cases h : q.searchBody .standard with
    | ok b => exact ⟨b, rfl⟩
    | error e =>
      rw [h] at hcompiles
      cases hcompiles
  obtain ⟨clauses, inner, sent, field, format, hquery, hclause, -, -, -, -, hown⟩ :=
    dateFilter_format 10 es hbody hfilters rfl
  exact ⟨b, hbody, hfilters, rfl, clauses, inner, sent, hquery, hclause,
    hown.2 ⟨"yyyy", by decide, hdeclared⟩⟩

/-- A filter on dates whose clause has a format that nothing declares for its field, and one whose
clause lacks the format that is declared for its field. -/
theorem dateFilter_format_misses :
    let bounds : Bounds := ⟨.int 1, .null, none, none⟩
    let other : Query := { blank 10 with
      aggregations := [("made_on", ⟨"made_on", .dateRange "yyyy" []⟩)]
      filters := [⟨"made.on", false, .dateRange bounds⟩] }
    let empty : Query := { blank 10 with
      aggregations := [("made", ⟨"made", .dateRange "" []⟩)]
      filters := [⟨"made", false, .dateRange bounds⟩] }
    let clauseOf := fun (q : Query) =>
      (q.searchBody .standard).toOption.map fun b => b.query.toJson
    (blank 10).afterAll [
        .mutation (.addDateRangeAggregation (.str "made_on") (.str "yyyy") (.arr []) false),
        .addFilter ⟨"made.on", false, .dateRange bounds⟩ false] = other ∧
      other.declaredFormat? "made.on" = none ∧
      clauseOf other = some (.obj [("filtered", .obj [("filter", .obj [("and", .arr [
        .obj [("range", .obj [("made.on",
          .obj [("from", .int 1), ("format", .str "yyyy")])])]])])])]) ∧
      (blank 10).afterAll [
        .mutation (.addDateRangeAggregation (.str "made") (.str "") (.arr []) false),
        .addFilter ⟨"made", false, .dateRange bounds⟩ false] = empty ∧
      empty.declaredFormat? "made" = some "" ∧
      clauseOf empty = some (.obj [("filtered", .obj [("filter", .obj [("and", .arr [
        .obj [("range", .obj [("made", .obj [("from", .int 1)])])]])])])]) := by
  decide +kernel

end Query

end FacetedSearch
