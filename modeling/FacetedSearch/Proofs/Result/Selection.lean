import FacetedSearch.Proofs.Json.Equality
import FacetedSearch.Proofs.Result.Mapping

/-!
# Which buckets are selected

A bucket is selected by the filters in force, and by nothing that the engine says about it.  The
field that an aggregation runs over is the one of the aggregation asked for under its name; where
none was asked for it is read off the name.

* `Query.fieldBehind` — the field that an aggregation of a result runs over.
* `Query.SelectsTerm` — the query has a term filter for a value of a field.
* `Query.IsLastOn` — the filter in force on a field.
* `Query.mapResponse_selects` — the selected buckets, and the selection of an aggregation.
-/

set_option autoImplicit false

namespace FacetedSearch

namespace Query

/-- The field that an aggregation of a result runs over. -/
def fieldBehind (q : Query) (key : String) : String :=
  match q.aggregations.lookup key with
  | some a => a.field
  | none => if key = "top_docs" then "_type" else key.map fun c => if c = '_' then '.' else c

/-- There is a term filter on the field, negated or not, whose term is the same as the value. -/
def SelectsTerm (q : Query) (field : String) (x : Json) : Prop :=
  ∃ f ∈ q.filters, f.field = field ∧ ∃ term, f.constraint = .term term ∧ x.Equal term

/-- The filter is on the field, and no later one is. -/
def IsLastOn (q : Query) (field : String) (f : Filter) : Prop :=
  ∃ before after, q.filters = before ++ f :: after ∧ f.field = field ∧ ∀ g ∈ after, g.field ≠ field

variable {q : Query} {field : String}

theorem mem_termsOn_iff {term : Json} :
    term ∈ Mapping.termsOn q field ↔
      ∃ f ∈ q.filters, f.field = field ∧ f.constraint = .term term := by
  unfold Mapping.termsOn
  rw [List.mem_filterMap]
  refine exists_congr fun f => and_congr_right fun _ => ?_
  cases f.constraint with
  | term x =>
    by_cases hfield : f.field = field <;> simp [hfield]
  | terms | range | dateRange | geoDistance | docType | present | absent => simp

/-- A bucket is selected by a term filter for its key. -/
theorem selectIn_selected_iff {b : Bucket} :
    (Mapping.selectIn (Mapping.termsOn q field) b).selected = true ↔ q.SelectsTerm field b.key := by
  unfold Mapping.selectIn SelectsTerm
  rw [List.any_eq_true]
  constructor
  · rintro ⟨term, hterm, hsame⟩
    obtain ⟨f, hf, hfield, hconstraint⟩ := mem_termsOn_iff.1 hterm
    exact ⟨f, hf, hfield, term, hconstraint, (Json.same_eq_true_iff _ _).1 hsame⟩
  · rintro ⟨f, hf, hfield, term, hconstraint, hequal⟩
    exact ⟨term, mem_termsOn_iff.2 ⟨f, hf, hfield, hconstraint⟩,
      (Json.same_eq_true_iff _ _).2 hequal⟩

theorem lastFilter?_eq_some_iff {f : Filter} :
    q.lastFilter? field = some f ↔ q.IsLastOn field f := by
  unfold lastFilter? IsLastOn
  -- the last one is the first one from behind
  rw [← List.head?_reverse, ← List.filter_reverse, List.head?_filter,
    List.find?_eq_some_iff_append]
  simp only [beq_iff_eq, List.reverse_eq_append_iff, List.reverse_cons, List.append_assoc,
    List.singleton_append, Bool.not_eq_true', beq_eq_false_iff_ne]
  constructor
  · rintro ⟨hfield, after, before, hfilters, hafter⟩
    exact ⟨before.reverse, after.reverse, hfilters, hfield, by simpa using hafter⟩
  · rintro ⟨before, after, hfilters, hfield, hafter⟩
    exact ⟨hfield, after.reverse, before.reverse, by simpa using hfilters, by simpa using hafter⟩

theorem lastFilter?_eq_none_iff :
    q.lastFilter? field = none ↔ ∀ f ∈ q.filters, f.field ≠ field := by
  unfold lastFilter?
  rw [List.getLast?_eq_none_iff, List.filter_eq_nil_iff]
  simp only [beq_iff_eq]

/-- Whatever its buckets, an aggregation is found to run over the field behind its key. -/
theorem fst_of_fieldAndKind {key kind : String} {buckets : Json}
    (h : Mapping.fieldAndKind q key buckets = .ok (field, kind)) : field = q.fieldBehind key := by
  unfold Mapping.fieldAndKind Aggregation.topDocsKey at h
  unfold fieldBehind
  cases ha : q.aggregations.lookup key with
  | some a =>
    rw [ha] at h
    cases h
    rfl
  | none =>
    rw [ha] at h
    dsimp only at h ⊢
    by_cases hkey : key = "top_docs"
    · rw [if_pos hkey] at h ⊢
      cases h
      rfl
    · rw [if_neg hkey] at h ⊢
      obtain ⟨_, -, hpair⟩ := map_eq_ok_iff.1 h
      cases hpair
      rfl

/-- What the filters in force make of an aggregation that the engine sent under a key. -/
structure Selects (q : Query) (key : String) (raw : Json) (a : AggregationResult) : Prop where
  buckets : List.Forall₂
    (fun x b => b.selected = true ↔
      q.SelectsTerm (q.fieldBehind key) ((Engine.part? "key" x).getD .null))
    (Engine.listed "buckets" raw) a.buckets
  selected : ∀ f, a.selected = some f ↔ q.IsLastOn (q.fieldBehind key) f
  unselected : a.selected = none ↔ ∀ f ∈ q.filters, f.field ≠ q.fieldBehind key

theorem selects_of_aggregation {key : String} {raw : Json} {a : AggregationResult}
    (h : Mapping.aggregation q key raw = .ok a) : q.Selects key raw a := by
  obtain ⟨ms, rfl, -, hkind, hbuckets, -, hselected, -⟩ := Mapping.aggregation_eq_ok h
  have hfield := fst_of_fieldAndKind hkind
  rw [hfield] at hbuckets hselected
  refine ⟨?_, fun f => ?_, ?_⟩
  · refine (Mapping.selectBuckets_eq_ok_iff.1 hbuckets).imp ?_
    rintro x b ⟨ns, c, rfl, hread, rfl⟩
    rw [selectIn_selected_iff, (Bucket.read_eq_ok_iff.1 hread).1]
    rfl
  · rw [hselected, lastFilter?_eq_some_iff]
  · rw [hselected, lastFilter?_eq_none_iff]

/-- Any bucket of an aggregation is selected by a term filter for its key. -/
theorem selected_iff_of_mem {key : String} {raw : Json} {a : AggregationResult}
    (h : Mapping.aggregation q key raw = .ok a) {b : Bucket} (hb : b ∈ a.buckets) :
    b.selected = true ↔ q.SelectsTerm a.id b.key := by
  obtain ⟨_, _, _, _, hbuckets, _⟩ := Mapping.aggregation_eq_ok h
  obtain ⟨_, _, _, _, _, _, rfl⟩ :=
    exists_of_mem_of_forall₂ (Mapping.selectBuckets_eq_ok_iff.1 hbuckets) hb
  exact selectIn_selected_iff

/-- **Buckets are selected by the filters in force alone.**  A bucket of a result is selected if and
only if the query has a term filter on the field of its aggregation for the key that the engine gave
to it, and an aggregation shows the filter in force on its field. -/
theorem mapResponse_selects {response : Json} {r : SearchResult}
    (h : q.mapResponse response = .ok r) :
    List.Forall₂ (fun m a => a.1 = m.1 ∧ q.Selects m.1 m.2 a.2)
      (Engine.named "aggregations" response) r.aggregations :=
  (mapResponse_eq_ok h).aggregations.imp fun _ _ ha => ⟨ha.1, selects_of_aggregation ha.2⟩

theorem mapResponse_selects_color :
    let q : Query := { blank 10 with
      filters := [⟨"color", false, .term (.bool true)⟩, ⟨"color", true, .present⟩]
      aggregations := [("color", ⟨"color", .terms none⟩)] }
    let response : Json := .obj [("aggregations", .obj [("color", .obj [("buckets", .arr [
      .obj [("key", .int 1), ("doc_count", .int 2)],
      .obj [("key", .str "red"), ("selected", .bool true)]])])])]
    ∃ r, q.mapResponse response = .ok r ∧
      r.aggregations.map (fun a => a.2.buckets.map Bucket.selected) = [[true, false]] ∧
      List.Forall₂ (fun m a => a.1 = m.1 ∧ q.Selects m.1 m.2 a.2)
        (Engine.named "aggregations" response) r.aggregations := by
  intro q response
  have hresult : q.mapResponse response = .ok _ := rfl
  exact ⟨_, hresult, rfl, mapResponse_selects hresult⟩

end Query

end FacetedSearch
