import FacetedSearch.Proofs.Query.Announcement
import Mathlib.Data.List.Induction
import Mathlib.Data.List.Nodup

/-!
# The filters of a query and their history

Some edits put a filter in, some take filters off, and some do both: a filter that is put in place
of others takes off all that are on its field.  What is left after a run of edits can be read off the
run, without following the query through it: the filters that were put in and that no later edit took
off.  An edit that fails neither puts in nor takes off.

* `Edit.given?`, `Edit.takesOff` — what an edit does to filters.
* `Query.surviving` — what a run of edits leaves of the filters that it puts in.
* `Query.filters_after`, `Query.filters_afterAll` — the filters after an edit, and after a run.
* `Query.IsLatest` — the latest filter on a field, told by the run.
* `Query.filters_follow_history` — the filters of a query and its history.
-/

set_option autoImplicit false

namespace FacetedSearch

/-! ## What an edit does to filters -/

namespace Edit

/-- The filter that an edit puts in, if it is given one. -/
def given? : Edit → Option Filter
  | mutation (.addFilter x _) | mutation (.replaceFilter x) => (Filter.parse x).toOption
  | addFilter f _ | replaceFilter f => some f
  | _ => none

/-- Whether an edit takes off the filters that are on a field. -/
def takesOff (field : String) : Edit → Bool
  | mutation .clearFilters => true
  | mutation (.removeFilters x) => x = .str field
  | mutation (.replaceFilter x) => (Filter.parse x).toOption.any fun f => f.field = field
  | replaceFilter f => f.field = field
  | _ => false

/-- Whether an edit puts a filter beside all others. -/
def addsFilter : Edit → Bool
  | mutation (.addFilter _ _) | addFilter _ _ => true
  | _ => false

/-- Whether an edit puts a filter in place of others. -/
def replacesFilter : Edit → Bool
  | mutation (.replaceFilter _) | replaceFilter _ => true
  | _ => false

/-- Whether an edit has to do with the filters on a field. -/
def concerns (field : String) (e : Edit) : Bool :=
  e.takesOff field || e.given?.any fun f => f.field = field

variable {e : Edit}

theorem given?_of_other (h : e.event? ≠ some .filters) : e.given? = none := by
  cases e with
  | mutation m => cases m <;> first | rfl | exact absurd rfl h
  | addFilter | replaceFilter => exact absurd rfl h

theorem takesOff_of_other (h : e.event? ≠ some .filters) (field : String) :
    e.takesOff field = false := by
  cases e with
  | mutation m => cases m <;> first | rfl | exact absurd rfl h
  | addFilter | replaceFilter => exact absurd rfl h

/-- A filter that is put in place of others takes off those on its field. -/
theorem takesOff_of_given? {f : Filter} (hf : e.given? = some f) (h : e.replacesFilter) :
    e.takesOff f.field := by
  cases e with
  | mutation m =>
    cases m with
    | replaceFilter x =>
      have hx : (Filter.parse x).toOption = some f := hf
      simp [takesOff, hx]
    | _ => cases h
  | addFilter => cases h
  | replaceFilter g =>
    cases hf
    exact decide_eq_true rfl

/-- A filter is put beside all others or in place of some. -/
theorem replacesFilter_of_given? {f : Filter} (hf : e.given? = some f) (h : ¬ e.addsFilter) :
    e.replacesFilter := by
  cases e with
  | mutation m => cases m <;> first | rfl | exact absurd rfl h | cases hf
  | addFilter => exact absurd rfl h
  | replaceFilter => rfl

/-- An edit that fails neither puts in nor takes off. -/
theorem of_refused {q : Query} {failure : Failure} (h : e.apply q = .error failure) :
    e.given? = none ∧ ∀ field, e.takesOff field = false := by
  by_cases hfilters : e.event? = some .filters
  · cases e with
    | mutation m =>
      cases m with
      | addFilter x silent =>
        rcases bind_eq_error_iff.1 h with hx | ⟨f, -, hf⟩
        · exact ⟨by simp only [given?, hx]; rfl, fun _ => rfl⟩
        · cases hf
      | replaceFilter x =>
        rcases bind_eq_error_iff.1 h with hx | ⟨f, -, hf⟩
        · exact ⟨by simp only [given?, hx]; rfl, fun field => by simp only [takesOff, hx]; rfl⟩
        · cases hf
      | removeFilters x => cases x <;> cases h
      | clearFilters => cases h
      | _ => cases hfilters
    | addFilter | replaceFilter => cases h
  · exact ⟨given?_of_other hfilters, takesOff_of_other hfilters⟩

end Edit

namespace Query

/-! ## One edit -/

theorem Changes.filters_eq {q : Query} {e : Edit} {c : Change} (h : q.Changes e c)
    (hother : e.event? ≠ some .filters) : c.query.filters = q.filters := by
  cases h with
  | still => rfl
  | wrote event hevent hframe =>
    refine hframe .filters fun hpart => hother ?_
    rw [hevent]
    cases event <;> cases hpart
    rfl
  | tookOff | selected => rfl

theorem filters_withoutFiltersOn (q : Query) (field : String) :
    (q.withoutFiltersOn field).filters = q.filters.filter fun f => !decide (field = f.field) := by
  refine List.filter_congr fun f _ => ?_
  by_cases hf : f.field = field
  · simp [hf]
  · simp [hf, Ne.symm hf]

/-- What an edit that succeeds makes of the filters. -/
theorem filters_of_apply {q : Query} {e : Edit} {c : Change} (h : e.apply q = .ok c) :
    c.query.filters = (q.filters.filter fun f => !e.takesOff f.field) ++ e.given?.toList := by
  have hadded (fs : List Filter) : fs.filter (fun _ => !false) = fs :=
    List.filter_eq_self.2 fun _ _ => rfl
  by_cases hfilters : e.event? = some .filters
  · cases e with
    | mutation m =>
      cases m with
      | addFilter x silent =>
        obtain ⟨f, hf, h⟩ := bind_eq_ok_iff.1 h
        cases h
        simp only [Edit.takesOff, Edit.given?, hf, hadded]
        rfl
      | replaceFilter x =>
        obtain ⟨f, hf, h⟩ := bind_eq_ok_iff.1 h
        cases h
        simp only [Edit.takesOff, Edit.given?, hf]
        exact congrArg (· ++ [f]) (q.filters_withoutFiltersOn f.field)
      | removeFilters x =>
        cases x with
        | str field =>
          cases h
          simp only [Edit.takesOff, Edit.given?, Json.str.injEq]
          exact (q.filters_withoutFiltersOn field).trans (List.append_nil _).symm
        | _ =>
          cases h
          simp [Edit.takesOff, Edit.given?]
      | clearFilters =>
        cases h
        simp [Edit.takesOff, Edit.given?]
      | _ => cases hfilters
    | addFilter f silent =>
      cases h
      exact congrArg (· ++ [f]) (hadded q.filters).symm
    | replaceFilter f =>
      cases h
      exact congrArg (· ++ [f]) (q.filters_withoutFiltersOn f.field)
  · rw [(Edit.changes_of_apply h).filters_eq hfilters, Edit.given?_of_other hfilters]
    simp [Edit.takesOff_of_other hfilters]

/-- **The filters after an edit**: those that it does not take off, and then the one that it puts
in. -/
theorem filters_after (q : Query) (e : Edit) :
    (q.after e).filters =
      (q.filters.filter fun f => !e.takesOff f.field) ++ e.given?.toList := by
  rw [after_eq]
  cases h : e.apply q with
  | ok c => exact filters_of_apply h
  | error failure =>
    obtain ⟨hgiven, htakes⟩ := Edit.of_refused h
    simp [hgiven, htakes]

/-- The filter in force on a field after an edit. -/
theorem lastFilter?_after (q : Query) (e : Edit) (field : String) :
    (q.after e).lastFilter? field =
      (e.given?.filter fun f => f.field == field).or
        (if e.takesOff field then none else q.lastFilter? field) := by
  have hkept : (q.filters.filter fun f => !e.takesOff f.field).filter (fun f => f.field == field) =
      if e.takesOff field then [] else q.filters.filter fun f => f.field == field := by
    rw [List.filter_filter]
    split
    · next htakes =>
      refine List.filter_eq_nil_iff.2 fun f _ hf => ?_
      simp only [Bool.and_eq_true, beq_iff_eq, Bool.not_eq_true'] at hf
      rw [hf.1, htakes] at hf
      cases hf.2
    · next htakes =>
      refine List.filter_congr fun f _ => ?_
      by_cases hf : f.field = field <;> simp [hf, htakes]
  unfold lastFilter?
  rw [filters_after, List.filter_append, List.getLast?_append, hkept]
  congr 1
  · cases e.given? with
    | none => rfl
    | some f => by_cases hf : f.field = field <;> simp [Option.filter_some, hf]
  · split <;> rfl

/-- An edit that puts no filter beside others leaves no two filters on one field where there were
none. -/
theorem nodup_fields_after {q : Query} {e : Edit} (h : ¬ e.addsFilter)
    (hq : (q.filters.map Filter.field).Nodup) :
    ((q.after e).filters.map Filter.field).Nodup := by
  rw [filters_after, List.map_append]
  refine List.Nodup.append (hq.sublist (List.filter_sublist.map _)) ?_ ?_
  · cases e.given? <;> simp
  · intro field hkept hgiven
    obtain ⟨g, hg, rfl⟩ := List.mem_map.1 hkept
    obtain ⟨f, hf, hfield⟩ := List.mem_map.1 hgiven
    have hf : e.given? = some f := by simpa using hf
    have htakes := Edit.takesOff_of_given? hf (Edit.replacesFilter_of_given? hf h)
    rw [hfield] at htakes
    simp [htakes] at hg

/-! ## Runs of edits -/

/-- What a run of edits leaves of the filters that it puts in: those that no later edit takes
off. -/
def surviving : List Edit → List Filter
  | [] => []
  | e :: es =>
    (e.given?.filter fun f => es.all fun later => !later.takesOff f.field).toList ++ surviving es

/-- **The filters after a run**: those from before that no edit takes off, and then those that survive
of the ones put in. -/
theorem filters_afterAll (q : Query) (es : List Edit) :
    (q.afterAll es).filters =
      (q.filters.filter fun f => es.all fun e => !e.takesOff f.field) ++ surviving es := by
  -- the first edit leaves a query from which the rest of the run begins
  induction es generalizing q with
  | nil => simp [afterAll, surviving]
  | cons e es ih =>
    show ((q.after e).afterAll es).filters = _
    rw [ih, filters_after, List.filter_append, List.filter_filter, List.append_assoc]
    congr 1
    · refine List.filter_congr fun f _ => ?_
      rw [List.all_cons, Bool.and_comm]
    · rw [surviving]
      congr 1
      cases e.given? with
      | none => rfl
      | some f =>
        rw [Option.filter_some, Option.toList_some, List.filter_singleton]
        cases es.all fun e => !e.takesOff f.field <;> rfl

/-- The filter was put on the field by an edit of the run, and no later edit has to do with the
filters on that field. -/
def IsLatest (es : List Edit) (field : String) (f : Filter) : Prop :=
  ∃ before e after, es = before ++ e :: after ∧ e.given? = some f ∧ f.field = field ∧
    ∀ later ∈ after, ¬ later.concerns field

theorem not_isLatest_nil (field : String) (f : Filter) : ¬ IsLatest [] field f := by
  rintro ⟨before, e, after, h, -⟩
  simp at h

/-- One more edit has the last word, if it has to do with the field. -/
theorem isLatest_concat {es : List Edit} {e : Edit} {field : String} {f : Filter} :
    IsLatest (es ++ [e]) field f ↔
      e.given? = some f ∧ f.field = field ∨ ¬ e.concerns field ∧ IsLatest es field f := by
  constructor
  · rintro ⟨before, e', after, hes, hf, hfield, hafter⟩
    rcases List.eq_nil_or_concat after with rfl | ⟨after, last, rfl⟩
    · obtain ⟨rfl, hlast⟩ := List.append_inj' hes rfl
      cases hlast
      exact .inl ⟨hf, hfield⟩
    · rw [List.concat_eq_append] at hes hafter
      rw [← List.cons_append, ← List.append_assoc] at hes
      obtain ⟨rfl, hlast⟩ := List.append_inj' hes rfl
      cases hlast
      rw [List.forall_mem_append] at hafter
      exact .inr ⟨hafter.2 e List.mem_cons_self, before, e', after, rfl, hf, hfield, hafter.1⟩
  · rintro (⟨hf, hfield⟩ | ⟨he, before, e', after, rfl, hf, hfield, hafter⟩)
    · exact ⟨es, e, [], rfl, hf, hfield, fun _ h => absurd h List.not_mem_nil⟩
    · refine ⟨before, e', after ++ [e], by simp, hf, hfield, ?_⟩
      rw [List.forall_mem_append, List.forall_mem_singleton]
      exact ⟨hafter, he⟩

theorem afterAll_concat (q : Query) (es : List Edit) (e : Edit) :
    q.afterAll (es ++ [e]) = (q.afterAll es).after e := List.foldl_append ..

/-- **The filter in force on a field** is the latest one of the run. -/
theorem lastFilter?_afterAll_iff (size : Int) (es : List Edit) {field : String} {f : Filter} :
    ((blank size).afterAll es).lastFilter? field = some f ↔ IsLatest es field f := by
  -- the last edit either has to do with the field or leaves what the rest of the run made of it
  induction es using List.reverseRecOn with
  | nil => exact ⟨nofun, fun h => absurd h (not_isLatest_nil field f)⟩
  | append_singleton es e ih =>
    rw [afterAll_concat, lastFilter?_after, isLatest_concat, ← ih, Option.or_eq_some_iff]
    unfold Edit.concerns
    cases he : e.given? with
    | none => cases e.takesOff field <;> simp
    | some g =>
      by_cases hg : g.field = field
      · have hlast : g = f ↔ g = f ∧ f.field = field :=
          ⟨fun h => ⟨h, h ▸ hg⟩, And.left⟩
        simpa [Option.filter_some, hg] using hlast
      · have hother : ¬ (g = f ∧ f.field = field) := by
          rintro ⟨rfl, h⟩
          exact hg h
        simp only [Option.filter_some, beq_iff_eq, hg, Option.some.injEq, hother]
        cases e.takesOff field <;> simp [hg]

/-- What keeps filters on one field apart keeps them apart along a run. -/
theorem nodup_fields_afterAll {q : Query} {es : List Edit} (h : ∀ e ∈ es, ¬ e.addsFilter)
    (hq : (q.filters.map Filter.field).Nodup) :
    ((q.afterAll es).filters.map Filter.field).Nodup := by
  induction es generalizing q with
  | nil => exact hq
  | cons e es ih =>
    obtain ⟨he, hes⟩ := List.forall_mem_cons.1 h
    exact ih hes (nodup_fields_after he hq)

/-- **The filters of a query follow from its history.**  They are the filters that were put in and
that nothing took off later, in the order in which they were put in.  The filter in force on a field
is the latest one; what is put in place of others is the last filter and alone on its field; and as
long as every filter is put in place of others, no field has two.  A call that fails is of no account,
whatever it was to do. -/
theorem filters_follow_history (size : Int) (es : List Edit) :
    let q := (blank size).afterAll es
    q.filters = surviving es ∧
      (∀ field f, q.lastFilter? field = some f ↔ IsLatest es field f) ∧
      (∀ (e : Edit) f, e.replacesFilter → e.given? = some f →
        ∃ others, (q.after e).filters = others ++ [f] ∧ ∀ g ∈ others, g.field ≠ f.field) ∧
      ((∀ e ∈ es, ¬ e.addsFilter) → (q.filters.map Filter.field).Nodup) ∧
      ∀ (p p' : Query) (e : Edit) failure, e.perform p = .error failure p' →
        p' = p ∧ e.given? = none ∧ ∀ field, ¬ e.takesOff field := by
  intro q
  refine ⟨?_, fun field f => lastFilter?_afterAll_iff size es, ?_, ?_, ?_⟩
  · exact filters_afterAll (blank size) es
  · intro e f he hf
    refine ⟨q.filters.filter fun g => !e.takesOff g.field, ?_, fun g hg hfield => ?_⟩
    · rw [filters_after, hf]
      rfl
    · have htakes := Edit.takesOff_of_given? hf he
      simp [hfield, htakes] at hg
  · exact fun h => nodup_fields_afterAll h List.nodup_nil
  · intro p p' e failure h
    have hperform : e.perform p = _ := e.realizes_perform p
    cases happly : e.apply p with
    | ok c =>
      rw [h, happly] at hperform
      cases hperform
    | error e' =>
      rw [h, happly] at hperform
      cases hperform
      obtain ⟨hgiven, htakes⟩ := Edit.of_refused happly
      exact ⟨rfl, hgiven, fun field => by simp [htakes field]⟩

/-- A run in which a filter is taken off by its field, one is refused and one has no field, and then a
filter is put in place of two. -/
theorem filters_follow_history_color :
    let es : List Edit := [
      .mutation (.addFilter (.obj [("type", .str "exists"), ("field", .str "size")]) false),
      .mutation (.addFilter (.obj [("type", .str "term"), ("field", .str "color")]) true),
      .mutation (.addFilter (.obj [("type", .str "colour"), ("field", .str "color")]) false),
      .mutation (.replaceFilter (.obj [("type", .str "missing")])),
      .mutation (.removeFilters (.str "size")),
      .addFilter ⟨"color", true, .present⟩ false]
    let e : Edit := .replaceFilter ⟨"color", false, .absent⟩
    let q := (blank 10).afterAll es
    let p := (blank 10).afterAll [e, e]
    q.filters =
        [⟨"color", false, .term (.str "")⟩, ⟨"", false, .absent⟩, ⟨"color", true, .present⟩] ∧
      q.lastFilter? "color" = some ⟨"color", true, .present⟩ ∧
      (∃ others, (q.after e).filters = others ++ [⟨"color", false, .absent⟩] ∧
        ∀ g ∈ others, g.field ≠ "color") ∧
      (p.filters.map Filter.field).Nodup := by
  intro es e q p
  obtain ⟨hfilters, hlatest, hreplaced, -, -⟩ := filters_follow_history 10 es
  obtain ⟨-, -, -, hsingle, -⟩ := filters_follow_history 10 [e, e]
  refine ⟨hfilters.trans (by decide +kernel), ?_, ?_, ?_⟩
  · refine (hlatest _ _).2 ⟨es.dropLast, _, [], rfl, rfl, rfl, ?_⟩
    exact fun _ h => absurd h List.not_mem_nil
  · exact hreplaced e _ rfl rfl
  · exact hsingle (by decide)

end Query

end FacetedSearch
