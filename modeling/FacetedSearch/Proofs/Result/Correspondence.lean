import FacetedSearch.Proofs.Result.Selection
import FacetedSearch.Proofs.Search.Compilation
import FacetedSearch.Query.Live

/-!
# What was asked for and what comes back

The body of a search and its result are made from one query, each in its own way.  Here they are held
against each other: what the result says about an aggregation is what the body asked the engine for.

* `Engine.filterList` — the clauses of the filters, as the engine reads them.
* `LiveQuery.selected_iff_mem_filterList` — the selected buckets are those that a term clause of the
  body names, be it negated or not.
* `LiveQuery.aggregation_as_asked` — the kind and the field of an aggregation are those that it was
  asked for with, whatever its buckets are.
-/

set_option autoImplicit false

namespace FacetedSearch

namespace Engine

/-- The clauses of the filters in a search body, as the engine reads them. -/
def filterList (body : Json) : List Json :=
  match ((part? "query" body).bind (part? "filtered")).bind (part? "filter") with
  | some filter => listed "and" filter
  | none => []

/-- The clause that asks a field for a value. -/
def termClause (field : String) (x : Json) : Json := .obj [("term", .obj [(field, x)])]

/-- The clause that asks for the opposite. -/
def notClause (clause : Json) : Json := .obj [("not", clause)]

end Engine

open Engine

/-! ## Filters -/

namespace Query

variable {s : Settings} {q : Query} {p : PlainAttributes} {b : SearchBody}

theorem part?_query_toJson (b : SearchBody) : part? "query" b.toJson = some b.query.toJson := rfl

/-- The scoring part of a query is no place for filters. -/
theorem part?_filtered_coreWith (s : Settings) (p : PlainAttributes) (q : Query) :
    part? "filtered" (q.coreWith s p).toJson = none := by
  unfold coreWith
  cases p.ids with
  | some values => rfl
  | none =>
    rw [Clause.toJson_bool]
    rfl

/-- The filters of a body are the clauses of the filters of the query, in order. -/
theorem filterList_eq_map (h : q.searchBodyWith s p = .ok b) :
    ∃ filters, q.filters.mapM q.filterClause = .ok filters ∧
      filterList b.toJson = filters.map Clause.toJson := by
  obtain ⟨filters, hfilters, hquery⟩ := clauseWith_eq_ok (searchBodyWith_eq_ok h).1
  refine ⟨filters, hfilters, ?_⟩
  unfold filterList
  rw [part?_query_toJson, hquery, Option.bind_some]
  by_cases hempty : q.filters.isEmpty = true
  · rw [if_pos hempty, part?_filtered_coreWith]
    rw [List.isEmpty_iff.1 hempty] at hfilters
    cases hfilters
    rfl
  · rw [if_neg hempty, Clause.toJson_filtered]
    rfl

theorem mem_filterList_iff (h : q.searchBodyWith s p = .ok b) {x : Json} :
    x ∈ filterList b.toJson ↔ ∃ f ∈ q.filters, ∃ c, q.filterClause f = .ok c ∧ c.toJson = x := by
  obtain ⟨filters, hfilters, hlist⟩ := filterList_eq_map h
  rw [hlist, List.mem_map]
  simp only [mem_iff_of_mapM_eq_ok hfilters]
  constructor
  · rintro ⟨c, ⟨f, hf, hc⟩, hx⟩
    exact ⟨f, hf, c, hc, hx⟩
  · rintro ⟨f, hf, c, hc, hx⟩
    exact ⟨c, ⟨f, hf, hc⟩, hx⟩

end Query

/-- A leaf is written like a term clause only if it is one. -/
theorem Filter.leaf_eq_termClause_iff {f : Filter} {format : Json} {field : String} {w : Json} :
    (f.leaf format).toJson = termClause field w ↔ f.field = field ∧ f.constraint = .term w := by
  unfold Filter.leaf termClause
  cases f.constraint <;> simp [Leaf.toJson]

/-- No leaf is written like a negation. -/
theorem Filter.leaf_ne_notClause {f : Filter} {format x : Json} :
    (f.leaf format).toJson ≠ notClause x := by
  unfold Filter.leaf notClause
  cases f.constraint <;> simp [Leaf.toJson]

/-- A filter has a term clause, negated or not, exactly when it is a term filter. -/
theorem Filter.clause_eq_termClause_iff {f : Filter} {format : Json} {field : String} {w : Json} :
    (f.clause format).toJson = termClause field w ∨
        (f.clause format).toJson = notClause (termClause field w) ↔
      f.field = field ∧ f.constraint = .term w := by
  rw [← @Filter.leaf_eq_termClause_iff f format field w]
  unfold Filter.clause
  cases f.negated with
  | true =>
    have hnot : ∀ c : Clause, c.not.toJson = notClause c.toJson := fun c => by
      rw [Clause.toJson, notClause]
    rw [if_pos rfl, hnot, Clause.toJson]
    simp [notClause, termClause]
  | false =>
    rw [if_neg (by decide), Clause.toJson]
    simp [Filter.leaf_ne_notClause]

namespace Query

theorem filterClause_of_term {q : Query} {f : Filter} {w : Json} (h : f.constraint = .term w) :
    q.filterClause f = .ok (f.clause .null) := by
  unfold filterClause dateFormat
  rw [h]
  rfl

/-- A query has a term filter for a value exactly when its body has the clause, negated or not, of one
that is the same. -/
theorem selectsTerm_iff_mem_filterList {s : Settings} {q : Query} {p : PlainAttributes}
    {b : SearchBody} (h : q.searchBodyWith s p = .ok b) {field : String} {x : Json} :
    q.SelectsTerm field x ↔
      ∃ w, x.Equal w ∧ (termClause field w ∈ filterList b.toJson ∨
        notClause (termClause field w) ∈ filterList b.toJson) := by
  simp only [mem_filterList_iff h]
  constructor
  · rintro ⟨f, hf, hfield, w, hterm, hequal⟩
    have hclause := filterClause_of_term (q := q) hterm
    refine ⟨w, hequal, ?_⟩
    rcases Filter.clause_eq_termClause_iff.2 ⟨hfield, hterm⟩ with hc | hc
    · exact .inl ⟨f, hf, _, hclause, hc⟩
    · exact .inr ⟨f, hf, _, hclause, hc⟩
  · rintro ⟨w, hequal, hmem⟩
    have hfilter : ∃ f ∈ q.filters, f.field = field ∧ f.constraint = .term w := by
      rcases hmem with ⟨f, hf, c, hc, hx⟩ | ⟨f, hf, c, hc, hx⟩
      · obtain ⟨format, -, rfl⟩ := map_eq_ok_iff.1 hc
        exact ⟨f, hf, Filter.clause_eq_termClause_iff.1 (.inl hx)⟩
      · obtain ⟨format, -, rfl⟩ := map_eq_ok_iff.1 hc
        exact ⟨f, hf, Filter.clause_eq_termClause_iff.1 (.inr hx)⟩
    obtain ⟨f, hf, hfield, hterm⟩ := hfilter
    exact ⟨f, hf, hfield, w, hterm, hequal⟩

end Query

namespace LiveQuery

variable {s : Settings} {l : LiveQuery} {b : SearchBody}

theorem searchBody_eq_ok_iff :
    l.searchBody s = .ok b ↔ ∃ p, l.plain = .ok p ∧ l.query.searchBodyWith s p = .ok b :=
  bind_eq_ok_iff

/-- **The selected buckets are those that a term clause of the body names**, be it negated or not: the
mark says that there is a term filter for the value, and not that the records found have it. -/
theorem selected_iff_mem_filterList {response : Json} {r : SearchResult}
    (hbody : l.searchBody s = .ok b) (hresult : l.query.mapResponse response = .ok r)
    {key : String} {a : AggregationResult} (ha : (key, a) ∈ r.aggregations) {bucket : Bucket}
    (hbucket : bucket ∈ a.buckets) :
    bucket.selected = true ↔
      ∃ w, bucket.key.Equal w ∧ (termClause a.id w ∈ filterList b.toJson ∨
        notClause (termClause a.id w) ∈ filterList b.toJson) := by
  obtain ⟨p, -, hwith⟩ := searchBody_eq_ok_iff.1 hbody
  obtain ⟨m, -, -, hmapped⟩ :=
    exists_of_mem_of_forall₂ (Query.mapResponse_eq_ok hresult).aggregations ha
  rw [Query.selected_iff_of_mem hmapped hbucket, Query.selectsTerm_iff_mem_filterList hwith]

theorem selected_iff_mem_filterList_color :
    let q : Query := { Query.blank 10 with
      filters := [⟨"color", true, .term (.int 1)⟩]
      aggregations := [("color", ⟨"color", .terms none⟩)] }
    let response : Json := .obj [("aggregations", .obj [("color", .obj [("buckets", .arr [
      .obj [("key", .bool true), ("doc_count", .int 2)]])])])]
    let bucket : Bucket := ⟨.bool true, 2, true, []⟩
    ∃ b r a, (ofQuery q).searchBody .standard = .ok b ∧ q.mapResponse response = .ok r ∧
      ("color", a) ∈ r.aggregations ∧ bucket ∈ a.buckets ∧
      (bucket.selected = true ↔ ∃ w, bucket.key.Equal w ∧
        (termClause a.id w ∈ filterList b.toJson ∨
          notClause (termClause a.id w) ∈ filterList b.toJson)) := by
  intro q response bucket
  have hbody : (ofQuery q).searchBody .standard = .ok _ := rfl
  have hresult : (ofQuery q).query.mapResponse response = .ok _ := rfl
  refine ⟨_, _, _, hbody, hresult, List.mem_singleton.2 rfl, List.mem_singleton.2 rfl, ?_⟩
  exact selected_iff_mem_filterList hbody hresult (List.mem_singleton.2 rfl)
    (List.mem_singleton.2 rfl)

/-- A bucket that the query excludes is selected too, although no clause asks for its value. -/
theorem selected_of_negated_color :
    let q : Query := { Query.blank 10 with
      filters := [⟨"color", true, .term (.str "red")⟩]
      aggregations := [("color", ⟨"color", .terms none⟩)] }
    let response : Json := .obj [("hits", .obj [("total", .int 0), ("hits", .arr [])]),
      ("aggregations", .obj [("color", .obj [("buckets", .arr [
        .obj [("key", .str "red"), ("doc_count", .int 3)]])])])]
    let bucket : Bucket := ⟨.str "red", 3, true, []⟩
    ∃ b r a, (ofQuery q).searchBody .standard = .ok b ∧ q.mapResponse response = .ok r ∧
      ("color", a) ∈ r.aggregations ∧ bucket ∈ a.buckets ∧ bucket.selected = true ∧
      ∀ w, termClause a.id w ∉ filterList b.toJson := by
  intro q response bucket
  refine ⟨_, _, _, rfl, rfl, List.mem_singleton.2 rfl, List.mem_singleton.2 rfl, rfl, ?_⟩
  intro w hmem
  change termClause "color" w ∈ [notClause (termClause "color" (.str "red"))] at hmem
  simp [termClause, notClause] at hmem

end LiveQuery

/-! ## Aggregations -/

theorem SearchBody.named_aggs_toJson (b : SearchBody) :
    named "aggs" b.toJson = Aggregation.blockWith b.topDocs b.aggregations := by
  unfold SearchBody.toJson named part?
  cases b.sort <;> cases b.marking <;> rfl

theorem Grouping.name_mem (g : Grouping) : g.name ∈ ["terms", "range", "date_range"] := by
  cases g <;> simp [Grouping.name]

theorem Aggregation.lookup_blockWith_of_lookup {topDocs : Bool} {key : String} {g : Aggregation}
    {as : List (String × Aggregation)} (h : as.lookup key = some g) :
    (blockWith topDocs as).lookup key = some g.toEngine := by
  rw [blockWith, List.lookup_append, block, Members.lookup_map, h]
  rfl

namespace Query

variable {q : Query} {topDocs : Bool} {key : String}

/-- A key is asked for because an aggregation is registered under it, or because it is the one that
searches over all types add. -/
theorem has_blockWith_iff :
    Members.has key (Aggregation.blockWith topDocs q.aggregations) = true ↔
      (∃ g, q.aggregations.lookup key = some g) ∨ topDocs = true ∧ key = Aggregation.topDocsKey := by
  unfold Members.has Aggregation.blockWith
  rw [List.lookup_append, Aggregation.block, Members.lookup_map]
  cases q.aggregations.lookup key with
  | some g => simp
  | none =>
    cases topDocs with
    | false => simp
    | true =>
      rw [if_pos rfl, Members.lookup_singleton]
      by_cases hkey : key = Aggregation.topDocsKey <;> simp [hkey]

theorem fieldAndKind_of_lookup {g : Aggregation} (h : q.aggregations.lookup key = some g)
    (buckets : Json) : Mapping.fieldAndKind q key buckets = .ok (g.field, g.grouping.name) := by
  rw [Mapping.fieldAndKind, h]

theorem fieldAndKind_topDocsKey (h : q.aggregations.lookup Aggregation.topDocsKey = none)
    (buckets : Json) :
    Mapping.fieldAndKind q Aggregation.topDocsKey buckets = .ok ("_type", "top_hits") := by
  rw [Mapping.fieldAndKind, h]
  rfl

/-- The kind of what was asked for is never guessed from the shape of its buckets. -/
theorem fieldAndKind_of_has
    (h : Members.has key (Aggregation.blockWith topDocs q.aggregations) = true)
    (buckets buckets' : Json) :
    Mapping.fieldAndKind q key buckets = Mapping.fieldAndKind q key buckets' := by
  unfold Mapping.fieldAndKind
  rcases has_blockWith_iff.1 h with ⟨g, hg⟩ | ⟨-, hkey⟩
  · rw [hg]
  · rw [if_pos hkey, if_pos hkey]

end Query

namespace LiveQuery

/-- An aggregation of a result is what the aggregations of the body ask for under its key: one that is
registered there, or the best hits of every type. -/
inductive AsAsked (l : LiveQuery) (aggs : Members) (key : String) (a : AggregationResult) : Prop where
  | registered {params : Members} (taken : Members.has key l.query.aggregations = true)
    (kind : a.kind ∈ ["terms", "range", "date_range"])
    (entry : aggs.lookup key = some (.obj [(a.kind, .obj params)]))
    (field : params.lookup "field" = some (.str a.id))
  | topDocs {engine : Json} (free : ¬ Members.has key l.query.aggregations = true)
    (reserved : key = "top_docs") (mode : l.value .mode = .str "all_types")
    (kind : a.kind = "top_hits") (entry : aggs.lookup key = some engine)
    (field : (part? "terms" engine).bind (part? "field") = some (.str a.id))

variable {s : Settings} {l : LiveQuery} {b : SearchBody}

theorem allTypes_of_plain {p : PlainAttributes} (h : l.plain = .ok p) (hall : p.allTypes = true) :
    l.value .mode = .str "all_types" := by
  obtain ⟨ids, -, h⟩ := bind_eq_ok_iff.1 h
  cases h
  exact beq_iff_eq.1 hall

/-- **Compiler and mapper agree on what an aggregation is.**  The kind and the field of an aggregation
whose key the body asks for are those that it asks for.  Whatever the engine answers, they stay the
same. -/
theorem aggregation_as_asked {response : Json} {r : SearchResult}
    (hbody : l.searchBody s = .ok b) (hresult : l.query.mapResponse response = .ok r)
    {key : String} {a : AggregationResult} (ha : (key, a) ∈ r.aggregations)
    (hkey : Members.has key (named "aggs" b.toJson) = true) :
    l.AsAsked (named "aggs" b.toJson) key a ∧
      (∀ buckets, Mapping.fieldAndKind l.query key buckets = .ok (a.id, a.kind)) ∧
      ∀ response' r' a', l.query.mapResponse response' = .ok r' → (key, a') ∈ r'.aggregations →
        a'.id = a.id ∧ a'.kind = a.kind := by
  obtain ⟨p, hplain, hwith⟩ := searchBody_eq_ok_iff.1 hbody
  obtain ⟨-, -, haggregations, htop⟩ := Query.searchBodyWith_eq_ok hwith
  rw [SearchBody.named_aggs_toJson, haggregations, htop] at hkey ⊢
  -- a mapped aggregation has the field and the kind that are found for some buckets
  have hfound : ∀ {response r a}, l.query.mapResponse response = .ok r → (key, a) ∈ r.aggregations →
      ∀ buckets, Mapping.fieldAndKind l.query key buckets = .ok (a.id, a.kind) := by
    intro response r a hresult ha buckets
    obtain ⟨m, -, hname, hmapped⟩ :=
      exists_of_mem_of_forall₂ (Query.mapResponse_eq_ok hresult).aggregations ha
    obtain ⟨_, _, _, hkind, _⟩ := Mapping.aggregation_eq_ok hmapped
    rw [← hkind, ← hname]
    exact Query.fieldAndKind_of_has hkey _ _
  refine ⟨?_, hfound hresult ha, ?_⟩
  · have hkind := hfound hresult ha .null
    cases hg : l.query.aggregations.lookup key with
    | some g =>
      rw [Query.fieldAndKind_of_lookup hg] at hkind
      obtain ⟨hfield, hname⟩ : g.field = a.id ∧ g.grouping.name = a.kind := by simpa using hkind
      have hentry : (Aggregation.blockWith p.allTypes l.query.aggregations).lookup key =
          some (.obj [(a.kind, .obj g.parameters)]) := by
        rw [Aggregation.lookup_blockWith_of_lookup hg, Aggregation.toEngine, hname]
      have hparameter : g.parameters.lookup "field" = some (.str a.id) := by
        rw [← hfield]
        rfl
      exact .registered (by simp [Members.has, hg]) (hname ▸ g.grouping.name_mem) hentry hparameter
    | none =>
      obtain ⟨hall, rfl⟩ := (Query.has_blockWith_iff.1 hkey).resolve_left (by simp [hg])
      rw [Query.fieldAndKind_topDocsKey hg] at hkind
      obtain ⟨hfield, hname⟩ : "_type" = a.id ∧ "top_hits" = a.kind := by simpa using hkind
      rw [hall]
      refine .topDocs (by simp [Members.has, hg]) rfl (allTypes_of_plain hplain hall) hname.symm
        (Aggregation.lookup_blockWith_true hg) ?_
      rw [← hfield]
      rfl
  · intro response' r' a' hresult' ha'
    have hsame := (hfound hresult' ha' .null).symm.trans (hfound hresult ha .null)
    injection hsame with hpair
    exact Prod.mk.inj hpair

theorem aggregation_as_asked_allTypes :
    let q : Query := { Query.blank 10 with
      aggregations := [("price_net", ⟨"price.net", .range []⟩)]
      mode := .allTypes }
    let response : Json := .obj [("aggregations", .obj [
      ("price_net", .obj [("buckets", .arr [.obj [("key", .str "red")]])]),
      ("top_docs", .obj [("buckets", .arr [])])])]
    ∃ b r, (ofQuery q).searchBody .standard = .ok b ∧ q.mapResponse response = .ok r ∧
      r.aggregations.map Prod.fst = ["price_net", "top_docs"] ∧
      ∀ m ∈ r.aggregations, Members.has m.1 (named "aggs" b.toJson) = true ∧
        (ofQuery q).AsAsked (named "aggs" b.toJson) m.1 m.2 := by
  intro q response
  have hbody : (ofQuery q).searchBody .standard = .ok _ := rfl
  have hresult : (ofQuery q).query.mapResponse response = .ok _ := rfl
  refine ⟨_, _, hbody, hresult, rfl, ?_⟩
  intro m hm
  have hkey : m.1 ∈ ["price_net", "top_docs"] := List.mem_map_of_mem hm
  have hcases : m.1 = "price_net" ∨ m.1 = "top_docs" := by simpa using hkey
  have hhas : Members.has m.1 [("price_net", (⟨"price.net", .range []⟩ : Aggregation).toEngine),
      ("top_docs", Aggregation.topDocs)] = true := by
    rcases hcases with h | h <;> rw [h] <;> rfl
  exact ⟨hhas, (aggregation_as_asked hbody hresult hm hhas).1⟩

end LiveQuery

end FacetedSearch
