import FacetedSearch.Proofs.Result.Correspondence
import Mathlib.Data.List.Basic

/-!
# Negation

A filter is negated by wrapping its clause, and the rest of the body neither knows nor cares: whether
the query compiles, why it does not, and everything else that is sent stay as they are.

* `Filter.enclosed` — what negation does to the clause of a filter.
* `Query.withNegated` — a query with one of its filters negated, or not.
* `Query.searchBodyWith_withNegated` — to negate a filter is to negate one clause of the body.
* `Json.modifyAt` — to change what a path of names leads to, and nothing beside it.
* `LiveQuery.negation_wraps_one_clause` — the two bodies, as the engine reads them.
-/

set_option autoImplicit false

namespace FacetedSearch

open Engine

theorem map_modify {α β : Type} {f : α → β} {g : α → α} {k : β → β} (hk : ∀ x, f (g x) = k (f x))
    (xs : List α) (i : Nat) : (xs.modify i g).map f = (xs.map f).modify i k := by
  refine List.ext_getElem? fun j => ?_
  rw [List.getElem?_map, List.getElem?_modify, List.getElem?_modify, List.getElem?_map]
  cases xs[j]? with
  | none => rfl
  | some x => by_cases h : i = j <;> simp [h, hk]

/-! ## Clauses -/

/-- A clause as it is sent for a filter, wrapped when the filter is negated. -/
def Filter.enclosed (f : Filter) (clause : Json) : Json :=
  if f.negated then notClause clause else clause

theorem Filter.toJson_clause (f : Filter) (format : Json) :
    (f.clause format).toJson = f.enclosed (f.leaf format).toJson := by
  unfold Filter.clause Filter.enclosed
  cases f.negated with
  | true => rw [if_pos rfl, if_pos rfl, Clause.toJson, Clause.toJson, notClause]
  | false => rw [if_neg (by decide), if_neg (by decide), Clause.toJson]

/-- The clause with the clause of one filter changed; only a clause with filters has any. -/
def Clause.modifyFilter (i : Nat) (change : Clause → Clause) : Clause → Clause
  | filtered filters query => filtered (filters.modify i change) query
  | c => c

/-- The body with the clause of one filter changed. -/
def SearchBody.modifyFilter (i : Nat) (change : Clause → Clause) (b : SearchBody) : SearchBody :=
  { b with query := b.query.modifyFilter i change }

/-! ## Queries -/

namespace Query

/-- The query with one of its filters negated, or not. -/
def withNegated (q : Query) (i : Nat) (negated : Bool) : Query :=
  { q with filters := q.filters.modify i fun f => { f with negated } }

variable {q : Query} {i : Nat}

/-- The format of a date does not depend on the filters beside it. -/
theorem filterClause_withNegated (negated : Bool) :
    (q.withNegated i negated).filterClause = q.filterClause := rfl

theorem coreWith_withNegated (s : Settings) (p : PlainAttributes) (negated : Bool) :
    (q.withNegated i negated).coreWith s p = q.coreWith s p := rfl

theorem isMatchAllWith_withNegated (p : PlainAttributes) (negated : Bool) :
    (q.withNegated i negated).isMatchAllWith p = q.isMatchAllWith p := rfl

theorem isEmpty_filters_withNegated (negated : Bool) :
    (q.withNegated i negated).filters.isEmpty = q.filters.isEmpty := by
  rw [Bool.eq_iff_iff, List.isEmpty_iff, List.isEmpty_iff]
  exact List.modify_eq_nil_iff

/-- The clause of a negated filter is that of the plain one, negated, and they fail alike. -/
theorem filterClause_negated (f : Filter) :
    q.filterClause { f with negated := true } =
      (q.filterClause { f with negated := false }).map Clause.not := by
  have hformat : q.dateFormat { f with negated := true } =
      q.dateFormat { f with negated := false } := rfl
  unfold filterClause
  rw [hformat]
  cases q.dateFormat { f with negated := false } <;> rfl

/-- The scoring part of a query has no filter that could be changed. -/
theorem modifyFilter_coreWith (s : Settings) (p : PlainAttributes) (change : Clause → Clause) :
    (q.coreWith s p).modifyFilter i change = q.coreWith s p := by
  unfold coreWith
  cases p.ids <;> rfl

theorem clauseWith_withNegated (s : Settings) (p : PlainAttributes) :
    (q.withNegated i true).clauseWith s p =
      ((q.withNegated i false).clauseWith s p).map (Clause.modifyFilter i Clause.not) := by
  unfold clauseWith
  rw [isEmpty_filters_withNegated, isEmpty_filters_withNegated]
  split
  · exact congrArg Except.ok (modifyFilter_coreWith s p Clause.not).symm
  · have hfilters : (q.withNegated i true).filters.mapM q.filterClause =
        ((q.withNegated i false).filters.mapM q.filterClause).map
          fun cs => cs.modify i Clause.not := mapM_modify filterClause_negated q.filters i
    simp only [filterClause_withNegated, coreWith_withNegated, isMatchAllWith_withNegated]
    rw [hfilters]
    cases (q.withNegated i false).filters.mapM q.filterClause <;> rfl

/-- **To negate a filter is to negate one clause of the body.**  Whatever else the body has does not
depend on it, and neither does why there is none. -/
theorem searchBodyWith_withNegated (s : Settings) (p : PlainAttributes) :
    (q.withNegated i true).searchBodyWith s p =
      ((q.withNegated i false).searchBodyWith s p).map (SearchBody.modifyFilter i Clause.not) := by
  unfold searchBodyWith
  rw [clauseWith_withNegated]
  cases (q.withNegated i false).clauseWith s p with
  | error e => rfl
  | ok c =>
    cases p.highlights with
    | error e => rfl
    | ok names =>
      show (Aggregation.checkKeys p.allTypes q.aggregations >>= _) =
        (Aggregation.checkKeys p.allTypes q.aggregations >>= _).map _
      cases Aggregation.checkKeys p.allTypes q.aggregations <;> rfl

end Query

/-! ## Bodies as the engine reads them -/

namespace Json

/-- Change what a path of names leads to, and nothing beside it. -/
def modifyAt (change : Json → Json) : List String → Json → Json
  | [], x => change x
  | name :: path, .obj ms =>
    .obj (ms.map fun m => if m.1 = name then (m.1, modifyAt change path m.2) else m)
  | _ :: _, x => x

/-- Change one item of a list. -/
def modifyItem (i : Nat) (change : Json → Json) : Json → Json
  | .arr xs => .arr (xs.modify i change)
  | x => x

variable {change : Json → Json}

theorem modifyAt_obj_cons {name : String} {ms : Members} (h : ∀ m ∈ ms, m.1 ≠ name) (x : Json)
    (path : List String) :
    (Json.obj ((name, x) :: ms)).modifyAt change (name :: path) =
      .obj ((name, x.modifyAt change path) :: ms) := by
  have hrest : ms.map (fun m => if m.1 = name then (m.1, m.2.modifyAt change path) else m) = ms := by
    conv_rhs => rw [← List.map_id ms]
    exact List.map_congr_left fun m hm => if_neg (h m hm)
  rw [modifyAt, List.map_cons, if_pos rfl, hrest]

theorem modifyAt_obj_singleton (name : String) (x : Json) (path : List String) :
    (Json.obj [(name, x)]).modifyAt change (name :: path) = .obj [(name, x.modifyAt change path)] :=
  modifyAt_obj_cons (fun _ h => absurd h List.not_mem_nil) x path

end Json

/-- Only a clause with filters has anything where the path to them leads. -/
theorem Clause.toJson_modifyFilter_not (c : Clause) (i : Nat) :
    (c.modifyFilter i .not).toJson =
      c.toJson.modifyAt (Json.modifyItem i notClause) ["filtered", "filter", "and"] := by
  cases c with
  | filtered filters query =>
    have hclauses : (filters.modify i .not).map toJson =
        (filters.map toJson).modify i notClause :=
      map_modify (fun c => by rw [toJson, notClause]) filters i
    have hquery : ∀ m ∈ query.toList.map fun c => ("query", c.toJson), m.1 ≠ "filter" := by
      simp
    rw [modifyFilter, toJson_filtered, toJson_filtered, hclauses, Json.modifyAt_obj_singleton,
      Json.modifyAt_obj_cons hquery, Json.modifyAt_obj_singleton]
    rfl
  | leaf l => cases l <;> rfl
  | matchAll | not | bool => rfl

theorem SearchBody.toJson_modifyFilter_not (b : SearchBody) (i : Nat) :
    (b.modifyFilter i .not).toJson =
      b.toJson.modifyAt (Json.modifyItem i notClause) ["query", "filtered", "filter", "and"] := by
  unfold toJson
  simp only [List.cons_append, List.nil_append]
  rw [Json.modifyAt_obj_cons, ← Clause.toJson_modifyFilter_not]
  · rfl
  · cases b.sort <;> cases b.marking <;> cases b.facets <;> simp [optionalMember]

/-! ## Live queries -/

namespace LiveQuery

/-- The query with one of its filters negated, or not. -/
def withNegated (l : LiveQuery) (i : Nat) (negated : Bool) : LiveQuery :=
  { l with query := l.query.withNegated i negated }

variable {s : Settings} {l : LiveQuery} {i : Nat}

theorem searchBody_withNegated (s : Settings) (l : LiveQuery) (i : Nat) :
    (l.withNegated i true).searchBody s =
      ((l.withNegated i false).searchBody s).map (SearchBody.modifyFilter i Clause.not) := by
  have hplain (negated : Bool) : (l.withNegated i negated).searchBody s =
      l.plain >>= (l.query.withNegated i negated).searchBodyWith s := rfl
  rw [hplain, hplain]
  cases l.plain with
  | error failure => rfl
  | ok p => exact Query.searchBodyWith_withNegated s p

/-- The filters of a body are the clauses of the filters of the query, each in its place. -/
theorem getElem?_filterList {b : SearchBody} (h : l.searchBody s = .ok b) {f : Filter}
    (hf : l.query.filters[i]? = some f) :
    ∃ c, l.query.filterClause f = .ok c ∧ (filterList b.toJson)[i]? = some c.toJson := by
  obtain ⟨p, -, hwith⟩ := searchBody_eq_ok_iff.1 h
  obtain ⟨filters, hfilters, hlist⟩ := Query.filterList_eq_map hwith
  obtain ⟨c, hc, hclause⟩ := getElem?_of_mapM_eq_ok hfilters hf
  refine ⟨c, hclause, ?_⟩
  rw [hlist, List.getElem?_map, hc]
  rfl

/-- **Negation wraps one clause and changes nothing else.**  Whether one of its filters is negated or
not, a query fails with the same failure; or else the clause of that filter, as it is when the filter
is plain, is wrapped in the one body, and the bodies are equal everywhere else. -/
theorem negation_wraps_one_clause (s : Settings) (l : LiveQuery) {i : Nat} {f : Filter}
    (hf : l.query.filters[i]? = some f) :
    (∃ failure, (l.withNegated i false).searchBody s = .error failure ∧
      (l.withNegated i true).searchBody s = .error failure) ∨
    ∃ b b' c, (l.withNegated i false).searchBody s = .ok b ∧
      (l.withNegated i true).searchBody s = .ok b' ∧
      l.query.filterClause { f with negated := false } = .ok c ∧
      (filterList b.toJson)[i]? = some c.toJson ∧
      (filterList b'.toJson)[i]? = some (notClause c.toJson) ∧
      b'.toJson =
        b.toJson.modifyAt (Json.modifyItem i notClause) ["query", "filtered", "filter", "and"] := by
  have hnegated := searchBody_withNegated s l i
  have hfilter (negated : Bool) :
      (l.withNegated i negated).query.filters[i]? = some { f with negated } := by
    show (l.query.filters.modify i _)[i]? = _
    rw [List.getElem?_modify, hf]
    simp
  cases hplain : (l.withNegated i false).searchBody s with
  | error failure =>
    rw [hplain] at hnegated
    exact .inl ⟨failure, rfl, hnegated⟩
  | ok b =>
    rw [hplain] at hnegated
    obtain ⟨c, hc, hclause⟩ := getElem?_filterList hplain (hfilter false)
    obtain ⟨c', hc', hclause'⟩ := getElem?_filterList hnegated (hfilter true)
    have hnot : (Except.ok c).map Clause.not = Except.ok (ε := Failure) c' := by
      rw [← hc, ← hc']
      exact (Query.filterClause_negated f).symm
    cases hnot
    refine .inr ⟨b, _, c, rfl, hnegated, hc, hclause, ?_, b.toJson_modifyFilter_not i⟩
    rw [hclause', Clause.toJson, notClause]

/-- The last of three filters, on a date, in a search whose text is empty. -/
theorem negation_wraps_one_clause_made :
    let made : Filter := ⟨"made", true, .dateRange ⟨.int 1, .str " 2e3", none, some true⟩⟩
    let q : Query := { Query.blank 10 with
      filters := [⟨"color", true, .term (.str "red")⟩, ⟨"maker", false, .present⟩, made]
      aggregations := [("made", ⟨"made", .dateRange "yyyy" []⟩)] }
    let sent : Json := .obj [("range", .obj [("made", .obj [("from", .int 1), ("to", .str " 2e3"),
      ("include_upper", .bool true), ("format", .str "yyyy")])])]
    ∃ b b', ((LiveQuery.ofQuery q).withNegated 2 false).searchBody .standard = .ok b ∧
      ((LiveQuery.ofQuery q).withNegated 2 true).searchBody .standard = .ok b' ∧
      (filterList b.toJson)[2]? = some sent ∧
      (filterList b'.toJson)[2]? = some (notClause sent) ∧
      b'.toJson =
        b.toJson.modifyAt (Json.modifyItem 2 notClause) ["query", "filtered", "filter", "and"] := by
  intro made q sent
  have hmade : (LiveQuery.ofQuery q).query.filters[2]? = some made := rfl
  have hcompiles :
      (((LiveQuery.ofQuery q).withNegated 2 false).searchBody .standard).toOption.isSome := by
    decide +kernel
  have hsent : (q.filterClause { made with negated := false }).toOption.map Clause.toJson =
      some sent := by
    decide +kernel
  rcases negation_wraps_one_clause .standard _ hmade with
    ⟨failure, hfails, -⟩ | ⟨b, b', c, hb, hb', hclause, hplain, hnegated, hbody⟩
  · rw [hfails] at hcompiles
    cases hcompiles
  · have hclause : q.filterClause { made with negated := false } = .ok c := hclause
    rw [hclause] at hsent
    have hsame : c.toJson = sent := Option.some.inj hsent
    rw [hsame] at hplain hnegated
    exact ⟨b, b', hb, hb', hplain, hnegated, hbody⟩

end LiveQuery

end FacetedSearch
