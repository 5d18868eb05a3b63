import FacetedSearch.Proofs.Search.Encoding

/-!
# What a query means to the engine

The engine is only assumed to know which leaf clauses hold of a record.  Clauses that combine others
mean what their names say, whatever the order in which their parts are written.  Under every such
engine a query finds the records of its scoring part that pass all its filters; that a scoring part
which matches everything is left out is never seen.

* `Engine.listed`, `Engine.part?` — the parts of a clause, by name.
* `Engine.holds` — whether a clause, as the engine reads it, holds of a record.
* `Query.holds_clauseWith_iff` — a whole query means its scoring part and its filters.
-/

set_option autoImplicit false

namespace FacetedSearch

namespace Engine

/-- The part of a clause under a name. -/
def part? (name : String) : Json → Option Json
  | .obj ms => ms.lookup name
  | _ => none

/-- The clauses that are listed under a name; there may be none. -/
def listed (name : String) (x : Json) : List Json :=
  match part? name x with
  | some (.arr xs) => xs
  | _ => []

theorem sizeOf_lookup_lt {ms : Members} {name : String} {x : Json}
    (h : ms.lookup name = some x) : sizeOf x < sizeOf ms := by
  induction ms with
  | nil => cases h
  | cons m ms ih =>
    obtain ⟨key, y⟩ := m
    rw [List.lookup_cons] at h
    split at h
    · cases h
      simp
      omega
    · have := ih h
      simp
      omega

theorem sizeOf_part_lt {name : String} {x y : Json} (h : part? name x = some y) :
    sizeOf y < sizeOf x := by
  unfold part? at h
  split at h
  · have := sizeOf_lookup_lt h
    simp
    omega
  · cases h

theorem sizeOf_listed_lt {name : String} {x y : Json} (h : y ∈ listed name x) :
    sizeOf y < sizeOf x := by
  unfold listed at h
  split at h
  · rename_i xs hxs
    have := sizeOf_part_lt hxs
    have := List.sizeOf_lt_of_mem h
    simp at *
    omega
  · cases h

/-- Whether a clause holds of a record, which is given by the leaf clauses that hold of it.  Of the
clauses that should hold a number is needed only when it is given. -/
def holds (truth : Json → Bool) (clause : Json) : Bool :=
  match clause with
  | .obj [("match_all", _)] => true
  | .obj [("not", c)] => !holds truth c
  | .obj [("bool", parts)] =>
    (listed "must" parts).attach.all (fun c => holds truth c.1)
      && !(listed "must_not" parts).attach.any (fun c => holds truth c.1)
      && match part? "minimum_should_match" parts with
        | some (.int n) =>
          decide (n ≤ (listed "should" parts).attach.countP fun c => holds truth c.1)
        | _ => true
  | .obj [("filtered", parts)] =>
    (part? "filter" parts).attach.all (fun filter =>
        (listed "and" filter.1).attach.all fun c => holds truth c.1)
      && (part? "query" parts).attach.all fun c => holds truth c.1
  | c => truth c
termination_by sizeOf clause
decreasing_by
  · simp
    omega
  · have := sizeOf_listed_lt c.2
    simp
    omega
  · have := sizeOf_listed_lt c.2
    simp
    omega
  · have := sizeOf_listed_lt c.2
    simp
    omega
  · have := sizeOf_listed_lt c.2
    have := sizeOf_part_lt filter.2
    simp
    omega
  · have := sizeOf_part_lt c.2
    simp
    omega

variable {truth : Json → Bool}

theorem holds_matchAll : holds truth Clause.matchAll.toJson = true := by
  rw [Clause.toJson, holds]

theorem holds_not {c : Clause} :
    holds truth c.not.toJson = true ↔ ¬ holds truth c.toJson = true := by
  rw [Clause.toJson, holds]
  simp

theorem holds_leaf (l : Leaf) : holds truth (Clause.leaf l).toJson = truth l.toJson := by
  rw [Clause.toJson]
  cases l <;> unfold Leaf.toJson <;> rw [holds] <;> simp

/-- The recursion on a `bool` clause, read off its parts. -/
theorem holds_obj_bool (parts : Json) :
    holds truth (.obj [("bool", parts)]) =
      ((listed "must" parts).all (holds truth)
        && !(listed "must_not" parts).any (holds truth)
        && match part? "minimum_should_match" parts with
          | some (.int n) => decide (n ≤ (listed "should" parts).countP (holds truth))
          | _ => true) := by
  rw [holds]
  simp

/-- The recursion on a `filtered` clause, read off its parts. -/
theorem holds_obj_filtered (parts : Json) :
    holds truth (.obj [("filtered", parts)]) =
      ((part? "filter" parts).all (fun filter => (listed "and" filter).all (holds truth))
        && (part? "query" parts).all (holds truth)) := by
  rw [holds]
  cases part? "filter" parts <;> cases part? "query" parts <;> simp

theorem holds_bool {must mustNot should : List Clause} {least : Option Int} :
    holds truth (Clause.bool must mustNot should least).toJson = true ↔
      (∀ c ∈ must, holds truth c.toJson = true) ∧
      (∀ c ∈ mustNot, ¬ holds truth c.toJson = true) ∧
      ∀ n ∈ least, n ≤ should.countP fun c => holds truth c.toJson := by
  rw [Clause.toJson_bool, holds_obj_bool]
  cases least <;> simp [listed, part?, List.lookup_cons, Function.comp_def, and_assoc]

theorem holds_filtered {filters : List Clause} {inner : Option Clause} :
    holds truth (Clause.filtered filters inner).toJson = true ↔
      (∀ c ∈ filters, holds truth c.toJson = true) ∧
      ∀ c ∈ inner, holds truth c.toJson = true := by
  rw [Clause.toJson_filtered, holds_obj_filtered]
  cases inner <;> simp [listed, part?, List.lookup_cons]

end Engine

open Engine

variable {truth : Json → Bool}

/-- A filter is passed when its clause holds exactly if the filter is not negated. -/
theorem Filter.holds_clause {f : Filter} {format : Json} :
    holds truth (f.clause format).toJson = true ↔
      (truth (f.leaf format).toJson = true ↔ f.negated = false) := by
  unfold Filter.clause
  cases f.negated with
  | false => simp [holds_leaf]
  | true => simp [holds_not, holds_leaf]

namespace Query

/-- The clauses of filters hold when every filter is passed, each date read in its own format. -/
theorem holds_filterClauses {q : Query} {fs : List Filter} {cs : List Clause}
    (h : fs.mapM q.filterClause = .ok cs) :
    (∀ c ∈ cs, holds truth c.toJson = true) ↔
      ∀ f ∈ fs, ∃ format, q.dateFormat f = .ok format ∧
        (truth (f.leaf format).toJson = true ↔ f.negated = false) := by
  rw [mapM_eq_ok_iff] at h
  induction h with
  | nil => simp
  | cons hc _ ih =>
    obtain ⟨format, hformat, rfl⟩ := map_eq_ok_iff.1 hc
    rw [List.forall_mem_cons, List.forall_mem_cons, ih, Filter.holds_clause, hformat]
    simp

/-- A scoring part that matches everything by its form does hold of every record. -/
theorem holds_coreWith_of_isMatchAllWith {s : Settings} {p : PlainAttributes} {q : Query}
    (h : q.isMatchAllWith p = true) : holds truth (q.coreWith s p).toJson = true := by
  unfold isMatchAllWith at h
  obtain ⟨⟨hids, htext⟩, hany⟩ : (p.ids = none ∧ p.text.isTruthy = false) ∧
      q.clauses.isAny = false := by simpa using h
  obtain ⟨hmust, -, hmustNot⟩ : q.clauses.must = [] ∧ q.clauses.should = [] ∧
      q.clauses.mustNot = [] := by simpa [BoolClauses.isAny, and_assoc] using hany
  simp [coreWith, hids, htext, hany, hmust, hmustNot, holds_bool, holds_matchAll]

/-- **A query finds the records of its scoring part that pass all its filters**, in every engine and
whatever has been assigned to its plain attributes. -/
theorem holds_clauseWith_iff {s : Settings} {p : PlainAttributes} {q : Query} {c : Clause}
    (h : q.clauseWith s p = .ok c) (truth : Json → Bool) :
    holds truth c.toJson = true ↔
      holds truth (q.coreWith s p).toJson = true ∧
      ∀ f ∈ q.filters, ∃ format, q.dateFormat f = .ok format ∧
        (truth (f.leaf format).toJson = true ↔ f.negated = false) := by
  unfold clauseWith at h
  split at h
  · rename_i hempty
    cases h
    rw [List.isEmpty_iff.1 hempty]
    simp
  · obtain ⟨cs, hcs, h⟩ := bind_eq_ok_iff.1 h
    cases h
    rw [holds_filtered, holds_filterClauses hcs, and_comm]
    refine and_congr_left fun _ => ?_
    split
    · rename_i hall
      simp [holds_coreWith_of_isMatchAllWith hall]
    · simp

/-- Without text only the filters are sent, one of them negated. -/
theorem holds_clauseWith_iff_color :
    let q := { blank 10 with
      filters := [⟨"color", true, .term (.str "red")⟩, ⟨"email", false, .present⟩] }
    ∃ c, q.clauseWith .standard q.plain = .ok c ∧ ∀ truth : Json → Bool,
      (holds truth c.toJson = true ↔
        holds truth (q.coreWith .standard q.plain).toJson = true ∧
        ∀ f ∈ q.filters, ∃ format, q.dateFormat f = .ok format ∧
          (truth (f.leaf format).toJson = true ↔ f.negated = false)) :=
  ⟨_, rfl, fun truth => holds_clauseWith_iff rfl truth⟩

end Query

end FacetedSearch
