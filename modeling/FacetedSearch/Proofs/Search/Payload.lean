import FacetedSearch.Proofs.Json.Sense
import FacetedSearch.Proofs.Search.Negation
import Mathlib.Tactic.Tauto

/-!
# What a clause carries

The clause of a filter on several values, or on a place, has one object for everything: what is under
the field, and beside it the parameters, under names of their own.  A field may have the name of a
parameter.  The parameter is then what is sent, and what was under the field is lost.

* `Filter.TermsSent`, `Filter.PlaceSent` — what is found in the object of a clause.
* `Leaf.terms_alike_iff`, `Leaf.geoDistance_alike_iff` — which leaves are told apart.
* `Filter.payload_kept_unless_shadowed` — what is sent of a payload, and when two payloads are told
  apart by their clauses.
-/

set_option autoImplicit false

namespace FacetedSearch

open Sense

/-! ## What is found in a clause -/

/-- What is found in the object of a clause on several values.  The mode is always there, and the
values are unless the mode has taken their place. -/
structure Filter.TermsSent (field : String) (values : List Json) (execution : Option String)
    (body : Members) : Prop where
  execution_sent : ∀ mode, execution = some mode → body.lookup "execution" = some (.str mode)
  values_sent : (field = "execution" → execution = none) → body.lookup field = some (.arr values)
  names : ∀ m ∈ body, m.1 = field ∨ m.1 = "execution" ∧ execution.isSome

/-- What is found in the object of a clause on a place.  Distance and unit are always there, and the
point is unless one of them has taken its place. -/
structure Filter.PlaceSent (field : String) (point : Json) (distance : Distance) (unit : String)
    (body : Members) : Prop where
  distance_sent : body.lookup "distance" = some distance.sent
  unit_sent : body.lookup "unit" = some (.str unit)
  point_sent : field ≠ "distance" → field ≠ "unit" → body.lookup field = some point
  names : ∀ m ∈ body, m.1 = field ∨ m.1 = "distance" ∨ m.1 = "unit"

theorem Leaf.terms_sent (field : String) (values : List Json) (execution : Option String) :
    ∃ body, (terms field values execution).toJson = .obj [("terms", .obj body)] ∧
      Filter.TermsSent field values execution body := by
  cases execution with
  | none =>
    refine ⟨[(field, .arr values)], rfl, nofun, fun _ => List.lookup_cons_self, ?_⟩
    exact fun m hm => .inl (List.mem_singleton.1 hm ▸ rfl)
  | some mode =>
    refine ⟨Members.insert "execution" (.str mode) [(field, .arr values)], rfl, ?_, ?_, ?_⟩
    · rintro _ ⟨⟩
      rw [Members.lookup_insert, if_pos rfl]
    · intro hfield
      have hother : field ≠ "execution" := fun h => nomatch hfield h
      rw [Members.lookup_insert, if_neg hother]
      exact List.lookup_cons_self
    · intro m hm
      rcases Members.mem_of_mem_insert hm with rfl | hm
      · exact .inr ⟨rfl, rfl⟩
      · exact .inl (List.mem_singleton.1 hm ▸ rfl)

theorem Leaf.geoDistance_sent (field : String) (point : Json) (distance : Distance)
    (unit : String) :
    ∃ body, (geoDistance field point distance.sent unit).toJson =
        .obj [("geo_distance", .obj body)] ∧
      Filter.PlaceSent field point distance unit body := by
  refine ⟨Members.insert "unit" (.str unit) (Members.insert "distance" distance.sent
    [(field, point)]), rfl, ?_, ?_, ?_, ?_⟩
  · rw [Members.lookup_insert, if_neg (by decide), Members.lookup_insert, if_pos rfl]
  · rw [Members.lookup_insert, if_pos rfl]
  · intro hdistance hunit
    rw [Members.lookup_insert, if_neg hunit, Members.lookup_insert, if_neg hdistance]
    exact List.lookup_cons_self
  · intro m hm
    rcases Members.mem_of_mem_insert hm with rfl | hm
    · exact .inr (.inr rfl)
    · rcases Members.mem_of_mem_insert hm with rfl | hm
      · exact .inr (.inl rfl)
      · exact .inl (List.mem_singleton.1 hm ▸ rfl)

/-! ## Which clauses are told apart -/

section Alike

variable {σ : Sense} {field : String}

theorem Distance.sent_alike_iff {d e : Distance} : σ.alike d.sent e.sent ↔ d = e := by
  constructor
  · intro h
    cases σ with
    | written => cases d <;> cases e <;> cases h <;> rfl
    | meant => cases d <;> cases e <;> cases h <;> rfl
  · rintro rfl
    exact alike_refl _

/-- Two clauses on several values are told apart by their modes, and by their values unless a mode
has taken their place. -/
theorem Leaf.terms_alike_iff {values values' : List Json} {execution execution' : Option String} :
    σ.alike (terms field values execution).toJson (terms field values' execution').toJson ↔
      execution = execution' ∧
        (List.Forall₂ σ.alike values values' ∨ field = "execution" ∧ execution.isSome) := by
  by_cases hfield : field = "execution"
  · subst hfield
    cases execution <;> cases execution' <;>
      simp [toJson, Members.insert, entries_singleton]
  · have hmode : "execution" ≠ field := fun h => hfield h.symm
    cases execution <;> cases execution' <;>
      simp [toJson, Members.insert, entries_cons, entries_nil_left, entries_nil_right, hfield, hmode,
        and_comm]

/-- Two clauses on places are told apart by distance and unit, and by their points unless one of
these has taken their place. -/
theorem Leaf.geoDistance_alike_iff {point point' : Json} {distance distance' : Distance}
    {unit unit' : String} :
    σ.alike (geoDistance field point distance.sent unit).toJson
        (geoDistance field point' distance'.sent unit').toJson ↔
      distance = distance' ∧ unit = unit' ∧
        (σ.alike point point' ∨ field = "distance" ∨ field = "unit") := by
  by_cases hdistance : field = "distance"
  · subst hdistance
    simp [toJson, Members.ofList, Members.insert, entries_cons, entries_nil,
      Distance.sent_alike_iff]
  · have hdistance' : "distance" ≠ field := fun h => hdistance h.symm
    by_cases hunit : field = "unit"
    · subst hunit
      simp [toJson, Members.ofList, Members.insert, entries_cons, entries_nil,
        Distance.sent_alike_iff, and_comm]
    · have hunit' : "unit" ≠ field := fun h => hunit h.symm
      simp [toJson, Members.ofList, Members.insert, entries_cons, entries_nil,
        Distance.sent_alike_iff, hdistance, hdistance', hunit, hunit']
      tauto

end Alike

namespace Filter

/-- **What is sent of a payload.**  Parameters are always sent.  What is under the field is sent unless
the field has the name of a parameter that is sent as well, and in that case two filters on the field
that differ in nothing else have one clause.  Otherwise clauses tell payloads apart. -/
theorem payload_kept_unless_shadowed (σ : Sense) (field : String) (format : Json) :
    (∀ negated values execution,
      let f : Filter := ⟨field, negated, .terms values execution⟩
      ∃ body, (f.clause format).toJson = f.enclosed (.obj [("terms", .obj body)]) ∧
        TermsSent field values execution body) ∧
    (∀ negated point distance unit,
      let f : Filter := ⟨field, negated, .geoDistance point distance unit⟩
      ∃ body, (f.clause format).toJson = f.enclosed (.obj [("geo_distance", .obj body)]) ∧
        PlaceSent field point distance unit body) ∧
    (∀ values values' execution execution',
      let f : Filter := ⟨field, false, .terms values execution⟩
      let g : Filter := ⟨field, false, .terms values' execution'⟩
      σ.alike (f.clause format).toJson (g.clause format).toJson ↔
        execution = execution' ∧
          (List.Forall₂ σ.alike values values' ∨ field = "execution" ∧ execution.isSome)) ∧
    ∀ point point' distance distance' unit unit',
      let f : Filter := ⟨field, false, .geoDistance point distance unit⟩
      let g : Filter := ⟨field, false, .geoDistance point' distance' unit'⟩
      σ.alike (f.clause format).toJson (g.clause format).toJson ↔
        distance = distance' ∧ unit = unit' ∧
          (σ.alike point point' ∨ field = "distance" ∨ field = "unit") := by
  refine ⟨?_, ?_, ?_, ?_⟩
  · intro negated values execution f
    obtain ⟨body, hbody, hsent⟩ := Leaf.terms_sent field values execution
    exact ⟨body, (f.toJson_clause format).trans (congrArg f.enclosed hbody), hsent⟩
  · intro negated point distance unit f
    obtain ⟨body, hbody, hsent⟩ := Leaf.geoDistance_sent field point distance unit
    exact ⟨body, (f.toJson_clause format).trans (congrArg f.enclosed hbody), hsent⟩
  · intro values values' execution execution' f g
    rw [f.toJson_clause, g.toJson_clause]
    exact Leaf.terms_alike_iff
  · intro point point' distance distance' unit unit' f g
    rw [f.toJson_clause, g.toJson_clause]
    exact Leaf.geoDistance_alike_iff

/-- Filters with different payloads and one clause: what was asked for is not sent. -/
theorem payload_lost_when_shadowed :
    let clauseOf := fun (field : String) (c : Constraint) =>
      ((⟨field, false, c⟩ : Filter).clause .null).toJson
    let here : Json := .obj [("lat", .int 1), ("lon", .int 2)]
    let there : Json := .obj [("lat", .int 3), ("lon", .int 4)]
    clauseOf "execution" (.terms [.str "red"] (some "and")) =
        .obj [("terms", .obj [("execution", .str "and")])] ∧
      clauseOf "execution" (.terms [.str "red"] (some "and")) =
        clauseOf "execution" (.terms [.str "blue"] (some "and")) ∧
      clauseOf "distance" (.geoDistance here .unspecified "km") =
        .obj [("geo_distance", .obj [("distance", .int 10), ("unit", .str "km")])] ∧
      clauseOf "distance" (.geoDistance here .unspecified "km") =
        clauseOf "distance" (.geoDistance there .unspecified "km") ∧
      clauseOf "unit" (.geoDistance here .unspecified "km") =
        .obj [("geo_distance", .obj [("unit", .str "km"), ("distance", .int 10)])] ∧
      clauseOf "unit" (.geoDistance here .unspecified "km") =
        clauseOf "unit" (.geoDistance there .unspecified "km") := by
  decide +kernel

end Filter

end FacetedSearch
