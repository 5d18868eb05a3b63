import FacetedSearch.Proofs.Json.Members
import FacetedSearch.Query.Mutation
import Mathlib.Data.List.DropRight
import Mathlib.Data.List.Induction

/-!
# Calls for the registries of a query

Boosts, aggregations, selections and facets are kept by field or by key, each by a rule of its own.
An aggregation and a boost stay as they were first given, a facet over time replaces what is there, a
selection is only taken while there is something to select in, and goes when that goes.  What the
registries hold after a run of calls can be read off the calls, without following the registries
through them.

* `RegistryCall`, `Registries.after` — a call with its arguments read, and what it does.
* `RegistryCall.since` — the calls after the last one that took off what is asked about.
* `RegistryCall.IsLastSelection` — the selection that counts, told by the calls alone.
* `Registries.lookup_aggregations_run`, `Registries.boosts_run`, `Registries.lookup_facets_run`,
  `Registries.lookup_selections_run_iff` — what a run of calls leaves in each registry.
-/

set_option autoImplicit false

namespace FacetedSearch

/-! ## Calls -/

/-- A call for the registries of a query, its arguments read. -/
inductive RegistryCall where
  | addAggregation (a : Aggregation)
  | dropAggregation (key : String)
  | clearAggregations
  | select (key : String) (selection : Json)
  | unselect (key : String)
  | addBoost (b : BoostField)
  | clearBoosts
  /-- a facet, unless the field has one -/
  | addFacet (f : Facet)
  /-- a facet in place of the one that the field has -/
  | putFacet (f : Facet)
  | dropFacet (field : String)
  | clearFacets
  deriving DecidableEq, Repr

/-! ## Registries -/

/-- Give a member a value unless it has one. -/
def Members.insertNew {α : Type} (key : String) (value : α) (ms : List (String × α)) :
    List (String × α) :=
  if has key ms then ms else insert key value ms

theorem Members.nodup_insertNew {α : Type} {ms : List (String × α)} (h : (ms.map Prod.fst).Nodup)
    (key : String) (x : α) : ((insertNew key x ms).map Prod.fst).Nodup := by
  unfold insertNew
  split
  · exact h
  · exact nodup_insert h key x

/-- What a member has stays. -/
theorem Members.lookup_insertNew {α : Type} (key name : String) (x : α) (ms : List (String × α)) :
    (insertNew key x ms).lookup name = (ms.lookup name).or (if key = name then some x else none) := by
  unfold insertNew
  by_cases hkey : key = name
  · subst hkey
    cases hold : ms.lookup key with
    | none => simp [has, hold, lookup_insert]
    | some y => simp [has, hold]
  · have hother : (insert key x ms).lookup name = ms.lookup name := by
      rw [lookup_insert, if_neg (Ne.symm hkey)]
    rw [if_neg hkey, Option.or_none]
    split
    · rfl
    · exact hother

namespace RegistryCall

/-- The aggregations after a call. -/
def onAggregations (as : List (String × Aggregation)) :
    RegistryCall → List (String × Aggregation)
  | addAggregation a => Members.insertNew (Aggregation.key a.field) a as
  | dropAggregation key => Members.erase key as
  | clearAggregations => []
  | _ => as

/-- What is selected after a call, given the aggregations before it. -/
def onSelections (as : List (String × Aggregation)) (xs : List (String × Json)) :
    RegistryCall → List (String × Json)
  | select key selection =>
    if Members.has key as then Members.insert key selection xs else xs
  | unselect key | dropAggregation key => Members.erase key xs
  | clearAggregations => []
  | _ => xs

/-- The boosts after a call. -/
def onBoosts (bs : List BoostField) : RegistryCall → List BoostField
  | addBoost b => if bs.any fun c => c.field = b.field then bs else bs ++ [b]
  | clearBoosts => []
  | _ => bs

/-- The facets after a call. -/
def onFacets (fs : List (String × Facet)) : RegistryCall → List (String × Facet)
  | addFacet f => Members.insertNew f.field f fs
  | putFacet f => Members.insert f.field f fs
  | dropFacet field => Members.erase field fs
  | clearFacets => []
  | _ => fs

end RegistryCall

/-- What a query has registered. -/
structure Registries where
  aggregations : List (String × Aggregation)
  selections : List (String × Json)
  boosts : List BoostField
  facets : List (String × Facet)

namespace Registries

/-- Nothing is registered. -/
def empty : Registries := ⟨[], [], [], []⟩

/-- The registries after a call. -/
def after (r : Registries) (c : RegistryCall) : Registries where
  aggregations := c.onAggregations r.aggregations
  selections := c.onSelections r.aggregations r.selections
  boosts := c.onBoosts r.boosts
  facets := c.onFacets r.facets

/-- The registries after a run of calls that found nothing registered. -/
def run (calls : List RegistryCall) : Registries := calls.foldl after empty

theorem run_concat (calls : List RegistryCall) (c : RegistryCall) :
    run (calls ++ [c]) = (run calls).after c := List.foldl_append ..

end Registries

/-! ## What a call is about -/

namespace RegistryCall

/-- The aggregation that a call adds under a key. -/
def aggregation? (key : String) : RegistryCall → Option Aggregation
  | addAggregation a => if Aggregation.key a.field = key then some a else none
  | _ => none

/-- Whether a call takes off what is registered under a key. -/
def dropsAggregation (key : String) : RegistryCall → Bool
  | dropAggregation k => k = key
  | clearAggregations => true
  | _ => false

/-- Whether a call takes off what is selected under a key. -/
def unselects (key : String) : RegistryCall → Bool
  | unselect k | dropAggregation k => k = key
  | clearAggregations => true
  | _ => false

/-- The boost that a call gives. -/
def boost? : RegistryCall → Option BoostField
  | addBoost b => some b
  | _ => none

/-- Whether a call takes off all boosts. -/
def clearsBoosts : RegistryCall → Bool
  | clearBoosts => true
  | _ => false

/-- The facet that a call adds on a field unless there is one. -/
def addedFacet? (field : String) : RegistryCall → Option Facet
  | addFacet f => if f.field = field then some f else none
  | _ => none

/-- The facet that a call puts on a field whatever is there. -/
def putFacet? (field : String) : RegistryCall → Option Facet
  | putFacet f => if f.field = field then some f else none
  | _ => none

/-- Whether a call takes off the facet on a field. -/
def dropsFacet (field : String) : RegistryCall → Bool
  | dropFacet name => name = field
  | clearFacets => true
  | _ => false

/-- The calls after the last one of a sort, or all of them if there is none. -/
def since (isReset : RegistryCall → Bool) (calls : List RegistryCall) : List RegistryCall :=
  calls.rtakeWhile fun c => !isReset c

theorem since_concat (isReset : RegistryCall → Bool) (calls : List RegistryCall)
    (c : RegistryCall) :
    since isReset (calls ++ [c]) = if isReset c then [] else since isReset calls ++ [c] := by
  rw [since, List.rtakeWhile_concat]
  cases isReset c <;> rfl

/-- The first aggregation that was added under a key since what was there was taken off. -/
def firstAggregation? (key : String) (calls : List RegistryCall) : Option Aggregation :=
  (since (dropsAggregation key) calls).findSome? (aggregation? key)

/-- The last selection that was made under a key while an aggregation was registered there, with no
call after it that took it off. -/
def IsLastSelection (calls : List RegistryCall) (key : String) (selection : Json) : Prop :=
  ∃ before after, calls = before ++ select key selection :: after ∧
    (firstAggregation? key before).isSome ∧
    ∀ between c rest, after = between ++ c :: rest →
      ¬ c.unselects key ∧
        ∀ other, c = select key other →
          ¬ (firstAggregation? key (before ++ select key selection :: between)).isSome

theorem not_isLastSelection_nil (key : String) (selection : Json) :
    ¬ IsLastSelection [] key selection := by
  rintro ⟨before, after, h, -⟩
  simp at h

/-- One more call makes the last selection, takes it off, or leaves it. -/
theorem isLastSelection_concat {calls : List RegistryCall} {c : RegistryCall} {key : String}
    {selection : Json} :
    IsLastSelection (calls ++ [c]) key selection ↔
      c = select key selection ∧ (firstAggregation? key calls).isSome ∨
        IsLastSelection calls key selection ∧ ¬ c.unselects key ∧
          ∀ other, c = select key other → ¬ (firstAggregation? key calls).isSome := by
  constructor
  · rintro ⟨before, after, hcalls, hregistered, hafter⟩
    rcases List.eq_nil_or_concat after with rfl | ⟨after, last, rfl⟩
    · obtain ⟨rfl, hlast⟩ := List.append_inj' hcalls rfl
      cases hlast
      exact .inl ⟨rfl, hregistered⟩
    · rw [List.concat_eq_append] at hcalls hafter
      rw [← List.cons_append, ← List.append_assoc] at hcalls
      obtain ⟨rfl, hlast⟩ := List.append_inj' hcalls rfl
      cases hlast
      refine .inr ⟨⟨before, after, rfl, hregistered, ?_⟩, hafter after c [] rfl⟩
      rintro between c' rest rfl
      exact hafter between c' (rest ++ [c]) (by simp)
  · rintro (⟨rfl, hregistered⟩ | ⟨⟨before, after, rfl, hregistered, hafter⟩, hc⟩)
    · refine ⟨calls, [], rfl, hregistered, ?_⟩
      intro between c' rest h
      simp at h
    · refine ⟨before, after ++ [c], by simp, hregistered, ?_⟩
      intro between c' rest h
      rcases List.eq_nil_or_concat rest with rfl | ⟨rest, last, rfl⟩
      · obtain ⟨rfl, hlast⟩ := List.append_inj' h rfl
        cases hlast
        exact hc
      · rw [List.concat_eq_append, ← List.cons_append, ← List.append_assoc] at h
        obtain ⟨rfl, -⟩ := List.append_inj' h rfl
        exact hafter between c' rest rfl

end RegistryCall

/-! ## What one call does -/

namespace RegistryCall

theorem lookup_onAggregations (as : List (String × Aggregation)) (c : RegistryCall)
    (key : String) :
    (c.onAggregations as).lookup key =
      if c.dropsAggregation key then none else (as.lookup key).or (c.aggregation? key) := by
  cases c with
  | addAggregation a => exact Members.lookup_insertNew _ key a as
  | dropAggregation k =>
    show (Members.erase k as).lookup key = _
    rw [Members.lookup_erase]
    by_cases hkey : key = k
    · simp [hkey, dropsAggregation]
    · simp [hkey, Ne.symm hkey, dropsAggregation, aggregation?]
  | clearAggregations => rfl
  | _ => exact Option.or_none.symm

theorem lookup_onFacets (fs : List (String × Facet)) (c : RegistryCall) (field : String) :
    (c.onFacets fs).lookup field =
      if c.dropsFacet field then none
      else (c.putFacet? field).or ((fs.lookup field).or (c.addedFacet? field)) := by
  cases c with
  | addFacet f => exact Members.lookup_insertNew f.field field f fs
  | putFacet f =>
    show (Members.insert f.field f fs).lookup field = _
    rw [Members.lookup_insert]
    by_cases hfield : field = f.field
    · simp [hfield, dropsFacet, putFacet?]
    · simp [hfield, Ne.symm hfield, dropsFacet, putFacet?, addedFacet?]
  | dropFacet name =>
    show (Members.erase name fs).lookup field = _
    rw [Members.lookup_erase]
    by_cases hfield : field = name
    · simp [hfield, dropsFacet]
    · simp [hfield, Ne.symm hfield, dropsFacet, putFacet?, addedFacet?]
  | clearFacets => rfl
  | _ => exact Option.or_none.symm

theorem lookup_onSelections_iff {as : List (String × Aggregation)} {xs : List (String × Json)}
    {c : RegistryCall} {key : String} {selection : Json} :
    (c.onSelections as xs).lookup key = some selection ↔
      c = select key selection ∧ Members.has key as ∨
        xs.lookup key = some selection ∧ ¬ c.unselects key ∧
          ∀ other, c = select key other → ¬ Members.has key as := by
  cases c with
  | select k x =>
    unfold onSelections
    dsimp only
    by_cases hkey : k = key
    · subst hkey
      by_cases hhas : Members.has k as <;> simp [hhas, Members.lookup_insert, unselects]
    · have hother : (Members.insert k x xs).lookup key = xs.lookup key := by
        rw [Members.lookup_insert, if_neg (Ne.symm hkey)]
      split <;> simp [hkey, hother, unselects]
  | unselect k | dropAggregation k =>
    show (Members.erase k xs).lookup key = _ ↔ _
    rw [Members.lookup_erase]
    by_cases hkey : key = k
    · simp [hkey, unselects]
    · simp [hkey, Ne.symm hkey, unselects]
  | clearAggregations => simp [onSelections, unselects]
  | _ => simp [onSelections, unselects]

end RegistryCall

/-! ## What a run of calls leaves -/

/-- The boosts are the first ones given for their fields, in the order in which the fields were first
given one. -/
structure BoostField.FirstOf (given bs : List BoostField) : Prop where
  fields : bs.map BoostField.field = (given.map BoostField.field).eraseDups
  first : ∀ b ∈ bs, given.find? (fun c => c.field = b.field) = some b

/-- One more boost is the first for its field, or is of no account. -/
theorem BoostField.FirstOf.add {given bs : List BoostField} (h : FirstOf given bs) (b : BoostField) :
    FirstOf (given ++ [b]) (if bs.any fun c => c.field = b.field then bs else bs ++ [b]) := by
  have hknown : (bs.any fun c => c.field = b.field) = true ↔
      b.field ∈ given.map BoostField.field := by
    rw [← List.mem_eraseDups, ← h.fields]
    simp
  have hnew (name : String) (names : List String) :
      ([name].removeAll names).eraseDups = if name ∈ names then [] else [name] := by
    by_cases hname : name ∈ names <;> simp [List.removeAll, hname, List.eraseDups_cons]
  have hfields : ((given ++ [b]).map BoostField.field).eraseDups =
      bs.map BoostField.field ++
        if b.field ∈ given.map BoostField.field then [] else [b.field] := by
    rw [List.map_append, h.fields, ← hnew]
    exact List.eraseDups_append
  have hstill : ∀ d ∈ bs, (given ++ [b]).find? (fun c => c.field = d.field) = some d := by
    intro d hd
    rw [List.find?_append, h.first d hd]
    rfl
  by_cases hb : b.field ∈ given.map BoostField.field
  · rw [if_pos (hknown.2 hb)]
    refine ⟨?_, hstill⟩
    rw [hfields, if_pos hb, List.append_nil]
  · rw [if_neg (mt hknown.1 hb)]
    refine ⟨?_, List.forall_mem_append.2 ⟨hstill, List.forall_mem_singleton.2 ?_⟩⟩
    · rw [hfields, if_neg hb, List.map_append]
      rfl
    · have hnone : given.find? (fun c => c.field = b.field) = none := by
        rw [List.find?_eq_none]
        intro c hc hsame
        exact hb (List.mem_map.2 ⟨c, hc, of_decide_eq_true hsame⟩)
      rw [List.find?_append, hnone]
      simp

namespace Registries

open RegistryCall

/-- Names stand once in each registry. -/
structure Distinct (r : Registries) : Prop where
  aggregations : (r.aggregations.map Prod.fst).Nodup
  selections : (r.selections.map Prod.fst).Nodup
  facets : (r.facets.map Prod.fst).Nodup

theorem Distinct.after {r : Registries} (h : r.Distinct) (c : RegistryCall) :
    (r.after c).Distinct := by
  constructor
  · show ((c.onAggregations r.aggregations).map Prod.fst).Nodup
    cases c with
    | addAggregation a => exact Members.nodup_insertNew h.aggregations _ a
    | dropAggregation key => exact Members.nodup_erase h.aggregations key
    | clearAggregations => exact List.nodup_nil
    | _ => exact h.aggregations
  · show ((c.onSelections r.aggregations r.selections).map Prod.fst).Nodup
    cases c with
    | select key selection =>
      unfold onSelections
      dsimp only
      split
      · exact Members.nodup_insert h.selections key selection
      · exact h.selections
    | unselect key | dropAggregation key => exact Members.nodup_erase h.selections key
    | clearAggregations => exact List.nodup_nil
    | _ => exact h.selections
  · show ((c.onFacets r.facets).map Prod.fst).Nodup
    cases c with
    | addFacet f => exact Members.nodup_insertNew h.facets _ f
    | putFacet f => exact Members.nodup_insert h.facets _ f
    | dropFacet field => exact Members.nodup_erase h.facets field
    | clearFacets => exact List.nodup_nil
    | _ => exact h.facets

theorem distinct_run (calls : List RegistryCall) : (run calls).Distinct := by
  induction calls using List.reverseRecOn with
  | nil => exact ⟨List.nodup_nil, List.nodup_nil, List.nodup_nil⟩
  | append_singleton calls c ih =>
    rw [run_concat]
    exact ih.after c

/-- **An aggregation stays as it was first added**, until it is taken off. -/
theorem lookup_aggregations_run (calls : List RegistryCall) (key : String) :
    (run calls).aggregations.lookup key = firstAggregation? key calls := by
  unfold firstAggregation?
  induction calls using List.reverseRecOn with
  | nil => rfl
  | append_singleton calls c ih =>
    rw [run_concat, since_concat]
    show (c.onAggregations (run calls).aggregations).lookup key = _
    rw [lookup_onAggregations, ih]
    cases c.dropsAggregation key with
    | true => rfl
    | false =>
      rw [if_neg (by decide), if_neg (by decide), List.findSome?_append]
      cases hc : c.aggregation? key <;> simp [hc]

/-- **A facet over time replaces what is there**, and a facet that is merely added does not. -/
theorem lookup_facets_run (calls : List RegistryCall) (field : String) :
    (run calls).facets.lookup field =
      ((since (dropsFacet field) calls).reverse.findSome? (putFacet? field)).or
        ((since (dropsFacet field) calls).findSome? (addedFacet? field)) := by
  induction calls using List.reverseRecOn with
  | nil => rfl
  | append_singleton calls c ih =>
    rw [run_concat, since_concat]
    show (c.onFacets (run calls).facets).lookup field = _
    rw [lookup_onFacets, ih]
    cases c.dropsFacet field with
    | true => rfl
    | false =>
      rw [if_neg (by decide), if_neg (by decide), List.reverse_append, List.findSome?_append,
        List.findSome?_append]
      cases hput : c.putFacet? field <;> cases hadded : c.addedFacet? field <;>
        simp [hput, hadded]

/-- **A selection is the last one that was made**, as long as there was something to select in and
nothing took it off. -/
theorem lookup_selections_run_iff {calls : List RegistryCall} {key : String} {selection : Json} :
    (run calls).selections.lookup key = some selection ↔
      IsLastSelection calls key selection := by
  induction calls using List.reverseRecOn with
  | nil => exact ⟨nofun, fun h => absurd h (not_isLastSelection_nil key selection)⟩
  | append_singleton calls c ih =>
    rw [run_concat, isLastSelection_concat, ← ih, ← lookup_aggregations_run]
    show (c.onSelections (run calls).aggregations (run calls).selections).lookup key = _ ↔ _
    exact lookup_onSelections_iff

/-- **A field has the boost that it was first given**, and fields come in the order in which they
were first boosted. -/
theorem boosts_run (calls : List RegistryCall) :
    BoostField.FirstOf ((since clearsBoosts calls).filterMap boost?) (run calls).boosts := by
  induction calls using List.reverseRecOn with
  | nil => exact ⟨rfl, nofun⟩
  | append_singleton calls c ih =>
    rw [run_concat, since_concat]
    show BoostField.FirstOf _ (c.onBoosts (run calls).boosts)
    cases c with
    | clearBoosts => exact ⟨rfl, nofun⟩
    | addBoost b =>
      show BoostField.FirstOf ((since clearsBoosts calls ++ [addBoost b]).filterMap boost?) _
      rw [List.filterMap_append]
      exact ih.add b
    | _ =>
      show BoostField.FirstOf ((since clearsBoosts calls ++ [_]).filterMap boost?) _
      rw [List.filterMap_append]
      exact (List.append_nil _).symm ▸ ih

end Registries

end FacetedSearch
