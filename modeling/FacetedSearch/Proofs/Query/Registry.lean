import FacetedSearch.Proofs.Query.Coherence

/-!
# The registry of aggregations

Aggregations are added, selected in and removed by field, but they are registered under keys, and
two fields that differ only in points and underscores have one key.  Calls for fields of different
keys do not touch one another.  Calls for fields of one key share one place in the registry: it is
the first of them whose aggregation is added that has it, and from then on all of them select in it
and remove it.

* `Aggregation.key_eq_key_iff` — which fields have one key.
* `Query.Registered` — a coherent query whose registry has every key once.
* `Query.aggregationOn?`, `Query.selectionOn?` — the aggregation on a field, and what is selected in
  it.
* `AggregationCall` — the calls that are made for one field.
* `Query.aggregations_independent` — how far a call for one field leaves another field alone.
-/

set_option autoImplicit false

namespace FacetedSearch

/-! ## Keys -/

namespace Aggregation

theorem key_toList (field : String) :
    (key field).toList = field.toList.map fun c => if c = '.' then '_' else c := by
  rw [key, String.toList_map]

/-- Fields have one key when they differ only in points and underscores. -/
theorem key_eq_key_iff {f g : String} :
    key f = key g ↔
      List.Forall₂ (fun c d => c = d ∨ c = '.' ∧ d = '_' ∨ c = '_' ∧ d = '.')
        f.toList g.toList := by
  have hchar (c d : Char) :
      ((if c = '.' then '_' else c) = if d = '.' then '_' else d) ↔
        c = d ∨ c = '.' ∧ d = '_' ∨ c = '_' ∧ d = '.' := by
    by_cases hc : c = '.' <;> by_cases hd : d = '.' <;> simp [hc, hd, eq_comm]
  rw [← String.toList_inj, key_toList, key_toList, ← List.forall₂_eq_eq_eq,
    List.forall₂_map_left_iff, List.forall₂_map_right_iff]
  simp only [hchar]

end Aggregation

/-! ## Keys that are registered once -/

namespace Query

/-- The registry of a coherent query in which every key stands once. -/
structure Registered (q : Query) : Prop where
  coherent : q.Coherent
  keys : (q.aggregations.map Prod.fst).Nodup

theorem registered_blank (size : Int) : (blank size).Registered :=
  ⟨coherent_blank size, List.nodup_nil⟩

theorem Moves.registered {q p : Query} (h : q.Moves p) (hq : q.Registered) : p.Registered := by
  refine ⟨h.coherent hq.coherent, ?_⟩
  have hkeys := hq.keys
  cases h with
  | addAggregation a _ => exact Members.nodup_insert hkeys _ a
  | dropAggregation key => exact Members.nodup_erase hkeys key
  | clearAggregations => exact List.nodup_nil
  | still | filters | addBoost | clearBoosts | addClause | putFacet | dropFacet | clearFacets
    | select | unselect => exact hkeys

theorem registered_afterAll (size : Int) (es : List Edit) : ((blank size).afterAll es).Registered :=
  afterAll_keeps Moves.registered (registered_blank size) es

/-! ## Aggregations by field -/

/-- The aggregation that groups by the values of a field. -/
def aggregationOn? (q : Query) (field : String) : Option Aggregation :=
  (Members.values q.aggregations).find? fun a => a.field = field

/-- What is selected in the aggregation on a field, if there is one. -/
def selectionOn? (q : Query) (field : String) : Option Json :=
  (q.aggregationOn? field).bind fun a => q.selections.lookup (Aggregation.key a.field)

variable {q : Query} {f g : String}

/-- Every aggregation is found under the key of its field. -/
theorem Registered.lookup_key (hq : q.Registered) {a : Aggregation}
    (ha : a ∈ Members.values q.aggregations) :
    q.aggregations.lookup (Aggregation.key a.field) = some a := by
  obtain ⟨⟨key, b⟩, hm, rfl⟩ := List.mem_map.1 ha
  have hkey : key = Aggregation.key b.field := (hq.coherent.aggregations _ hm).1
  exact Members.lookup_of_mem hq.keys (hkey ▸ hm)

/-- The aggregation on a field is the one under its key, if that one is on this field. -/
theorem Registered.aggregationOn?_eq (hq : q.Registered) (field : String) :
    q.aggregationOn? field =
      (q.aggregations.lookup (Aggregation.key field)).filter fun a => a.field = field := by
  ext a
  rw [Option.filter_eq_some_iff, aggregationOn?]
  constructor
  · intro h
    have hfield : a.field = field := by simpa using List.find?_some h
    have hlookup := hq.lookup_key (List.mem_of_find?_eq_some h)
    exact ⟨hfield ▸ hlookup, by simpa using hfield⟩
  · rintro ⟨hlookup, hfield⟩
    have hmem : a ∈ Members.values q.aggregations :=
      List.mem_map_of_mem (Members.mem_of_lookup hlookup)
    -- whatever is found is registered under the same key, so it is the same
    cases hfound : (Members.values q.aggregations).find? fun b => b.field = field with
    | none => exact absurd hfield (List.find?_eq_none.1 hfound a hmem)
    | some b =>
      have hb : b.field = field := by simpa using List.find?_some hfound
      have hlookup' := hq.lookup_key (List.mem_of_find?_eq_some hfound)
      rw [hb, hlookup] at hlookup'
      exact hlookup'.symm

theorem Registered.aggregationOn?_eq_none_iff (hq : q.Registered) {field : String} :
    q.aggregationOn? field = none ↔
      ∀ a, q.aggregations.lookup (Aggregation.key field) = some a → a.field ≠ field := by
  rw [hq.aggregationOn?_eq, Option.filter_eq_none_iff]
  simp

theorem Registered.lookup_of_aggregationOn? (hq : q.Registered) {field : String} {a : Aggregation}
    (h : q.aggregationOn? field = some a) :
    q.aggregations.lookup (Aggregation.key field) = some a := by
  rw [hq.aggregationOn?_eq, Option.filter_eq_some_iff] at h
  exact h.1

/-- What is under the key of a field is on a field of the same key, if not on this one. -/
theorem Registered.aggregationOn?_of_lookup (hq : q.Registered) {field : String} {a : Aggregation}
    (h : q.aggregations.lookup (Aggregation.key field) = some a) :
    Aggregation.key a.field = Aggregation.key field ∧ q.aggregationOn? a.field = some a := by
  have hkey : Aggregation.key field = Aggregation.key a.field :=
    (hq.coherent.aggregations _ (Members.mem_of_lookup h)).1
  rw [hkey] at h
  refine ⟨hkey.symm, ?_⟩
  rw [hq.aggregationOn?_eq, h]
  simp

/-- Aggregations that are registered and selections that are made under other keys do not concern a
field. -/
theorem Registered.on_congr {p : Query} (hp : p.Registered) (hq : q.Registered) {field : String}
    (haggregations : p.aggregations.lookup (Aggregation.key field) =
      q.aggregations.lookup (Aggregation.key field))
    (hselections : p.selections.lookup (Aggregation.key field) =
      q.selections.lookup (Aggregation.key field)) :
    p.aggregationOn? field = q.aggregationOn? field ∧
      p.selectionOn? field = q.selectionOn? field := by
  have hon : p.aggregationOn? field = q.aggregationOn? field := by
    rw [hp.aggregationOn?_eq, hq.aggregationOn?_eq, haggregations]
  refine ⟨hon, ?_⟩
  unfold selectionOn?
  rw [hon]
  refine Option.bind_congr fun a ha => ?_
  have hfield : a.field = field := by
    simpa using List.find?_some ha
  rw [hfield, hselections]

theorem addAggregation_of_has {a : Aggregation} {silent : Bool}
    (h : Members.has (Aggregation.key a.field) q.aggregations) :
    q.addAggregation a silent = q.unchanged := if_pos h

theorem addAggregation_of_not_has {a : Aggregation} {silent : Bool}
    (h : ¬ Members.has (Aggregation.key a.field) q.aggregations) :
    q.addAggregation a silent =
      ⟨{ q with aggregations := Members.insert (Aggregation.key a.field) a q.aggregations },
        Event.aggregations.unless silent, none⟩ := if_neg h

end Query

/-! ## Calls for one field -/

/-- The calls that are made for the aggregation on one field. -/
inductive AggregationCall where
  | addTerms (size : Json) (silent : Bool)
  | addRange (ranges : Json) (silent : Bool)
  | addDateRange (format ranges : Json) (silent : Bool)
  | select (selection : Json)
  | unselect
  | remove
  deriving DecidableEq, Repr

namespace AggregationCall

/-- The call for a field. -/
def on (field : String) : AggregationCall → Mutation
  | addTerms size silent => .addTermsAggregation (.str field) size silent
  | addRange ranges silent => .addRangeAggregation (.str field) ranges silent
  | addDateRange format ranges silent => .addDateRangeAggregation (.str field) format ranges silent
  | select selection => .selectAggregation (.str field) selection
  | unselect => .unselectAggregation (.str field)
  | remove => .removeAggregation (.str field)

/-- Whether an aggregation is to be added. -/
def isAdd : AggregationCall → Bool
  | addTerms _ _ | addRange _ _ | addDateRange _ _ _ => true
  | select _ | unselect | remove => false

open Query

variable {op : AggregationCall} {q : Query} {f g : String}

theorem field_of_required {field name : String} {ms : Members}
    (h : Checked.required (("field", .str field) :: ms) "field" Checked.string = .ok name) :
    name = field := by
  cases h
  rfl

/-- What is added is an aggregation on the field that was given. -/
theorem exists_of_isAdd (hadd : op.isAdd) {c : Change} (h : (op.on g).apply q = .ok c) :
    ∃ a silent, a.field = g ∧ c = q.addAggregation a silent := by
  cases op with
  | addTerms _ silent | addRange _ silent =>
    obtain ⟨a, ha, h⟩ := bind_eq_ok_iff.1 h
    obtain ⟨_, _, hfield, -, rfl⟩ := Checked.seq_eq_ok_iff.1 (Checked.orFail_eq_ok_iff.1 ha)
    obtain ⟨_, hname, rfl⟩ := Checked.map_eq_ok_iff.1 hfield
    cases h
    exact ⟨_, silent, field_of_required hname, rfl⟩
  | addDateRange _ _ silent =>
    obtain ⟨a, ha, h⟩ := bind_eq_ok_iff.1 h
    obtain ⟨_, _, hformat, -, rfl⟩ := Checked.seq_eq_ok_iff.1 (Checked.orFail_eq_ok_iff.1 ha)
    obtain ⟨_, _, hfield, -, rfl⟩ := Checked.seq_eq_ok_iff.1 hformat
    obtain ⟨_, hname, rfl⟩ := Checked.map_eq_ok_iff.1 hfield
    cases h
    exact ⟨_, silent, field_of_required hname, rfl⟩
  | select | unselect | remove => cases hadd

/-- Adding an aggregation, however it ends, leaves the query as it is or registers an aggregation on
the field that was given under a key that was free. -/
theorem after_of_isAdd (hadd : op.isAdd) (q : Query) (g : String) :
    q.after (.mutation (op.on g)) = q ∨
      ∃ a, a.field = g ∧ ¬ Members.has (Aggregation.key g) q.aggregations ∧
        q.after (.mutation (op.on g)) =
          { q with aggregations := Members.insert (Aggregation.key g) a q.aggregations } := by
  rw [after_mutation]
  cases happly : (op.on g).apply q with
  | error e => exact .inl rfl
  | ok c =>
    obtain ⟨a, silent, rfl, rfl⟩ := exists_of_isAdd hadd happly
    by_cases hhas : Members.has (Aggregation.key a.field) q.aggregations
    · exact .inl (by rw [addAggregation_of_has hhas]; rfl)
    · exact .inr ⟨a, rfl, hhas, by rw [addAggregation_of_not_has hhas]⟩

/-- An aggregation that is added does not concern other fields, of whatever key. -/
theorem on_after_add (hadd : op.isAdd) (hne : f ≠ g) :
    (q.after (.mutation (op.on g))).aggregationOn? f = q.aggregationOn? f ∧
      (q.after (.mutation (op.on g))).selectionOn? f = q.selectionOn? f := by
  rcases after_of_isAdd hadd q g with h | ⟨a, hfield, hfree, h⟩
  · rw [h]
    exact ⟨rfl, rfl⟩
  · have hvalues : Members.values (Members.insert (Aggregation.key g) a q.aggregations) =
        Members.values q.aggregations ++ [a] := by
      rw [Members.insert_of_not_has hfree, Members.values, List.map_append]
      rfl
    have hon : (q.after (.mutation (op.on g))).aggregationOn? f = q.aggregationOn? f := by
      rw [h, aggregationOn?, aggregationOn?, hvalues, List.find?_append]
      have hother : [a].find? (fun b => b.field = f) = none := by
        simp [hfield, Ne.symm hne]
      rw [hother, Option.or_none]
    refine ⟨hon, ?_⟩
    unfold selectionOn?
    rw [hon, h]

/-- A call that adds nothing looks at no more than the key of the field that it is made for. -/
theorem apply_congr (hadd : ¬ op.isAdd) (hkey : Aggregation.key f = Aggregation.key g) (q : Query) :
    (op.on g).apply q = (op.on f).apply q := by
  cases op with
  | addTerms | addRange | addDateRange => exact absurd rfl hadd
  | select | unselect | remove =>
    unfold on
    dsimp only [Mutation.apply, Mutation.keyOf]
    rw [hkey]

theorem after_select (q : Query) (g : String) (selection : Json) :
    q.after (.mutation ((select selection).on g)) =
      if Members.has (Aggregation.key g) q.aggregations then
        { q with selections := Members.insert (Aggregation.key g) selection q.selections }
      else q := by
  rw [after_mutation]
  by_cases hhas : Members.has (Aggregation.key g) q.aggregations
  · have happly : ((select selection).on g).apply q = .ok { q.unchanged with
        query := { q with
          selections := Members.insert (Aggregation.key g) selection q.selections } } := if_pos hhas
    rw [happly, if_pos hhas]
  · have happly : ((select selection).on g).apply q = .ok q.unchanged := if_neg hhas
    rw [happly, if_neg hhas]
    rfl

/-- A call that adds nothing leaves the place of every other key as it is. -/
theorem lookup_after_of_ne (hadd : ¬ op.isAdd) (q : Query) {key : String}
    (hkey : key ≠ Aggregation.key g) :
    (q.after (.mutation (op.on g))).aggregations.lookup key = q.aggregations.lookup key ∧
      (q.after (.mutation (op.on g))).selections.lookup key = q.selections.lookup key := by
  have herase {α : Type} (ms : List (String × α)) :
      (Members.erase (Aggregation.key g) ms).lookup key = ms.lookup key := by
    rw [Members.lookup_erase, if_neg hkey]
  cases op with
  | addTerms | addRange | addDateRange => exact absurd rfl hadd
  | select selection =>
    rw [after_select]
    split
    · exact ⟨rfl, by rw [Members.lookup_insert, if_neg hkey]⟩
    · exact ⟨rfl, rfl⟩
  | unselect => exact ⟨rfl, herase q.selections⟩
  | remove => exact ⟨herase q.aggregations, herase q.selections⟩

theorem lookup_of_lookup_after (hadd : ¬ op.isAdd) {key : String} {a : Aggregation}
    (h : (q.after (.mutation (op.on g))).aggregations.lookup key = some a) :
    q.aggregations.lookup key = some a := by
  cases op with
  | addTerms | addRange | addDateRange => exact absurd rfl hadd
  | select selection =>
    rw [after_select] at h
    split at h <;> exact h
  | unselect => exact h
  | remove =>
    have herased : (Members.erase (Aggregation.key g) q.aggregations).lookup key = some a := h
    rw [Members.lookup_erase] at herased
    split at herased
    · cases herased
    · exact herased

/-- A call that adds nothing does not concern a field of another key, nor one without an
aggregation. -/
theorem on_after_other (hq : q.Registered) (hadd : ¬ op.isAdd)
    (h : Aggregation.key f ≠ Aggregation.key g ∨ q.aggregationOn? f = none) :
    (q.after (.mutation (op.on g))).aggregationOn? f = q.aggregationOn? f ∧
      (q.after (.mutation (op.on g))).selectionOn? f = q.selectionOn? f := by
  have hp : (q.after (.mutation (op.on g))).Registered := (q.moves_after _).registered hq
  rcases h with hkey | hnone
  · obtain ⟨haggregations, hselections⟩ := lookup_after_of_ne hadd q hkey
    exact hp.on_congr hq haggregations hselections
  · have hnone' : (q.after (.mutation (op.on g))).aggregationOn? f = none := by
      rw [hp.aggregationOn?_eq_none_iff]
      rw [hq.aggregationOn?_eq_none_iff] at hnone
      exact fun a ha => hnone a (lookup_of_lookup_after hadd ha)
    unfold selectionOn?
    rw [hnone', hnone]
    exact ⟨rfl, rfl⟩

/-- A valid call that adds an aggregation on a field which had none registers it, unless the place
has been taken for another field. -/
theorem aggregationOn?_after_add (hq : q.Registered) (hadd : op.isAdd)
    (hnone : q.aggregationOn? g = none) (hvalid : ∃ c, (op.on g).apply q = .ok c) :
    (q.aggregations.lookup (Aggregation.key g) = none →
      ∃ a, (q.after (.mutation (op.on g))).aggregationOn? g = some a) ∧
    ∀ b, q.aggregations.lookup (Aggregation.key g) = some b →
      b.field ≠ g ∧ q.after (.mutation (op.on g)) = q := by
  have hp : (q.after (.mutation (op.on g))).Registered := (q.moves_after _).registered hq
  obtain ⟨c, hc⟩ := hvalid
  obtain ⟨a, silent, rfl, rfl⟩ := exists_of_isAdd hadd hc
  have hafter : q.after (.mutation (op.on a.field)) = (q.addAggregation a silent).query := by
    rw [after_mutation, hc]
  constructor
  · intro hfree
    have hhas : ¬ Members.has (Aggregation.key a.field) q.aggregations := by
      simp [Members.has, hfree]
    refine ⟨a, ?_⟩
    rw [hp.aggregationOn?_eq, hafter, addAggregation_of_not_has hhas, Members.lookup_insert,
      if_pos rfl]
    simp
  · intro b hb
    have hhas : Members.has (Aggregation.key a.field) q.aggregations := by
      simp [Members.has, hb]
    refine ⟨hq.aggregationOn?_eq_none_iff.1 hnone b hb, ?_⟩
    rw [hafter, addAggregation_of_has hhas]
    rfl

end AggregationCall

namespace Query

/-- **How far aggregations on different fields are independent.**  However a query came about, a
call for one field leaves the aggregation on any other field and what is selected in it alone when it
adds, when the fields have different keys, or when there is no aggregation on the other field.
Otherwise it is as if the call was made for the other field.  An aggregation that is validly added on
a field that had none is there afterwards, unless an aggregation on another field has the place: then
nothing changes.  Fields have the same key when one has points where the other has underscores. -/
theorem aggregations_independent (size : Int) (es : List Edit) {f g : String} (hne : f ≠ g)
    (op : AggregationCall) :
    let q := (blank size).afterAll es
    let p := q.after (.mutation (op.on g))
    (op.isAdd ∨ Aggregation.key f ≠ Aggregation.key g ∨ q.aggregationOn? f = none →
      p.aggregationOn? f = q.aggregationOn? f ∧ p.selectionOn? f = q.selectionOn? f) ∧
    (¬ op.isAdd → Aggregation.key f = Aggregation.key g → p = q.after (.mutation (op.on f))) ∧
    (op.isAdd → q.aggregationOn? g = none → (∃ c, (op.on g).apply q = .ok c) →
      (q.aggregations.lookup (Aggregation.key g) = none → ∃ a, p.aggregationOn? g = some a) ∧
      ∀ b, q.aggregations.lookup (Aggregation.key g) = some b → b.field ≠ g ∧ p = q) ∧
    (Aggregation.key f = Aggregation.key g ↔
      List.Forall₂ (fun c d => c = d ∨ c = '.' ∧ d = '_' ∨ c = '_' ∧ d = '.')
        f.toList g.toList) := by
  intro q p
  have hq : q.Registered := registered_afterAll size es
  refine ⟨fun h => ?_, fun hadd hkey => ?_, fun hadd hnone hvalid => ?_, Aggregation.key_eq_key_iff⟩
  · by_cases hadd : op.isAdd
    · exact AggregationCall.on_after_add hadd hne
    · exact AggregationCall.on_after_other hq hadd (h.resolve_left hadd)
  · show q.after _ = _
    rw [after_mutation, after_mutation, AggregationCall.apply_congr hadd hkey]
  · exact AggregationCall.aggregationOn?_after_add hq hadd hnone hvalid

/-- Calls beside an aggregation on one field: one that adds on a field of the same key, one that
removes on it, and one that adds on a field of another key. -/
theorem aggregations_independent_maker :
    let es : List Edit := [.mutation (.addTermsAggregation (.str "maker.name") .null false)]
    let q := (blank 10).afterAll es
    let add := AggregationCall.addTerms (.int 5) false
    "maker.name" ≠ "maker_name" ∧ "maker.name" ≠ "color" ∧
      (q.after (.mutation (add.on "maker_name"))).aggregationOn? "maker.name" =
        q.aggregationOn? "maker.name" ∧
      q.after (.mutation (AggregationCall.remove.on "maker_name")) =
        q.after (.mutation (AggregationCall.remove.on "maker.name")) ∧
      ∃ a, (q.after (.mutation (add.on "color"))).aggregationOn? "color" = some a := by
  intro es q add
  have hmaker : "maker.name" ≠ "maker_name" := by decide
  have hcolor : "maker.name" ≠ "color" := by decide
  have hpoint : Aggregation.key "maker.name" = "maker_name" := by decide +kernel
  have hscore : Aggregation.key "maker_name" = "maker_name" := by decide +kernel
  have hregistry : q.aggregations = [("maker_name", ⟨"maker.name", .terms none⟩)] := by
    decide +kernel
  have hnone : q.aggregationOn? "color" = none := by
    rw [aggregationOn?, hregistry]
    decide
  have hfree : q.aggregations.lookup (Aggregation.key "color") = none := by
    rw [hregistry]
    decide +kernel
  have hadd := (aggregations_independent 10 es hmaker add).1 (.inl rfl)
  have hremove := (aggregations_independent 10 es hmaker .remove).2.1 nofun
    (hpoint.trans hscore.symm)
  have hnew := (aggregations_independent 10 es hcolor add).2.2.1 rfl hnone ⟨_, rfl⟩
  exact ⟨hmaker, hcolor, hadd.1, hremove, hnew.1 hfree⟩

/-- Two fields of one key: removing the aggregation on the one that has none removes the aggregation
on the other, and one that is validly added on it is not there. -/
theorem aggregations_interfere :
    let q : Query := { blank 10 with
      aggregations := [("maker_name", ⟨"maker.name", .terms none⟩)] }
    let removed := q.after (.mutation (AggregationCall.remove.on "maker_name"))
    let add := (AggregationCall.addTerms .null false).on "maker_name"
    (blank 10).afterAll [.mutation (.addTermsAggregation (.str "maker.name") .null false)] = q ∧
      "maker.name" ≠ "maker_name" ∧
      q.aggregationOn? "maker.name" = some ⟨"maker.name", .terms none⟩ ∧
      removed.aggregationOn? "maker.name" = none ∧
      q.aggregationOn? "maker_name" = none ∧ add.apply q = .ok q.unchanged ∧
      (q.after (.mutation add)).aggregationOn? "maker_name" = none := by
  decide +kernel

end Query

end FacetedSearch
