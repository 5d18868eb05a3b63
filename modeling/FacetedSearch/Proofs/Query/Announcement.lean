import FacetedSearch.Proofs.Query.Update

/-!
# Changes and their announcements

Every call that changes a query is for one part of it, and each of these parts but the selections
has an event.  The calls differ in when they announce what they did: always, only when something was
taken off, only when something new was put in, never.  Whatever the rule of a call is, its
announcement covers what the call changed.

* `Event.Covers` — the parts that may be different after an event.
* `Edit.event?`, `Edit.isSilent` — the event of the part that an edit is for, and whether the edit
  is asked to keep still.
* `Query.Changes` — all that can come of an edit, with what is announced.
* `LiveQuery.ToldBy` — an event, or that there was none, tells what was done to a live query.
-/

set_option autoImplicit false

namespace FacetedSearch

/-! ## Events and parts -/

namespace Event

/-- The part whose changes an event announces. -/
def part : Event → Part
  | filters => .filters
  | boosts => .boosts
  | clauses => .clauses
  | facets => .facets
  | aggregations => .aggregations

/-- An event goes by the name under which its part is written. -/
theorem part_name (event : Event) : event.part.name = event.name := by
  cases event <;> rfl

theorem eq_part_of_name {event : Event} {part : Part} (h : part.name = event.name) :
    part = event.part := by
  refine Part.eq_of_mem_names part.name_mem_names ?_
  rw [h, ← event.part_name]
  exact event.part.name_mem_names

/-- The parts that may be different after an event: what is selected goes with the aggregations. -/
def Covers (event : Event) (part : Part) : Prop :=
  part = event.part ∨ event = .aggregations ∧ part = .selections

theorem part_ne_selections (event : Event) : event.part ≠ .selections := by
  cases event <;> decide

end Event

namespace Part

/-- The query with another value of a part. -/
def put (q : Query) : (part : Part) → part.Value → Query
  | text, value => { q with text := value }
  | ids, value => { q with ids := value }
  | boosts, value => { q with boosts := value }
  | clauses, value => { q with clauses := value }
  | filters, value => { q with filters := value }
  | aggregations, value => { q with aggregations := value }
  | selections, value => { q with selections := value }
  | facets, value => { q with facets := value }
  | sort, value => { q with sort := value }
  | highlights, value => { q with highlights := value }
  | size, value => { q with size := value }
  | start, value => { q with start := value }
  | mode, value => { q with mode := value }

/-- Writing a part leaves all others as they are. -/
theorem get_put_of_ne (q : Query) (written : Part) (value : written.Value) {part : Part}
    (h : part ≠ written) : part.get (written.put q value) = part.get q := by
  cases written <;> cases part <;> first | rfl | exact absurd rfl h

end Part

/-! ## What an edit is for -/

namespace Mutation

/-- The event of the part that a mutation is for; what is selected has none. -/
def event? : Mutation → Option Event
  | addFilter _ _ | replaceFilter _ | removeFilters _ | clearFilters => some .filters
  | addBoost _ _ _ | clearBoosts => some .boosts
  | addClause _ _ _ => some .clauses
  | addFacet _ _ _ | addHistogramFacet _ _ | removeFacet _ | clearFacets | refreshFacets =>
    some .facets
  | addTermsAggregation _ _ _ | addRangeAggregation _ _ _ | addDateRangeAggregation _ _ _ _
    | removeAggregation _ | clearAggregations | refreshAggregations => some .aggregations
  | selectAggregation _ _ | unselectAggregation _ => none

/-- Whether a mutation is asked to keep still. -/
def isSilent : Mutation → Bool
  | addFilter _ silent | addBoost _ _ silent | addFacet _ _ silent | addTermsAggregation _ _ silent
    | addRangeAggregation _ _ silent | addDateRangeAggregation _ _ _ silent => silent
  | _ => false

end Mutation

namespace Edit

/-- The event of the part that an edit is for. -/
def event? : Edit → Option Event
  | mutation m => m.event?
  | addFilter _ _ | replaceFilter _ => some .filters

/-- Whether an edit is asked to keep still. -/
def isSilent : Edit → Bool
  | mutation m => m.isSilent
  | addFilter _ silent => silent
  | replaceFilter _ => false

/-- The part that an edit is for. -/
def part (e : Edit) : Part := e.event?.elim .selections Event.part

/-- What an edit is to select. -/
def selection? : Edit → Option Json
  | mutation (.selectAggregation _ selection) => some selection
  | _ => none

/-- What an edit does to a query as a whole. -/
def apply (q : Query) : Edit → Except Failure Change
  | mutation m => m.apply q
  | addFilter f silent => .ok (q.addFilter f silent)
  | replaceFilter f => .ok (q.replaceFilter f)

theorem realizes_perform (e : Edit) (q : Query) : QueryM.Realizes e.perform q (e.apply q) := by
  cases e with
  | mutation m => exact QueryM.realizes_perform m q
  | addFilter f silent => rfl
  | replaceFilter f => rfl

/-- An edit that fails, done step by step, fails as a whole and has not written. -/
theorem refused_of_perform {e : Edit} {q p : Query} {failure : Failure}
    (h : e.perform q = .error failure p) : p = q ∧ e.apply q = .error failure := by
  have hperform : e.perform q = _ := e.realizes_perform q
  cases happly : e.apply q with
  | ok c =>
    rw [h, happly] at hperform
    cases hperform
  | error e' =>
    rw [h, happly] at hperform
    cases hperform
    exact ⟨rfl, rfl⟩

end Edit

namespace Query

theorem after_eq (q : Query) (e : Edit) :
    q.after e =
      match e.apply q with
      | .ok c => c.query
      | .error _ => q := by
  have hperform : e.perform q = _ := e.realizes_perform q
  unfold after
  rw [hperform]
  cases e.apply q <;> rfl

/-! ## What comes of an edit -/

/-- All that can come of an edit. -/
inductive Changes (q : Query) (e : Edit) : Change → Prop where
  /-- there was nothing to do -/
  | still : Changes q e q.unchanged
  /-- the part of an event was written, perhaps with what it was before -/
  | wrote (event : Event) {p : Query} {filter : Option Filter} (hevent : e.event? = some event)
      (h : ∀ part : Part, part ≠ event.part → part.get p = part.get q) :
      Changes q e ⟨p, event.unless e.isSilent, filter⟩
  /-- aggregations were taken off, and what was selected in them -/
  | tookOff (aggregations : List (String × Aggregation)) (selections : List (String × Json))
      (hevent : e.event? = some .aggregations) (hsilent : e.isSilent = false)
      (h : ∀ m ∈ selections, m ∈ q.selections) :
      Changes q e ⟨{ q with aggregations, selections }, some .aggregations, none⟩
  | selected (selections : List (String × Json)) (hevent : e.event? = none)
      (hsilent : e.isSilent = false)
      (h : ∀ m ∈ selections, m ∈ q.selections ∨ e.selection? = some m.2) :
      Changes q e ⟨{ q with selections }, none, none⟩

theorem changes_addAggregation (q : Query) {e : Edit} (he : e.event? = some .aggregations)
    (a : Aggregation) : q.Changes e (q.addAggregation a e.isSilent) := by
  unfold addAggregation
  dsimp only
  split
  · exact .still
  · exact .wrote .aggregations he fun _ => Part.get_put_of_ne q .aggregations _

theorem changes_of_dropFacet {q : Query} {field : Json} {c : Change}
    (h : Mutation.dropFacet q field = .ok c) : q.Changes (.mutation (.removeFacet field)) c := by
  unfold Mutation.dropFacet at h
  split at h
  · cases h
    exact .still
  · split at h
    · split at h
      · cases h
        exact .wrote .facets rfl fun _ => Part.get_put_of_ne q .facets _
      · cases h
        exact .still
    · split at h
      · cases h
        exact .still
      · cases h

/-- **What can come of a mutation**, whatever its rule for announcing is. -/
theorem changes_of_apply {m : Mutation} {q : Query} {c : Change} (h : m.apply q = .ok c) :
    q.Changes (.mutation m) c := by
  cases m with
  | addFilter | replaceFilter =>
    obtain ⟨f, -, h⟩ := bind_eq_ok_iff.1 h
    cases h
    exact .wrote .filters rfl fun _ => Part.get_put_of_ne q .filters _
  | removeFilters field =>
    cases field with
    | str name =>
      cases h
      exact .wrote .filters rfl fun _ => Part.get_put_of_ne q .filters _
    | _ =>
      cases h
      exact .wrote .filters rfl fun _ _ => rfl
  | clearFilters =>
    cases h
    exact .wrote .filters rfl fun _ => Part.get_put_of_ne q .filters _
  | addBoost field boost silent =>
    simp only [Mutation.apply] at h
    split at h
    · cases h
      exact .still
    · obtain ⟨b, -, h⟩ := bind_eq_ok_iff.1 h
      cases h
      exact .wrote .boosts rfl fun _ => Part.get_put_of_ne q .boosts _
  | clearBoosts =>
    cases h
    exact .wrote .boosts rfl fun _ => Part.get_put_of_ne q .boosts _
  | addClause occurrence field value =>
    obtain ⟨occurrence, -, h⟩ := bind_eq_ok_iff.1 h
    obtain ⟨c, -, h⟩ := bind_eq_ok_iff.1 h
    cases h
    exact .wrote .clauses rfl fun _ => Part.get_put_of_ne q .clauses _
  | addFacet field size silent =>
    obtain ⟨isKnown, -, h⟩ := bind_eq_ok_iff.1 h
    split at h
    · cases h
      exact .still
    · obtain ⟨f, -, h⟩ := bind_eq_ok_iff.1 h
      cases h
      exact .wrote .facets rfl fun _ => Part.get_put_of_ne q .facets _
  | addHistogramFacet field interval =>
    obtain ⟨f, -, h⟩ := bind_eq_ok_iff.1 h
    cases h
    exact .wrote .facets rfl fun _ => Part.get_put_of_ne q .facets _
  | removeFacet field => exact changes_of_dropFacet h
  | clearFacets =>
    cases h
    exact .wrote .facets rfl fun _ => Part.get_put_of_ne q .facets _
  | refreshFacets =>
    cases h
    exact .wrote .facets rfl fun _ _ => rfl
  | refreshAggregations =>
    cases h
    exact .wrote .aggregations rfl fun _ _ => rfl
  | addTermsAggregation | addRangeAggregation | addDateRangeAggregation =>
    obtain ⟨a, -, h⟩ := bind_eq_ok_iff.1 h
    cases h
    exact changes_addAggregation q rfl a
  | selectAggregation field selection =>
    obtain ⟨key, -, h⟩ := bind_eq_ok_iff.1 h
    split at h
    · cases h
      refine .selected _ rfl rfl fun m hm => ?_
      rcases Members.mem_of_mem_insert hm with rfl | hm
      · exact .inr rfl
      · exact .inl hm
    · cases h
      exact .still
  | unselectAggregation field =>
    obtain ⟨key, -, h⟩ := bind_eq_ok_iff.1 h
    cases h
    exact .selected _ rfl rfl fun m hm => .inl (Members.mem_erase_iff.1 hm).1
  | removeAggregation field =>
    obtain ⟨key, -, h⟩ := bind_eq_ok_iff.1 h
    cases h
    exact .tookOff _ _ rfl rfl fun m hm => (Members.mem_erase_iff.1 hm).1
  | clearAggregations =>
    cases h
    exact .tookOff _ _ rfl rfl fun m hm => absurd hm List.not_mem_nil

end Query

namespace Edit

/-- What can come of an edit. -/
theorem changes_of_apply {e : Edit} {q : Query} {c : Change} (h : e.apply q = .ok c) :
    q.Changes e c := by
  cases e with
  | mutation m => exact Query.changes_of_apply h
  | addFilter | replaceFilter =>
    cases h
    exact .wrote .filters rfl fun _ => Part.get_put_of_ne q .filters _

end Edit

namespace Query.Changes

variable {q : Query} {e : Edit} {c : Change}

/-- What is announced is the event of the part that the edit is for, and it covers what changed. -/
theorem covered (h : q.Changes e c) {event : Event} (hc : c.announced = some event) :
    e.event? = some event ∧ e.isSilent = false ∧
      ∀ part : Part, ¬ event.Covers part → part.get c.query = part.get q := by
  cases h with
  | still => cases hc
  | wrote event hevent hframe =>
    cases hsilent : e.isSilent with
    | true =>
      rw [hsilent] at hc
      cases hc
    | false =>
      rw [hsilent] at hc
      cases hc
      exact ⟨hevent, rfl, fun part hpart => hframe part fun hsame => hpart (.inl hsame)⟩
  | tookOff aggregations selections hevent hsilent =>
    cases hc
    refine ⟨hevent, hsilent, fun part hpart => ?_⟩
    have haggregations : part ≠ .aggregations := fun hsame => hpart (.inl hsame)
    have hselections : part ≠ .selections := fun hsame => hpart (.inr ⟨rfl, hsame⟩)
    exact (Part.get_put_of_ne _ .selections selections hselections).trans
      (Part.get_put_of_ne q .aggregations aggregations haggregations)
  | selected => cases hc

/-- What is not announced although it could be is no more than a selection. -/
theorem unannounced (h : q.Changes e c) (hc : c.announced = none) (hsilent : e.isSilent = false)
    {part : Part} (hpart : part ≠ .selections) : part.get c.query = part.get q := by
  cases h with
  | still => rfl
  | wrote event hevent hframe =>
    rw [hsilent] at hc
    cases hc
  | tookOff => cases hc
  | selected selections => exact Part.get_put_of_ne q .selections selections hpart

/-- What is done in silence is not announced, and is done to one part. -/
theorem silenced (h : q.Changes e c) (hsilent : e.isSilent = true) :
    c.announced = none ∧ ∀ part : Part, part ≠ e.part → part.get c.query = part.get q := by
  cases h with
  | still => exact ⟨rfl, fun _ _ => rfl⟩
  | wrote event hevent hframe =>
    have hpart : e.part = event.part := by
      unfold Edit.part
      rw [hevent]
      rfl
    rw [hsilent, hpart]
    exact ⟨rfl, hframe⟩
  | tookOff _ _ _ hloud | selected _ _ hloud => cases hloud.symm.trans hsilent

/-- What is done to the selections is not announced, and is done to them alone. -/
theorem selecting (h : q.Changes e c) (hnone : e.event? = none) :
    c.announced = none ∧ ∀ part : Part, part ≠ .selections → part.get c.query = part.get q := by
  cases h with
  | still => exact ⟨rfl, fun _ _ => rfl⟩
  | wrote _ hevent | tookOff _ _ hevent => cases hevent.symm.trans hnone
  | selected selections => exact ⟨rfl, fun _ => Part.get_put_of_ne q .selections selections⟩

/-- What is selected afterwards was selected before or is what the edit is to select. -/
theorem mem_selections (h : q.Changes e c) {m : String × Json} (hm : m ∈ c.query.selections) :
    m ∈ q.selections ∨ e.selection? = some m.2 := by
  cases h with
  | still => exact .inl hm
  | @wrote event p _ hevent hframe =>
    have hsame : p.selections = q.selections :=
      hframe .selections event.part_ne_selections.symm
    exact .inl (hsame ▸ hm)
  | tookOff _ _ _ _ hkept => exact .inl (hkept m hm)
  | selected _ _ _ hkept => exact hkept m hm

end Query.Changes

/-! ## Live queries -/

namespace LiveQuery

/-- Two live queries have the same under a name, however they are written. -/
def WrittenAlike (l l' : LiveQuery) (key : String) : Prop :=
  ∀ any assigned, (l.writeMembers any assigned).lookup key =
    (l'.writeMembers any assigned).lookup key

/-- An edit leaves assigned values as they are, so what it does not change is written alike. -/
theorem writtenAlike_of_get {l : LiveQuery} {q : Query} {key : String}
    (h : ∀ part : Part, part.name = key → part.get q = part.get l.query) :
    WrittenAlike { l with query := q } l key := by
  intro any assigned
  have hsame : (q.writeMembers any).lookup key = (l.query.writeMembers any).lookup key := by
    by_cases hkey : ∃ part : Part, part.name = key
    · obtain ⟨part, rfl⟩ := hkey
      rw [Query.lookup_writeMembers, Query.lookup_writeMembers, h part rfl]
    · have habsent (p : Query) : (p.writeMembers any).lookup key = none := by
        rw [Query.writeMembers_eq, Members.lookup_eq_none_iff]
        intro m hm hname
        obtain ⟨part, -, rfl⟩ := List.mem_map.1 hm
        exact hkey ⟨part, hname⟩
      rw [habsent, habsent]
  unfold writeMembers
  rw [Members.lookup_foldl_insert, Members.lookup_foldl_insert, hsame]

/-- An event, or that there was none, tells what an edit did to a live query. -/
structure ToldBy (e : Edit) (l l' : LiveQuery) (fired : Option Event) : Prop where
  /-- an event covers all that changed, and is fired by an edit that is for its part -/
  covered : ∀ event, fired = some event → e.part = event.part ∧
    ∀ key, (∀ part : Part, event.Covers part → part.name ≠ key) → l'.WrittenAlike l key
  /-- without an event no more than a selection changed, unless silence was asked for -/
  unannounced : fired = none → e.isSilent = false →
    ∀ key, key ≠ Part.selections.name → l'.WrittenAlike l key
  /-- selections change alone and without an event -/
  selecting : e.part = .selections →
    fired = none ∧ ∀ key, key ≠ Part.selections.name → l'.WrittenAlike l key
  /-- when silence is asked for there is no event, and one part changed at most -/
  silenced : e.isSilent = true →
    fired = none ∧ ∀ key, key ≠ e.part.name → l'.WrittenAlike l key
  /-- every other change of what an event is named for is announced by that event -/
  announced : e.isSilent = false →
    ∀ event : Event, ¬ l'.WrittenAlike l event.name → fired = some event

theorem toldBy_of_refused (e : Edit) (l : LiveQuery) : ToldBy e l l none where
  covered _ h := nomatch h
  unannounced _ _ _ _ _ _ := rfl
  selecting _ := ⟨rfl, fun _ _ _ _ => rfl⟩
  silenced _ := ⟨rfl, fun _ _ _ _ => rfl⟩
  announced _ _ h := absurd (fun _ _ => rfl) h

theorem toldBy_of_apply {e : Edit} {l : LiveQuery} {c : Change} (h : e.apply l.query = .ok c) :
    ToldBy e l { l with query := c.query } c.announced := by
  have hchanges := Edit.changes_of_apply h
  -- what is said of all parts but one is said of all names but its own
  have hothers {written : Part} {key : String} (hkey : key ≠ written.name)
      (hframe : ∀ part : Part, part ≠ written → part.get c.query = part.get l.query) :
      WrittenAlike { l with query := c.query } l key :=
    writtenAlike_of_get fun part hpart => hframe part fun hsame => hkey (hsame ▸ hpart.symm)
  constructor
  · intro event hevent
    obtain ⟨hpart, -, hframe⟩ := hchanges.covered hevent
    refine ⟨?_, fun key hkey => writtenAlike_of_get fun part hname => ?_⟩
    · unfold Edit.part
      rw [hpart]
      rfl
    · exact hframe part fun hcovers => hkey part hcovers hname
  · exact fun hnone hsilent key hkey => hothers hkey fun _ => hchanges.unannounced hnone hsilent
  · intro hselections
    have hnone : e.event? = none := by
      cases hevent : e.event? with
      | none => rfl
      | some event =>
        unfold Edit.part at hselections
        rw [hevent] at hselections
        exact absurd hselections event.part_ne_selections
    obtain ⟨hsilence, hframe⟩ := hchanges.selecting hnone
    exact ⟨hsilence, fun key hkey => hothers hkey hframe⟩
  · intro hsilent
    obtain ⟨hnone, hframe⟩ := hchanges.silenced hsilent
    exact ⟨hnone, fun key hkey => hothers hkey hframe⟩
  · intro hsilent event hdiffers
    -- whatever was announced covers the part, and of the parts that have events it covers its own
    have hchanged : ¬ event.part.get c.query = event.part.get l.query := by
      intro hsame
      refine hdiffers (writtenAlike_of_get fun part hpart => ?_)
      rw [Event.eq_part_of_name hpart, hsame]
    cases hannounced : c.announced with
    | none =>
      exact absurd (hchanges.unannounced hannounced hsilent event.part_ne_selections) hchanged
    | some other =>
      obtain ⟨-, -, hframe⟩ := hchanges.covered hannounced
      by_cases hcovers : other.Covers event.part
      · rcases hcovers with hsame | ⟨-, hsame⟩
        · cases event <;> cases other <;> first | rfl | cases hsame
        · exact absurd hsame event.part_ne_selections
      · exact absurd (hframe _ hcovers) hchanged

end LiveQuery

end FacetedSearch
