import FacetedSearch.Filter.Wire
import FacetedSearch.Proofs.Json.Members
import FacetedSearch.Proofs.Validation.Alike

/-!
# Second names

Three members go by two names each, the name on the wire and a second one: where a range or a page
begins, whether a filter is negated, and the further demands of a query.  It makes no difference
which of the two is used, and where both are used the second one does not count.

* `Alias` — the members that go by two names; `Alias.Once`, `Alias.Twice` — how often one occurs.
* `Alias.exchanged`, `Alias.shed` — exchange the names of some members, leave out second names.
* `Alias.Follows` — an object has what another one has, by whichever names.
* `Alias.follows_exchanged`, `Alias.follows_shed` — objects with other names follow.
* `Filter.read_alike` — a filter is read alike from an object that follows.
-/

set_option autoImplicit false

namespace FacetedSearch

open Checked Validation

/-- The members that go by two names. -/
inductive Alias where
  /-- where a range or a page begins -/
  | start
  /-- whether a filter is negated -/
  | negation
  /-- further demands -/
  | clauses
  deriving DecidableEq, Repr

namespace Alias

/-- Every member that goes by two names. -/
def all : List Alias := [start, negation, clauses]

/-- The name on the wire. -/
def name : Alias → String
  | start => "from"
  | negation => "not"
  | clauses => "bool"

/-- The second name. -/
def secondName : Alias → String
  | start => "from_"
  | negation => "negate"
  | clauses => "bool_clauses"

/-- The member that goes by that name, first or second. -/
def ofName? (s : String) : Option Alias := all.find? fun a => s = a.name || s = a.secondName

/-- The names of the chosen members are exchanged, and others stay as they are. -/
def exchange (chosen : Alias → Bool) (s : String) : String :=
  match ofName? s with
  | some a => if chosen a then (if s = a.name then a.secondName else a.name) else s
  | none => s

/-- The second name of a chosen member. -/
def isSecond (chosen : Alias → Bool) (s : String) : Bool :=
  match ofName? s with
  | some a => chosen a && s = a.secondName
  | none => false

/-- An object with the names of the chosen members exchanged. -/
def exchanged (chosen : Alias → Bool) (ms : Members) : Members :=
  ms.map fun m => (exchange chosen m.1, m.2)

/-- An object without what it has under second names of the chosen members. -/
def shed (chosen : Alias → Bool) (ms : Members) : Members :=
  ms.filter fun m => !isSecond chosen m.1

/-- An object has exactly one of the two names. -/
def Once (a : Alias) (ms : Members) : Prop := Members.has a.name ms ≠ Members.has a.secondName ms

/-- An object has both names. -/
def Twice (a : Alias) (ms : Members) : Prop :=
  Members.has a.name ms = true ∧ Members.has a.secondName ms = true

instance (a : Alias) (ms : Members) : Decidable (Once a ms) :=
  inferInstanceAs (Decidable (Members.has a.name ms ≠ Members.has a.secondName ms))

instance (a : Alias) (ms : Members) : Decidable (Twice a ms) :=
  inferInstanceAs (Decidable (_ ∧ _))

variable {chosen : Alias → Bool} {a : Alias} {s : String}

theorem ofName?_name (a : Alias) : ofName? a.name = some a := by
  cases a <;> rfl

theorem ofName?_secondName (a : Alias) : ofName? a.secondName = some a := by
  cases a <;> rfl

theorem secondName_ne_name (a : Alias) : a.secondName ≠ a.name := by
  cases a <;> decide

theorem eq_of_ofName? (h : ofName? s = some a) : s = a.name ∨ s = a.secondName := by
  simpa using List.find?_some h

theorem exchange_name (chosen : Alias → Bool) (a : Alias) :
    exchange chosen a.name = if chosen a then a.secondName else a.name := by
  unfold exchange
  rw [ofName?_name]
  dsimp only
  rw [if_pos rfl]

theorem exchange_secondName (chosen : Alias → Bool) (a : Alias) :
    exchange chosen a.secondName = if chosen a then a.name else a.secondName := by
  unfold exchange
  rw [ofName?_secondName]
  dsimp only
  rw [if_neg a.secondName_ne_name]

theorem exchange_of_other (h : ofName? s = none) : exchange chosen s = s := by
  unfold exchange
  rw [h]

theorem eq_or_eq_of_exchange (h : ofName? s = some a) (chosen : Alias → Bool) :
    exchange chosen s = a.name ∨ exchange chosen s = a.secondName := by
  unfold exchange
  rw [h]
  dsimp only
  split_ifs with hchosen hname
  · exact .inr rfl
  · exact .inl rfl
  · exact eq_of_ofName? h

/-- To exchange names twice leaves them as they were. -/
theorem exchange_exchange (chosen : Alias → Bool) (s : String) :
    exchange chosen (exchange chosen s) = s := by
  cases h : ofName? s with
  | none => rw [exchange_of_other h, exchange_of_other h]
  | some a =>
    rcases eq_of_ofName? h with rfl | rfl
    · rw [exchange_name]
      split
      · rw [exchange_secondName, if_pos ‹_›]
      · rw [exchange_name, if_neg ‹_›]
    · rw [exchange_secondName]
      split
      · rw [exchange_name, if_pos ‹_›]
      · rw [exchange_secondName, if_neg ‹_›]

theorem exchange_eq_iff {t : String} : exchange chosen s = t ↔ s = exchange chosen t :=
  ⟨fun h => by rw [← h, exchange_exchange], fun h => by rw [h, exchange_exchange]⟩

/-- A name is looked up after the exchange as its counterpart was before. -/
theorem lookup_exchanged (chosen : Alias → Bool) (ms : Members) (s : String) :
    (exchanged chosen ms).lookup s = ms.lookup (exchange chosen s) := by
  induction ms with
  | nil => rfl
  | cons m ms ih =>
    obtain ⟨k, x⟩ := m
    have hcons : exchanged chosen ((k, x) :: ms) =
        (exchange chosen k, x) :: exchanged chosen ms := rfl
    rw [hcons, Members.lookup_cons_ite, Members.lookup_cons_ite, ih]
    simp only [← exchange_eq_iff]

theorem isSecond_of_other (h : ofName? s = none) : isSecond chosen s = false := by
  unfold isSecond
  rw [h]

theorem isSecond_name (chosen : Alias → Bool) (a : Alias) : isSecond chosen a.name = false := by
  unfold isSecond
  rw [ofName?_name]
  simp [a.secondName_ne_name.symm]

theorem isSecond_secondName (chosen : Alias → Bool) (a : Alias) :
    isSecond chosen a.secondName = chosen a := by
  unfold isSecond
  rw [ofName?_secondName]
  simp

/-- Only second names of chosen members are looked up in vain. -/
theorem lookup_shed (chosen : Alias → Bool) (ms : Members) (s : String) :
    (shed chosen ms).lookup s = if isSecond chosen s then none else ms.lookup s := by
  induction ms with
  | nil => simp [shed]
  | cons m ms ih =>
    obtain ⟨k, x⟩ := m
    unfold shed at ih ⊢
    rw [Members.lookup_cons_ite]
    by_cases hk : isSecond chosen k = true
    · rw [List.filter_cons_of_neg (by simp [hk]), ih]
      by_cases hs : s = k
      · rw [if_pos (hs ▸ hk), if_pos (hs ▸ hk)]
      · rw [if_neg hs]
    · rw [List.filter_cons_of_pos (by simp [hk]), Members.lookup_cons_ite, ih]
      by_cases hs : s = k
      · rw [if_pos hs, if_pos hs, if_neg (hs ▸ hk)]
      · rw [if_neg hs, if_neg hs]

/-! ## Objects that are read alike -/

/-- The place in an object, told by the names after the exchange. -/
def counterpart (chosen : Alias → Bool) : Path → Path
  | .key s :: path => .key (exchange chosen s) :: path
  | path => path

/-- A second object has what a first one has, the members with two names under either of them; the
places in the one correspond to places in the other. -/
structure Follows (place : Path → Path) (ms ns : Members) : Prop where
  root : place [] = []
  plain : ∀ s, ofName? s = none → ns.lookup s = ms.lookup s
  fixed : ∀ s, ofName? s = none → ∀ path, place (.key s :: path) = .key s :: path
  either : ∀ (a : Alias) {β : Type} (check : Json → Checked β) (absent : β),
    Checked.Alike place (aliased ms a.name a.secondName check absent)
      (aliased ns a.name a.secondName check absent)

theorem Once.lookup_eq_none {ms : Members} (h : Once a ms) :
    ms.lookup a.name = none ∨ ms.lookup a.secondName = none := by
  unfold Once Members.has at h
  cases hname : ms.lookup a.name with
  | none => exact .inl rfl
  | some x =>
    cases hsecond : ms.lookup a.secondName with
    | none => exact .inr rfl
    | some y =>
      rw [hname, hsecond] at h
      exact absurd rfl h

/-- An object follows when names are exchanged of which it has one. -/
theorem follows_exchanged {ms : Members} (h : ∀ a, chosen a = true → Once a ms) :
    Follows (counterpart chosen) ms (exchanged chosen ms) where
  root := rfl
  plain s hs := by rw [lookup_exchanged, exchange_of_other hs]
  fixed s hs path := by rw [counterpart, exchange_of_other hs]
  either a β check absent := by
    have hname := lookup_exchanged chosen ms a.name
    have hsecond := lookup_exchanged chosen ms a.secondName
    rw [exchange_name] at hname
    rw [exchange_secondName] at hsecond
    by_cases ha : chosen a = true
    · rw [if_pos ha] at hname hsecond
      refine .aliased_of_moved hname hsecond ?_ (fun path => ?_) fun path => ?_
      · exact (h a ha).lookup_eq_none
      · rw [counterpart, exchange_name, if_pos ha]
      · rw [counterpart, exchange_secondName, if_pos ha]
    · rw [if_neg ha] at hname hsecond
      refine .aliased hname hsecond (fun path => ?_) fun path => ?_
      · rw [counterpart, exchange_name, if_neg ha]
      · rw [counterpart, exchange_secondName, if_neg ha]

/-- An object follows when second names are left out beside first ones. -/
theorem follows_shed {ms : Members} (h : ∀ a, chosen a = true → Twice a ms) :
    Follows id ms (shed chosen ms) where
  root := rfl
  plain s hs := by
    rw [lookup_shed, isSecond_of_other hs]
    rfl
  fixed _ _ _ := rfl
  either a β check absent := by
    have hname : (shed chosen ms).lookup a.name = ms.lookup a.name := by
      rw [lookup_shed, isSecond_name]
      rfl
    by_cases ha : chosen a = true
    · -- the first name is there, and so the second one is not looked at
      obtain ⟨x, hx⟩ := Option.isSome_iff_exists.1 (h a ha).1
      rw [hx] at hname
      unfold aliased
      rw [hx, hname]
      exact .refl (fun _ => rfl) _
    · refine .aliased hname ?_ (fun _ => rfl) fun _ => rfl
      rw [lookup_shed, isSecond_secondName, if_neg ha]

variable {place : Path → Path} {ms ns : Members}

theorem Follows.defaulted (h : Follows place ms ns) (hs : ofName? s = none) {β : Type}
    {check : Json → Checked β} {absent : β} :
    Checked.Alike place (Checked.defaulted ms s check absent)
      (Checked.defaulted ns s check absent) :=
  .defaulted (h.plain s hs) (h.fixed s hs)

end Alias

/-! ## Filters -/

section Filters

variable {place : Path → Path} {ms ns : Members}

theorem Bounds.read_alike (h : Alias.Follows place ms ns) :
    Alike place (Bounds.read ms) (Bounds.read ns) :=
  ((((h.either .start anything .null).map Bounds.mk).seq (h.defaulted rfl)).seq
    (h.defaulted rfl)).seq (h.defaulted rfl)

theorem Constraint.read_alike (h : Alias.Follows place ms ns) (kind : FilterKind) :
    Alike place (Constraint.read kind ms) (Constraint.read kind ns) := by
  have htag : Alike place (kind.checkTag ms) (kind.checkTag ns) := h.defaulted rfl
  cases kind with
  | term | docType => exact (htag.map _).seq (h.defaulted rfl)
  | terms => exact ((htag.map _).seq (h.defaulted rfl)).seq (h.defaulted rfl)
  | range | dateRange => exact ((Bounds.read_alike h).map _).seq htag
  | geoDistance =>
    exact (((htag.map _).seq (h.defaulted rfl)).seq (h.defaulted rfl)).seq (h.defaulted rfl)
  | present | absent => exact htag.map _

/-- A filter is read alike from an object that follows another one. -/
theorem Filter.read_alike (h : Alias.Follows place ms ns) (kind : FilterKind) :
    Alike place (Filter.read kind ms) (Filter.read kind ns) := by
  have hshared : Alike place (Filter.readShared ms) (Filter.readShared ns) :=
    ((h.defaulted rfl).map Prod.mk).seq (h.either .negation boolean false)
  exact (hshared.map _).seq (Constraint.read_alike h kind)

theorem Filter.tagOf_eq (h : Alias.Follows place ms ns) : Filter.tagOf ns = Filter.tagOf ms := by
  unfold Filter.tagOf
  rw [h.plain "type" rfl]

end Filters

end FacetedSearch
