import FacetedSearch.Dataset.Session
import Mathlib.Data.List.Basic

/-!
# How notifications nest

The journal tells of firings and of deliveries.  While an event is delivered others can be fired,
and these are delivered in between.  A firing has the number of its place in the journal, so what was
journalled before it belongs to other firings.

* `Entry.deliveries` — who was told of a firing, in order.
* `Entry.Nested` — what may be journalled while some earlier firings are still being told of.
* `Entry.Nested.append` — one thing after another.
* `Entry.Nested.fire` — a firing and all that is journalled until everybody was told of it.
-/

set_option autoImplicit false

namespace FacetedSearch

namespace Entry

/-- Who was told of the firing of a number, and of which event, in order. -/
def deliveries (number : Nat) (es : List Entry) : List (Event × Observer) :=
  es.filterMap fun
    | .delivered m event observer => if m = number then some (event, observer) else none
    | _ => none

theorem deliveries_append (number : Nat) (es fs : List Entry) :
    deliveries number (es ++ fs) = deliveries number es ++ deliveries number fs :=
  List.filterMap_append

theorem deliveries_eq_nil {number : Nat} {es : List Entry}
    (h : ∀ event observer, .delivered number event observer ∉ es) : deliveries number es = [] := by
  refine List.filterMap_eq_nil_iff.2 fun entry hentry => ?_
  cases entry with
  | delivered m event observer =>
    dsimp only
    split
    · next hm => exact absurd (hm ▸ hentry) (h event observer)
    · rfl
  | fired | started | stored => rfl

/-- An item of two lists, one after the other, is in the first one or in the second one. -/
theorem split_of_append_eq {es fs before after : List Entry} {entry : Entry}
    (h : es ++ fs = before ++ entry :: after) :
    (∃ rest, es = before ++ entry :: rest) ∨
      ∃ between, before = es ++ between ∧ fs = between ++ entry :: after := by
  rcases List.append_eq_append_iff.1 h with ⟨between, hbefore, hfs⟩ | ⟨rest, hes, hrest⟩
  · exact .inr ⟨between, hbefore, hfs⟩
  · cases rest with
    | nil => exact .inr ⟨[], by simpa using hes.symm, by simpa using hrest.symm⟩
    | cons e rest =>
      obtain ⟨rfl, -⟩ := List.cons_eq_cons.1 hrest
      exact .inl ⟨rest, hes⟩

theorem of_singleton_eq {before after : List Entry} {entry entry' : Entry}
    (h : [entry] = before ++ entry' :: after) : before = [] ∧ entry' = entry := by
  cases before with
  | nil => exact ⟨rfl, (List.cons_eq_cons.1 h).1.symm⟩
  | cons e before => simp at h

/-- What may be journalled from a place on, while those firings are still being told of which are
pending: each firing is told of in full, and what is fired meanwhile comes first. -/
structure Nested (pending : List (Nat × Event)) (n : Nat) (es : List Entry) : Prop where
  earlier : ∀ p ∈ pending, p.1 < n
  /-- a firing has the number of its place -/
  numbered : ∀ before number event audience after,
    es = before ++ .fired number event audience :: after → number = n + before.length
  /-- nobody is registered twice -/
  nodup : ∀ number event audience, .fired number event audience ∈ es → audience.Nodup
  /-- everybody who was registered is told, in order of registration and once -/
  delivered : ∀ number event audience, .fired number event audience ∈ es →
    deliveries number es = audience.map fun observer => (event, observer)
  /-- what is delivered was fired before, or is pending -/
  since : ∀ before number event observer after,
    es = before ++ .delivered number event observer :: after →
      (number, event) ∈ pending ∨ ∃ audience, .fired number event audience ∈ before
  /-- whatever was fired since the firing of a delivery has been told of in full by then -/
  inward : ∀ before number event observer after,
    es = before ++ .delivered number event observer :: after →
      ∀ inner event' audience, number < inner → .fired inner event' audience ∈ before →
        deliveries inner before = audience.map fun observer => (event', observer)

namespace Nested

variable {pending : List (Nat × Event)} {n number : Nat} {es fs : List Entry} {event : Event}
  {observer : Observer} {audience : List Observer}

/-- The number of a firing is that of a place within. -/
theorem range_of_fired (h : Nested pending n es) (hfired : .fired number event audience ∈ es) :
    n ≤ number ∧ number < n + es.length := by
  obtain ⟨before, after, hes⟩ := List.append_of_mem hfired
  have hnumber := h.numbered before number event audience after hes
  rw [hes, List.length_append, List.length_cons]
  omega

/-- A delivery is one of a pending firing or of a firing within. -/
theorem range_of_delivered (h : Nested pending n es)
    (hdelivered : .delivered number event observer ∈ es) :
    (number < n ∧ (number, event) ∈ pending) ∨ n ≤ number ∧ number < n + es.length := by
  obtain ⟨before, after, hes⟩ := List.append_of_mem hdelivered
  rcases h.since before number event observer after hes with hpending | ⟨audience, hfired⟩
  · exact .inl ⟨h.earlier _ hpending, hpending⟩
  · exact .inr (h.range_of_fired (hes ▸ List.mem_append_left _ hfired))

/-- Nobody is told later of a firing that is over. -/
theorem deliveries_eq_nil_of_lt (h : Nested [] n es) (hnumber : number < n) :
    deliveries number es = [] := by
  refine deliveries_eq_nil fun event observer hmem => ?_
  rcases h.range_of_delivered hmem with ⟨-, hpending⟩ | hrange
  · cases hpending
  · omega

theorem nil (h : ∀ p ∈ pending, p.1 < n) : Nested pending n [] where
  earlier := h
  numbered before _ _ _ _ hes := by simp at hes
  nodup _ _ _ h := nomatch h
  delivered _ _ _ h := nomatch h
  since before _ _ _ _ hes := by simp at hes
  inward before _ _ _ _ hes := by simp at hes

/-- An entry that concerns no event. -/
theorem note {entry : Entry}
    (hfired : ∀ number event audience, entry ≠ .fired number event audience)
    (hdelivered : ∀ number event observer, entry ≠ .delivered number event observer) :
    Nested [] n [entry] where
  earlier _ h := nomatch h
  numbered _ _ _ _ _ hes := absurd (of_singleton_eq hes).2.symm (hfired _ _ _)
  nodup _ _ _ h := absurd (List.mem_singleton.1 h).symm (hfired _ _ _)
  delivered _ _ _ h := absurd (List.mem_singleton.1 h).symm (hfired _ _ _)
  since _ _ _ _ _ hes := absurd (of_singleton_eq hes).2.symm (hdelivered _ _ _)
  inward _ _ _ _ _ hes := absurd (of_singleton_eq hes).2.symm (hdelivered _ _ _)

/-- A delivery of a pending firing. -/
theorem tell (h : number < n) (event : Event) (observer : Observer) :
    Nested [(number, event)] n [.delivered number event observer] where
  earlier p hp := by
    cases List.mem_singleton.1 hp
    exact h
  numbered _ _ _ _ _ hes := nomatch (of_singleton_eq hes).2
  nodup _ _ _ h := nomatch List.mem_singleton.1 h
  delivered _ _ _ h := nomatch List.mem_singleton.1 h
  since _ _ _ _ _ hes := by
    cases (of_singleton_eq hes).2
    exact .inl (List.mem_singleton.2 rfl)
  inward before _ _ _ _ hes _ _ _ _ hmem := by
    rw [(of_singleton_eq hes).1] at hmem
    cases hmem

/-- What is journalled while nothing is pending is journalled while something is. -/
theorem weaken (h : Nested [] n es) (hpending : ∀ p ∈ pending, p.1 < n) : Nested pending n es :=
  { h with
    earlier := hpending
    since := fun before number event observer after hes =>
      .inr ((h.since before number event observer after hes).resolve_left List.not_mem_nil) }

/-- One thing after another. -/
theorem append (h : Nested pending n es) (h' : Nested pending (n + es.length) fs) :
    Nested pending n (es ++ fs) := by
  -- nothing that was fired first is told of later, nor the other way round
  have hlate {number : Nat} {event : Event} {audience : List Observer} {gs : List Entry}
      (hfired : .fired number event audience ∈ es) (hgs : ∀ entry ∈ gs, entry ∈ fs) :
      deliveries number gs = [] := by
    refine deliveries_eq_nil fun event' observer hmem => ?_
    have hrange := h.range_of_fired hfired
    rcases h'.range_of_delivered (hgs _ hmem) with ⟨-, hpending⟩ | hrange'
    · have := h.earlier _ hpending
      omega
    · omega
  have hearly {number : Nat} {event : Event} {audience : List Observer}
      (hfired : .fired number event audience ∈ fs) : deliveries number es = [] := by
    refine deliveries_eq_nil fun event' observer hmem => ?_
    have hrange := h'.range_of_fired hfired
    rcases h.range_of_delivered hmem with ⟨hrange', -⟩ | hrange' <;> omega
  constructor
  · exact h.earlier
  · intro before number event audience after hes
    rcases split_of_append_eq hes with ⟨rest, hes⟩ | ⟨between, rfl, hfs⟩
    · exact h.numbered before number event audience rest hes
    · rw [h'.numbered between number event audience after hfs, List.length_append, Nat.add_assoc]
  · intro number event audience hmem
    exact (List.mem_append.1 hmem).elim (h.nodup number event audience)
      (h'.nodup number event audience)
  · intro number event audience hmem
    rw [deliveries_append]
    rcases List.mem_append.1 hmem with hmem | hmem
    · rw [h.delivered number event audience hmem, hlate hmem fun _ => id, List.append_nil]
    · rw [h'.delivered number event audience hmem, hearly hmem, List.nil_append]
  · intro before number event observer after hes
    rcases split_of_append_eq hes with ⟨rest, hes⟩ | ⟨between, rfl, hfs⟩
    · exact h.since before number event observer rest hes
    · refine (h'.since between number event observer after hfs).imp_right ?_
      exact fun ⟨audience, hmem⟩ => ⟨audience, List.mem_append_right es hmem⟩
  · intro before number event observer after hes inner event' audience hinner hmem
    rcases split_of_append_eq hes with ⟨rest, hes⟩ | ⟨between, rfl, hfs⟩
    · exact h.inward before number event observer rest hes inner event' audience hinner hmem
    · have hbetween (entry : Entry) (hentry : entry ∈ between) : entry ∈ fs :=
        hfs ▸ List.mem_append_left _ hentry
      rw [deliveries_append]
      rcases List.mem_append.1 hmem with hmem | hmem
      · rw [h.delivered inner event' audience hmem, hlate hmem hbetween, List.append_nil]
      · rw [h'.inward between number event observer after hfs inner event' audience hinner hmem,
          hearly (hbetween _ hmem), List.nil_append]

/-- A firing, and all that is journalled until everybody was told of it. -/
theorem fire (h : Nested [(n, event)] (n + 1) es) (hnodup : audience.Nodup)
    (htold : deliveries n es = audience.map fun observer => (event, observer)) :
    Nested [] n (.fired n event audience :: es) := by
  have hcons (number : Nat) (gs : List Entry) :
      deliveries number (.fired n event audience :: gs) = deliveries number gs := rfl
  constructor
  · exact fun _ h => nomatch h
  · intro before number event' audience' after hes
    cases before with
    | nil =>
      cases hes
      rfl
    | cons entry before =>
      obtain ⟨-, hes⟩ := List.cons_eq_cons.1 hes
      rw [h.numbered before number event' audience' after hes, List.length_cons]
      omega
  · intro number event' audience' hmem
    rcases List.mem_cons.1 hmem with hmem | hmem
    · cases hmem
      exact hnodup
    · exact h.nodup number event' audience' hmem
  · intro number event' audience' hmem
    rw [hcons]
    rcases List.mem_cons.1 hmem with hmem | hmem
    · cases hmem
      exact htold
    · exact h.delivered number event' audience' hmem
  · intro before number event' observer after hes
    cases before with
    | nil => cases hes
    | cons entry before =>
      obtain ⟨hentry, hrest⟩ := List.cons_eq_cons.1 hes
      rcases h.since before number event' observer after hrest with hpending | ⟨audience', hmem⟩
      · cases List.mem_singleton.1 hpending
        exact .inr ⟨audience, hentry ▸ List.mem_cons_self⟩
      · exact .inr ⟨audience', List.mem_cons_of_mem _ hmem⟩
  · intro before number event' observer after hes inner event'' audience' hinner hmem
    cases before with
    | nil => cases hes
    | cons entry before =>
      obtain ⟨hentry, hrest⟩ := List.cons_eq_cons.1 hes
      subst hentry
      rw [hcons]
      rcases List.mem_cons.1 hmem with hmem | hmem
      · -- the outermost firing is not inside of any other
        cases hmem
        have hdelivered : .delivered number event' observer ∈ es :=
          hrest ▸ List.mem_append_right before List.mem_cons_self
        rcases h.range_of_delivered hdelivered with ⟨-, hpending⟩ | hrange
        · cases List.mem_singleton.1 hpending
          exact absurd hinner (Nat.lt_irrefl _)
        · omega
      · exact h.inward before number event' observer after hrest inner event'' audience' hinner hmem

end Nested

end Entry

end FacetedSearch
