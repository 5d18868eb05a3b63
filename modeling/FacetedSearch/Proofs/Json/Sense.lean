import FacetedSearch.Proofs.Json.Members
import Mathlib.Data.List.Forall2

/-!
# Senses of equality

Two JSON values can be equal as they are written, the order of members included, or only as what
they stand for, an object being a mapping from names to values.  What is said of bodies further on
holds in either sense, so both are kept behind one relation.

* `Json.Alike` — equality of what values stand for.
* `Sense.alike` — equality of values in one sense or the other.
* `Sense.entries` — the same for lists of named entries, given a relation of what is named.
* `Sense.entries_cons`, `Sense.entries_concat` — an entry at either end, under a name of its own.
* `Sense.Entries.lookup` — entries that are equal in some sense are so name by name.
-/

set_option autoImplicit false

namespace FacetedSearch

/-- Two values stand for the same: objects are compared name by name. -/
inductive Json.Alike : Json → Json → Prop where
  | null : Alike .null .null
  | bool (b : Bool) : Alike (.bool b) (.bool b)
  | int (n : Int) : Alike (.int n) (.int n)
  | float (x : Double) : Alike (.float x) (.float x)
  | str (s : String) : Alike (.str s) (.str s)
  | arr {xs ys : List Json} (items : List.Forall₂ Alike xs ys) : Alike (.arr xs) (.arr ys)
  | obj {ms ns : Members}
      (members : ∀ key, Option.Rel Alike (ms.lookup key) (ns.lookup key)) :
      Alike (.obj ms) (.obj ns)

mutual

/-- Every value stands for what it stands for. -/
theorem Json.Alike.refl : (x : Json) → Json.Alike x x
  | .null => .null
  | .bool b => .bool b
  | .int n => .int n
  | .float x => .float x
  | .str s => .str s
  | .arr xs => .arr (Json.Alike.refl_items xs)
  | .obj ms => .obj (Json.Alike.refl_members ms)

theorem Json.Alike.refl_items : (xs : List Json) → List.Forall₂ Json.Alike xs xs
  | [] => .nil
  | x :: xs => .cons (Json.Alike.refl x) (Json.Alike.refl_items xs)

theorem Json.Alike.refl_members :
    (ms : Members) → ∀ key, Option.Rel Json.Alike (ms.lookup key) (ms.lookup key)
  | [], _ => .none
  | (k, x) :: ms, key => by
    rw [List.lookup_cons]
    cases key == k with
    | true => exact .some (Json.Alike.refl x)
    | false => exact Json.Alike.refl_members ms key

end

mutual

/-- What stands for the same does so the other way round. -/
theorem Json.Alike.symm : (x : Json) → ∀ {y : Json}, Json.Alike x y → Json.Alike y x
  | .null, _, .null => .null
  | .bool _, _, .bool b => .bool b
  | .int _, _, .int n => .int n
  | .float _, _, .float x => .float x
  | .str _, _, .str s => .str s
  | .arr xs, _, .arr items => .arr (Json.Alike.symm_items xs items)
  | .obj ms, _, .obj members => .obj fun key => Json.Alike.symm_members ms key (members key)

theorem Json.Alike.symm_items :
    (xs : List Json) → ∀ {ys : List Json},
      List.Forall₂ Json.Alike xs ys → List.Forall₂ Json.Alike ys xs
  | [], _, .nil => .nil
  | x :: xs, _, .cons hx hxs => .cons (Json.Alike.symm x hx) (Json.Alike.symm_items xs hxs)

theorem Json.Alike.symm_members :
    (ms : Members) → ∀ (key : String) {y : Option Json},
      Option.Rel Json.Alike (ms.lookup key) y → Option.Rel Json.Alike y (ms.lookup key)
  | [], _, _, .none => .none
  | (k, x) :: ms, key, y, h => by
    rw [List.lookup_cons] at h ⊢
    cases hk : key == k with
    | true =>
      rw [hk] at h
      cases h with
      | some hx => exact .some (Json.Alike.symm x hx)
    | false =>
      rw [hk] at h
      exact Json.Alike.symm_members ms key h

end

/-- The senses in which two values can be equal. -/
inductive Sense where
  /-- as they are written -/
  | written
  /-- as what they stand for -/
  | meant
  deriving DecidableEq, Repr

namespace Sense

/-- Equality of two values in a sense. -/
def alike : Sense → Json → Json → Prop
  | written => (· = ·)
  | meant => Json.Alike

/-- Equality of named entries in a sense, given what it is for the things named to be equal. -/
def entries {α : Type} : Sense → (α → α → Prop) → List (String × α) → List (String × α) → Prop
  | written, R => List.Forall₂ fun m n => m.1 = n.1 ∧ R m.2 n.2
  | meant, R => fun ms ns => ∀ key, Option.Rel R (ms.lookup key) (ns.lookup key)

/-- Equality of lists of names in a sense: as lists, or as sets. -/
def names : Sense → List String → List String → Prop
  | written => (· = ·)
  | meant => fun xs ys => ∀ name, name ∈ xs ↔ name ∈ ys

/-! ## Entries -/

section Entries

variable {α β : Type} {R : α → α → Prop} {σ : Sense}

theorem forall₂_entry_eq_iff {ms ns : List (String × α)} :
    List.Forall₂ (fun m n => m.1 = n.1 ∧ m.2 = n.2) ms ns ↔ ms = ns := by
  have h : (fun m n : String × α => m.1 = n.1 ∧ m.2 = n.2) = (· = ·) := by
    funext m n
    exact propext Prod.ext_iff.symm
  rw [h, List.forall₂_eq_eq_eq]

/-- Entries that are related one by one are equal in every sense. -/
theorem entries_of_forall₂ {ms ns : List (String × α)}
    (h : List.Forall₂ (fun m n => m.1 = n.1 ∧ R m.2 n.2) ms ns) : σ.entries R ms ns := by
  cases σ with
  | written => exact h
  | meant =>
    intro key
    induction h with
    | nil => exact .none
    | @cons m n ms ns hmn _ ih =>
      obtain ⟨k, x⟩ := m
      obtain ⟨l, y⟩ := n
      obtain ⟨rfl, hxy⟩ := hmn
      rw [List.lookup_cons, List.lookup_cons]
      cases key == k with
      | true => exact .some hxy
      | false => exact ih

/-- Entries that are equal in some sense are so name by name. -/
theorem Entries.lookup {ms ns : List (String × α)} (h : σ.entries R ms ns) (key : String) :
    Option.Rel R (ms.lookup key) (ns.lookup key) := by
  cases σ with
  | written => exact entries_of_forall₂ (σ := .meant) h key
  | meant => exact h key

theorem entries_nil : σ.entries R [] [] := entries_of_forall₂ .nil

/-- Entries are compared the other way round. -/
theorem entries_swap {ms ns : List (String × α)} :
    σ.entries R ms ns ↔ σ.entries (fun x y => R y x) ns ms := by
  cases σ with
  | written =>
    constructor
    · exact fun h => (h.imp fun _ _ hmn => ⟨hmn.1.symm, hmn.2⟩).flip
    · exact fun h => (h.imp fun _ _ hmn => ⟨hmn.1.symm, hmn.2⟩).flip
  | meant =>
    refine forall_congr' fun key => ?_
    cases ms.lookup key <;> cases ns.lookup key <;> simp

/-- An entry under a name that the other side does not have. -/
theorem not_entries_cons_left {k : String} {x : α} {ms ns : List (String × α)}
    (hn : ∀ n ∈ ns, n.1 ≠ k) : ¬ σ.entries R ((k, x) :: ms) ns := by
  intro h
  have hk := Entries.lookup h k
  rw [List.lookup_cons_self, Members.lookup_eq_none_iff.2 hn] at hk
  cases hk

theorem not_entries_cons_right {k : String} {x : α} {ms ns : List (String × α)}
    (hm : ∀ m ∈ ms, m.1 ≠ k) : ¬ σ.entries R ms ((k, x) :: ns) := by
  rw [entries_swap]
  exact not_entries_cons_left hm

theorem entries_nil_right {ms : List (String × α)} : σ.entries R ms [] ↔ ms = [] := by
  cases ms with
  | nil => simp [entries_nil]
  | cons m ms => exact ⟨fun h => absurd h (not_entries_cons_left (by simp)), nofun⟩

theorem entries_nil_left {ns : List (String × α)} : σ.entries R [] ns ↔ ns = [] := by
  rw [entries_swap, entries_nil_right]

/-- First entries under one name, which occurs no further. -/
theorem entries_cons {k : String} {x y : α} {ms ns : List (String × α)}
    (hm : ∀ m ∈ ms, m.1 ≠ k) (hn : ∀ n ∈ ns, n.1 ≠ k) :
    σ.entries R ((k, x) :: ms) ((k, y) :: ns) ↔ R x y ∧ σ.entries R ms ns := by
  cases σ with
  | written => simp [entries]
  | meant =>
    constructor
    · intro h
      refine ⟨by simpa using h k, fun key => ?_⟩
      by_cases hk : key = k
      · subst hk
        rw [Members.lookup_eq_none_iff.2 hm, Members.lookup_eq_none_iff.2 hn]
        exact .none
      · have := h key
        rwa [List.lookup_cons, List.lookup_cons, beq_false_of_ne hk] at this
    · rintro ⟨hxy, h⟩ key
      rw [List.lookup_cons, List.lookup_cons]
      cases key == k with
      | true => exact .some hxy
      | false => exact h key

/-- Last entries under one name, which occurs nowhere before. -/
theorem entries_concat {k : String} {x y : α} {ms ns : List (String × α)}
    (hm : ∀ m ∈ ms, m.1 ≠ k) (hn : ∀ n ∈ ns, n.1 ≠ k) :
    σ.entries R (ms ++ [(k, x)]) (ns ++ [(k, y)]) ↔ R x y ∧ σ.entries R ms ns := by
  rw [← Members.lookup_eq_none_iff] at hm hn
  cases σ with
  | written =>
    constructor
    · intro h
      have hlen := h.length_eq
      rw [List.length_append, List.length_append] at hlen
      have hinit := List.forall₂_take ms.length h
      have hlast := List.forall₂_drop ms.length h
      simp only [List.length_singleton, Nat.add_right_cancel_iff] at hlen
      rw [List.take_left, hlen, List.take_left] at hinit
      rw [List.drop_left, hlen, List.drop_left] at hlast
      cases hlast with
      | cons hxy _ => exact ⟨hxy.2, hinit⟩
    · rintro ⟨hxy, h⟩
      exact List.rel_append h (.cons ⟨rfl, hxy⟩ .nil)
  | meant =>
    constructor
    · intro h
      refine ⟨by simpa [List.lookup_append, hm, hn] using h k, fun key => ?_⟩
      by_cases hk : key = k
      · subst hk
        rw [hm, hn]
        exact .none
      · simpa [List.lookup_append, List.lookup_cons, beq_false_of_ne hk] using h key
    · rintro ⟨hxy, h⟩ key
      rw [List.lookup_append, List.lookup_append]
      by_cases hk : key = k
      · subst hk
        simpa [hm, hn] using hxy
      · simpa [List.lookup_cons, beq_false_of_ne hk] using h key

/-- Entries are rewritten without touching their names. -/
theorem entries_map {S : β → β → Prop} (f : α → β) {ms ns : List (String × α)} :
    σ.entries S (ms.map fun (k, x) => (k, f x)) (ns.map fun (k, x) => (k, f x))
      ↔ σ.entries (fun x y => S (f x) (f y)) ms ns := by
  cases σ with
  | written => simp [entries]
  | meant =>
    refine forall_congr' fun key => ?_
    rw [Members.lookup_map, Members.lookup_map]
    cases ms.lookup key <;> cases ns.lookup key <;> simp

/-- Single entries are equal under one name only. -/
theorem entries_singleton {k l : String} {x y : α} :
    σ.entries R [(k, x)] [(l, y)] ↔ k = l ∧ R x y := by
  by_cases hkl : k = l
  · subst hkl
    rw [entries_cons (by simp) (by simp)]
    exact ⟨fun h => ⟨rfl, h.1⟩, fun h => ⟨h.2, entries_nil⟩⟩
  · have hl : ∀ m ∈ [(l, y)], m.1 ≠ k := by simpa using fun h => hkl h.symm
    exact ⟨fun h => absurd h (not_entries_cons_left hl), fun h => absurd h.1 hkl⟩

end Entries

/-! ## Names -/

theorem names_nil_right {σ : Sense} {xs : List String} : σ.names xs [] ↔ xs = [] := by
  cases σ with
  | written => exact Iff.rfl
  | meant => simp [names, List.eq_nil_iff_forall_not_mem]

theorem names_nil_left {σ : Sense} {ys : List String} : σ.names [] ys ↔ ys = [] := by
  cases σ with
  | written => exact eq_comm
  | meant => simp [names, List.eq_nil_iff_forall_not_mem]

/-! ## Values -/

section Values

variable {σ : Sense}

theorem alike_refl (x : Json) : σ.alike x x := by
  cases σ with
  | written => exact rfl
  | meant => exact Json.Alike.refl x

theorem alike_comm {x y : Json} : σ.alike x y ↔ σ.alike y x := by
  cases σ with
  | written => exact eq_comm
  | meant => exact ⟨Json.Alike.symm x, Json.Alike.symm y⟩

theorem entries_alike_comm {ms ns : Members} :
    σ.entries σ.alike ms ns ↔ σ.entries σ.alike ns ms := by
  rw [entries_swap]
  simp only [alike_comm]

@[simp] theorem alike_str_iff {s t : String} : σ.alike (.str s) (.str t) ↔ s = t := by
  cases σ with
  | written => exact Json.str.injEq s t ▸ Iff.rfl
  | meant => exact ⟨fun h => by cases h; rfl, fun h => h ▸ .str s⟩

@[simp] theorem alike_int_iff {m n : Int} : σ.alike (.int m) (.int n) ↔ m = n := by
  cases σ with
  | written => exact Json.int.injEq m n ▸ Iff.rfl
  | meant => exact ⟨fun h => by cases h; rfl, fun h => h ▸ .int m⟩

@[simp] theorem not_alike_str_int {s : String} {n : Int} : ¬ σ.alike (.str s) (.int n) := by
  cases σ <;> exact nofun

@[simp] theorem not_alike_int_str {s : String} {n : Int} : ¬ σ.alike (.int n) (.str s) := by
  cases σ <;> exact nofun

@[simp] theorem not_alike_arr_str {xs : List Json} {s : String} : ¬ σ.alike (.arr xs) (.str s) := by
  cases σ <;> exact nofun

@[simp] theorem not_alike_str_arr {xs : List Json} {s : String} : ¬ σ.alike (.str s) (.arr xs) := by
  cases σ <;> exact nofun

@[simp] theorem alike_arr_iff {xs ys : List Json} :
    σ.alike (.arr xs) (.arr ys) ↔ List.Forall₂ σ.alike xs ys := by
  cases σ with
  | written =>
    show Json.arr xs = .arr ys ↔ List.Forall₂ (· = ·) xs ys
    rw [List.forall₂_eq_eq_eq, Json.arr.injEq]
  | meant => exact ⟨fun h => by cases h with | arr items => exact items, .arr⟩

@[simp] theorem alike_obj_iff {ms ns : Members} :
    σ.alike (.obj ms) (.obj ns) ↔ σ.entries σ.alike ms ns := by
  cases σ with
  | written =>
    show Json.obj ms = .obj ns ↔ List.Forall₂ _ ms ns
    exact Json.obj.injEq ms ns ▸ forall₂_entry_eq_iff.symm
  | meant => exact ⟨fun h => by cases h with | obj members => exact members, .obj⟩

end Values

end Sense

end FacetedSearch
