import FacetedSearch.Json.Sameness
import FacetedSearch.Proofs.Number.Value
import Mathlib.Data.List.Forall2

/-!
# Values that are the same

What the comparison of values decides.  Two numbers are the same when they stand for the same
number, whatever their kind; a truth value stands for one or zero, and a pattern that stands for no
number is the same as nothing.  Lists are compared item by item, and objects by name.

* `Json.number?` — the number that a value stands for.
* `Json.Equal` — the values that are the same, without a way to compute it.
* `Json.same_eq_true_iff` — the comparison decides it.
-/

set_option autoImplicit false

namespace FacetedSearch.Json

/-- The number that a value stands for, if it stands for one. -/
def number? : Json → Option Number
  | bool b => some (.finite (countOf b))
  | int n => some (.finite n)
  | float x => x.number?
  | _ => none

/-- The values that are the same. -/
inductive Equal : Json → Json → Prop where
  | null : Equal null null
  | number {x y : Json} {v : Number} (left : x.number? = some v) (right : y.number? = some v) :
    Equal x y
  | str (s : String) : Equal (str s) (str s)
  | arr {xs ys : List Json} (items : List.Forall₂ Equal xs ys) : Equal (arr xs) (arr ys)
  /-- there are as many members, and each has one of its name and value on the other side -/
  | obj {ms ns : Members} (size : ms.length = ns.length)
    (members : ∀ m ∈ ms, Option.Rel Equal (some m.2) (ns.lookup m.1)) : Equal (obj ms) (obj ns)

/-! ## What is the same as a value of a kind -/

theorem equal_null_left {y : Json} : Equal null y ↔ y = null := by
  constructor
  · intro h
    cases h with
    | null => rfl
    | number left _ => cases left
  · rintro rfl
    exact .null

theorem equal_str_left {s : String} {y : Json} : Equal (str s) y ↔ y = str s := by
  constructor
  · intro h
    cases h with
    | str => rfl
    | number left _ => cases left
  · rintro rfl
    exact .str s

theorem equal_arr_left {xs : List Json} {y : Json} :
    Equal (arr xs) y ↔ ∃ ys, y = arr ys ∧ List.Forall₂ Equal xs ys := by
  constructor
  · intro h
    cases h with
    | arr items => exact ⟨_, rfl, items⟩
    | number left _ => cases left
  · rintro ⟨ys, rfl, items⟩
    exact .arr items

theorem equal_obj_left {ms : Members} {y : Json} :
    Equal (obj ms) y ↔ ∃ ns, y = obj ns ∧ ms.length = ns.length ∧
      ∀ m ∈ ms, Option.Rel Equal (some m.2) (ns.lookup m.1) := by
  constructor
  · intro h
    cases h with
    | obj size members => exact ⟨_, rfl, size, members⟩
    | number left _ => cases left
  · rintro ⟨ns, rfl, size, members⟩
    exact .obj size members

theorem equal_bool_left {b : Bool} {y : Json} :
    Equal (bool b) y ↔ y.number? = some (.finite (countOf b)) := by
  constructor
  · intro h
    cases h with
    | number left right => exact right.trans left.symm
  · exact .number rfl

theorem equal_int_left {n : Int} {y : Json} : Equal (int n) y ↔ y.number? = some (.finite n) := by
  constructor
  · intro h
    cases h with
    | number left right => exact right.trans left.symm
  · exact .number rfl

theorem equal_float_left {x : Double} {y : Json} :
    Equal (float x) y ↔ ∃ v, x.number? = some v ∧ y.number? = some v := by
  constructor
  · intro h
    cases h with
    | number left right => exact ⟨_, left, right⟩
  · rintro ⟨v, left, right⟩
    exact .number left right

/-! ## The comparison -/

theorem standsFor_iff {x : Double} {n : Int} :
    standsFor x n = true ↔ x.number? = some (.finite n) := by
  rw [standsFor, beq_iff_eq, Double.toInt?_eq_some_iff]

theorem countOf_eq_iff {a b : Bool} : countOf a = countOf b ↔ a = b := by
  cases a <;> cases b <;> decide

theorem finite_eq_iff {m n : Int} : some (Number.finite m) = some (Number.finite n) ↔ m = n := by
  rw [Option.some.injEq, Number.finite.injEq, Int.cast_inj]

mutual

/-- **The comparison decides which values are the same.** -/
theorem same_eq_true_iff : (x y : Json) → (same x y = true ↔ Equal x y)
  | null, y => by
    rw [equal_null_left]
    cases y <;> simp [same]
  | bool a, y => by
    rw [equal_bool_left]
    cases y with
    | bool b => rw [same, number?, finite_eq_iff, countOf_eq_iff, beq_iff_eq, eq_comm]
    | int n => rw [same, number?, finite_eq_iff, beq_iff_eq, eq_comm]
    | float z => rw [same, number?, standsFor_iff]
    | null | str | arr | obj => simp [same, number?]
  | int m, y => by
    rw [equal_int_left]
    cases y with
    | bool b => rw [same, number?, finite_eq_iff, beq_iff_eq, eq_comm]
    | int n => rw [same, number?, finite_eq_iff, beq_iff_eq, eq_comm]
    | float z => rw [same, number?, standsFor_iff]
    | null | str | arr | obj => simp [same, number?]
  | float x, y => by
    rw [equal_float_left]
    cases y with
    | bool b => simp [same, number?, standsFor_iff]
    | int n => simp [same, number?, standsFor_iff]
    | float z => rw [same, number?, Double.sameNumber_iff]
    | null | str | arr | obj => simp [same, number?]
  | str s, y => by
    rw [equal_str_left]
    cases y with
    | str t => rw [same, beq_iff_eq, str.injEq, eq_comm]
    | null | bool | int | float | arr | obj => simp [same]
  | arr xs, y => by
    rw [equal_arr_left]
    cases y with
    | arr ys => simp [same, sameItems_eq_true_iff xs ys]
    | null | bool | int | float | str | obj => simp [same]
  | obj ms, y => by
    rw [equal_obj_left]
    cases y with
    | obj ns => simp [same, sameMembers_eq_true_iff ms ns]
    | null | bool | int | float | str | arr => simp [same]

theorem sameItems_eq_true_iff :
    (xs ys : List Json) → (sameItems xs ys = true ↔ List.Forall₂ Equal xs ys)
  | [], ys => by
    rw [List.forall₂_nil_left_iff]
    cases ys <;> simp [sameItems]
  | x :: xs, [] => by simp [sameItems]
  | x :: xs, y :: ys => by
    rw [sameItems, Bool.and_eq_true, List.forall₂_cons, same_eq_true_iff x y,
      sameItems_eq_true_iff xs ys]

theorem sameMembers_eq_true_iff :
    (ms ns : Members) →
      (sameMembers ms ns = true ↔ ∀ m ∈ ms, Option.Rel Equal (some m.2) (ns.lookup m.1))
  | [], ns => by simp [sameMembers]
  | (key, x) :: ms, ns => by
    rw [sameMembers, List.forall_mem_cons]
    cases ns.lookup key with
    | none => simp
    | some y => simp [same_eq_true_iff x y, sameMembers_eq_true_iff ms ns]

end

instance : DecidableRel Equal := fun x y => decidable_of_iff _ (same_eq_true_iff x y)

example : Equal (int 1) (bool true) ∧ Equal (int 1) (float ⟨0x3ff0000000000000⟩) := by decide

end FacetedSearch.Json
