import FacetedSearch.Number.Double

/-!
# JSON values

Queries, search bodies, responses and records are JSON values.  Integers have any size and are
distinct from floating-point numbers, and an object keeps its members in order, because the order
of members can be seen in answers.

* `Json` — the values, with decidable equality.
* `Members` — the members of an object; `Members.insert` gives a member a value in its old place,
  or at the end when it is new.
* `Json.isTruthy` — whether a value counts as present.
-/

set_option autoImplicit false

namespace FacetedSearch

/-- A JSON value. -/
inductive Json where
  | null
  | bool (value : Bool)
  | int (value : Int)
  | float (value : Double)
  | str (value : String)
  | arr (items : List Json)
  | obj (members : List (String × Json))
  deriving Repr, Inhabited

/-- The members of an object, in order. -/
abbrev Members := List (String × Json)

namespace Json

mutual

/-- Equality of values can be decided. -/
def decEq : (a b : Json) → Decidable (a = b)
  | null, b => by
    cases b with
    | null => exact isTrue rfl
    | _ => exact isFalse (by simp)
  | bool x, b => by
    cases b with
    | bool y => exact decidable_of_iff (x = y) (by simp)
    | _ => exact isFalse (by simp)
  | int x, b => by
    cases b with
    | int y => exact decidable_of_iff (x = y) (by simp)
    | _ => exact isFalse (by simp)
  | float x, b => by
    cases b with
    | float y => exact decidable_of_iff (x = y) (by simp)
    | _ => exact isFalse (by simp)
  | str x, b => by
    cases b with
    | str y => exact decidable_of_iff (x = y) (by simp)
    | _ => exact isFalse (by simp)
  | arr xs, b => by
    cases b with
    | arr ys => exact @decidable_of_iff _ (xs = ys) (by simp) (decEqItems xs ys)
    | _ => exact isFalse (by simp)
  | obj xs, b => by
    cases b with
    | obj ys => exact @decidable_of_iff _ (xs = ys) (by simp) (decEqMembers xs ys)
    | _ => exact isFalse (by simp)

/-- Equality of lists of values can be decided. -/
def decEqItems : (xs ys : List Json) → Decidable (xs = ys)
  | [], [] => isTrue rfl
  | [], _ :: _ => isFalse (by simp)
  | _ :: _, [] => isFalse (by simp)
  | x :: xs, y :: ys =>
    match decEq x y, decEqItems xs ys with
    | isTrue h, isTrue hs => isTrue (by rw [h, hs])
    | isFalse h, _ => isFalse (by simp [h])
    | _, isFalse hs => isFalse (by simp [hs])

/-- Equality of lists of members can be decided. -/
def decEqMembers : (xs ys : List (String × Json)) → Decidable (xs = ys)
  | [], [] => isTrue rfl
  | [], _ :: _ => isFalse (by simp)
  | _ :: _, [] => isFalse (by simp)
  | (k, x) :: xs, (l, y) :: ys =>
    if hk : k = l then
      match decEq x y, decEqMembers xs ys with
      | isTrue h, isTrue hs => isTrue (by rw [hk, h, hs])
      | isFalse h, _ => isFalse (by simp [h])
      | _, isFalse hs => isFalse (by simp [hs])
    else isFalse (by simp [hk])

end

instance : DecidableEq Json := decEq

/-- The value is absent, zero, empty or false; everything else counts as present. -/
def isTruthy : Json → Bool
  | null => false
  | bool b => b
  | int n => n != 0
  | float x => !x.isZero
  | str s => s != ""
  | arr items => !items.isEmpty
  | obj members => !members.isEmpty

/-- The value itself when it counts as present, else the given one. -/
def orElse (x y : Json) : Json := if x.isTruthy then x else y

end Json

/-- The values of the members of an object; any other value stands for itself. -/
def Json.parts : Json → List Json
  | .obj members => members.map Prod.snd
  | x => [x]

namespace Members

variable {α : Type}

/-- Whether there is a member of that name. -/
def has (key : String) (ms : List (String × α)) : Bool := (ms.lookup key).isSome

/-- Give a member a value: in its old place, or at the end when it is new. -/
def insert (key : String) (value : α) : List (String × α) → List (String × α)
  | [] => [(key, value)]
  | (k, v) :: ms => if k = key then (k, value) :: ms else (k, v) :: insert key value ms

/-- The values of all members. -/
def values (ms : List (String × α)) : List α := ms.map Prod.snd

/-- Remove the member of that name. -/
def erase (key : String) (ms : List (String × α)) : List (String × α) :=
  ms.filter fun m => m.1 != key

/-- Members in order of first appearance, each with the last value given for it. -/
def ofList (ms : List (String × α)) : List (String × α) :=
  ms.foldl (fun acc m => insert m.1 m.2 acc) []

end Members

end FacetedSearch
