import FacetedSearch.Json.Basic

/-!
# Sameness of values

A bucket is selected when its key is the same value as a filter's term.  Sameness is coarser than
equality: numbers are the same when they stand for the same number, whatever their kind, and a
truth value is the same as the number it counts for; a pattern that stands for no number is the
same as nothing.  Arrays are compared item by item, objects regardless of the order of members.

* `Json.same` — the comparison.
* `Json.distinct` — of values that are the same, the first.
-/

set_option autoImplicit false

namespace FacetedSearch.Json

/-- The number a truth value counts for. -/
def countOf (b : Bool) : Int := if b then 1 else 0

/-- Whether a floating-point number stands for an integer. -/
def standsFor (x : Double) (n : Int) : Bool := x.toInt? == some n

mutual

/-- Whether two values are the same. -/
def same : Json → Json → Bool
  | null, null => true
  | bool a, bool b => a == b
  | bool a, int b => countOf a == b
  | bool a, float b => standsFor b (countOf a)
  | int a, bool b => a == countOf b
  | int a, int b => a == b
  | int a, float b => standsFor b a
  | float a, bool b => standsFor a (countOf b)
  | float a, int b => standsFor a b
  | float a, float b => a.sameNumber b
  | str a, str b => a == b
  | arr xs, arr ys => sameItems xs ys
  | obj ms, obj ns => ms.length == ns.length && sameMembers ms ns
  | _, _ => false

/-- Whether two lists have the same items in order. -/
def sameItems : List Json → List Json → Bool
  | [], [] => true
  | x :: xs, y :: ys => same x y && sameItems xs ys
  | _, _ => false

/-- Whether each member has one of the same name and value on the other side. -/
def sameMembers : List (String × Json) → List (String × Json) → Bool
  | [], _ => true
  | (key, x) :: ms, ns =>
    match ns.lookup key with
    | some y => same x y && sameMembers ms ns
    | none => false

end

/-- The first ones of the values that are the same. -/
def distinct (xs : List Json) : List Json :=
  xs.foldl (fun firsts x => if firsts.any (same x) then firsts else firsts ++ [x]) []

end FacetedSearch.Json
