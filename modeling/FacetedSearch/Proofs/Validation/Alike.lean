import FacetedSearch.Proofs.Validation.Reading

/-!
# Readings that turn out alike

Two readings turn out alike when both give the same value, or when both are refused, for the same
rules in the same order and at places that correspond.  What was found at those places may differ.

* `Validation.belowMember`, `Validation.belowTag`, `Validation.belowItems` — changes to the way to a
  place that leave its first steps alone.
* `Validation.Cause.Matches` — the same rule, broken at corresponding places.
* `Checked.Alike` — readings that turn out alike, and how parts that do are put together.
* `Checked.Alike.defaulted`, `Checked.Alike.aliased_of_moved` — members that are found in both, by
  the same name or by another one.
* `SameOutcome` — the same for what can also fail in other ways.
-/

set_option autoImplicit false

namespace FacetedSearch

open Validation

namespace Validation

/-- The way to a place in a value. -/
abbrev Path := List PathItem

/-- The change of what comes after a member of that name. -/
def belowMember (name : String) (change : Path → Path) : Path → Path
  | .key s :: path => .key s :: if s = name then change path else path
  | path => path

theorem belowMember_self (name : String) (change : Path → Path) (path : Path) :
    belowMember name change (.key name :: path) = .key name :: change path := by
  simp only [belowMember, if_true]

theorem belowMember_of_ne {name s : String} (h : s ≠ name) (change : Path → Path) (path : Path) :
    belowMember name change (.key s :: path) = .key s :: path := by
  simp only [belowMember, if_neg h]

/-- The change of what comes after a member of any name. -/
def belowTag (change : Path → Path) : Path → Path
  | .key tag :: path => .key tag :: change path
  | path => path

/-- The change of what comes after an item, as the position of the item says. -/
def belowItems (change : Nat → Path → Path) : Path → Path
  | .index position :: path => .index position :: change position path
  | path => path

/-- The second cause breaks the rule of the first one, at the place that corresponds. -/
def Cause.Matches (place : Path → Path) (c c' : Cause) : Prop :=
  c'.rule = c.rule ∧ c'.path = place c.path

theorem Cause.matches_trans {before after : Path → Path} {causes more most : List Cause}
    (h : List.Forall₂ (Matches before) causes more) (h' : List.Forall₂ (Matches after) more most) :
    List.Forall₂ (Matches (after ∘ before)) causes most := by
  induction h generalizing most with
  | nil =>
    cases h'
    exact .nil
  | cons hc _ ih =>
    cases h' with
    | cons hc' hrest =>
      refine .cons ⟨hc'.1.trans hc.1, ?_⟩ (ih hrest)
      rw [hc'.2, hc.2, Function.comp_apply]

end Validation

namespace Checked

variable {α β : Type} {place inside : Path → Path}

/-- Both readings give the same value, or both are refused for the same rules at corresponding
places. -/
inductive Alike (place : Path → Path) : Checked α → Checked α → Prop where
  | ok (x : α) : Alike place (.ok x) (.ok x)
  | refused {causes more : List Cause} (h : List.Forall₂ (Cause.Matches place) causes more) :
      Alike place (.refused causes) (.refused more)

theorem Alike.map {x y : Checked α} (f : α → β) (h : Alike place x y) :
    Alike place (f <$> x) (f <$> y) := by
  cases h with
  | ok x => exact .ok (f x)
  | refused h => exact .refused h

theorem Alike.seq {f g : Checked (α → β)} {x y : Checked α} (hf : Alike place f g)
    (hx : Alike place x y) : Alike place (f <*> x) (g <*> y) := by
  cases hf with
  | ok f =>
    cases hx with
    | ok x => exact .ok (f x)
    | refused h => exact .refused h
  | refused hcauses =>
    cases hx with
    | ok x => exact .refused hcauses
    | refused h => exact .refused (List.rel_append hcauses h)

/-- Readings that turn out alike do so one step further down, if the steps correspond. -/
theorem Alike.under {item item' : PathItem} {x y : Checked α} (h : Alike inside x y)
    (hplace : ∀ path, place (item :: path) = item' :: inside path) :
    Alike place (x.under item) (y.under item') := by
  cases h with
  | ok x => exact .ok x
  | refused h =>
    refine .refused ?_
    rw [List.forall₂_map_left_iff, List.forall₂_map_right_iff]
    refine h.imp fun c c' ⟨hrule, hpath⟩ => ⟨hrule, ?_⟩
    rw [hpath, hplace]

/-- A reading turns out like itself when every place corresponds to itself. -/
theorem Alike.refl (hplace : ∀ path, place path = path) (x : Checked α) : Alike place x x := by
  cases x with
  | ok x => exact .ok x
  | refused causes => exact .refused (List.forall₂_same.2 fun c _ => ⟨rfl, (hplace c.path).symm⟩)

/-- What is found one step further down turns out alike under either of two corresponding steps. -/
theorem Alike.moved {item item' : PathItem} (x : Checked α)
    (hplace : ∀ path, place (item :: path) = item' :: path) :
    Alike place (x.under item) (x.under item') := by
  have hsame : Alike id x x := .refl (fun _ => rfl) x
  exact hsame.under hplace

/-- A rule that is broken by the value itself. -/
theorem Alike.refuse {rule : Rule} {x y : Json} (hplace : place [] = []) :
    Alike (α := α) place (Checked.refuse rule x) (Checked.refuse rule y) :=
  .refused (.cons ⟨rfl, hplace.symm⟩ .nil)

/-- The first items turn out alike, and the others do. -/
theorem Alike.items_cons {check : Json → Checked α} {position : Nat} {x y : Json}
    {xs ys : List Json} (hfirst : Alike inside (check x) (check y))
    (hplace : ∀ path, place (.index position :: path) = .index position :: inside path)
    (hothers : Alike place (items check (position + 1) xs) (items check (position + 1) ys)) :
    Alike place (items check position (x :: xs)) (items check position (y :: ys)) :=
  ((hfirst.under hplace).map List.cons).seq hothers

/-- A member that is the same in both. -/
theorem Alike.defaulted {ms ns : Members} {name : String} {check : Json → Checked α} {absent : α}
    (h : ns.lookup name = ms.lookup name)
    (hplace : ∀ path, place (.key name :: path) = .key name :: path) :
    Alike place (Checked.defaulted ms name check absent)
      (Checked.defaulted ns name check absent) := by
  unfold Checked.defaulted
  rw [h]
  cases ms.lookup name with
  | none => exact .ok absent
  | some x => exact .moved (check x) hplace

/-- A member that is the same in both, under either of its names. -/
theorem Alike.aliased {ms ns : Members} {name other : String} {check : Json → Checked α}
    {absent : α} (h : ns.lookup name = ms.lookup name) (h' : ns.lookup other = ms.lookup other)
    (hplace : ∀ path, place (.key name :: path) = .key name :: path)
    (hplace' : ∀ path, place (.key other :: path) = .key other :: path) :
    Alike place (Checked.aliased ms name other check absent)
      (Checked.aliased ns name other check absent) := by
  unfold Checked.aliased
  rw [h]
  cases ms.lookup name with
  | none => exact .defaulted h' hplace'
  | some x => exact .moved (check x) hplace

/-- A member that is given by one of its names in the first object and by the other one in the
second. -/
theorem Alike.aliased_of_moved {ms ns : Members} {name other : String} {check : Json → Checked α}
    {absent : α} (h : ns.lookup name = ms.lookup other) (h' : ns.lookup other = ms.lookup name)
    (honce : ms.lookup name = none ∨ ms.lookup other = none)
    (hplace : ∀ path, place (.key name :: path) = .key other :: path)
    (hplace' : ∀ path, place (.key other :: path) = .key name :: path) :
    Alike place (Checked.aliased ms name other check absent)
      (Checked.aliased ns name other check absent) := by
  unfold Checked.aliased Checked.defaulted
  rw [h, h']
  rcases honce with hnone | hnone
  · rw [hnone]
    cases ms.lookup other with
    | none => exact .ok absent
    | some x => exact .moved (check x) hplace'
  · rw [hnone]
    cases ms.lookup name with
    | none => exact .ok absent
    | some x => exact .moved (check x) hplace

/-- Structured values with the same tag. -/
theorem Alike.tagged {tagName : String} {choose : String → Option (Members → Checked α)}
    {ms ns : Members} (htag : ns.lookup tagName = ms.lookup tagName) (hroot : place [] = [])
    (hplace : ∀ tag path, place (.key tag :: path) = .key tag :: inside path)
    (h : ∀ tag check, choose tag = some check → Alike inside (check ms) (check ns)) :
    Alike place (Checked.tagged tagName choose (.obj ms))
      (Checked.tagged tagName choose (.obj ns)) := by
  unfold Checked.tagged
  dsimp only
  rw [htag]
  cases ms.lookup tagName with
  | none => exact .refuse hroot
  | some value =>
    cases value with
    | str tag =>
      dsimp only
      cases hcheck : choose tag with
      | none => exact .refuse hroot
      | some check => exact (h tag check hcheck).under (hplace tag)
    | null | bool | int | float | arr | obj => exact .refuse hroot

end Checked

/-- Both outcomes are the same value, or both are refusals for the same rules at corresponding
places, or both are the same failure of another kind. -/
inductive SameOutcome {α : Type} (place : Path → Path) :
    Except Failure α → Except Failure α → Prop where
  | ok (x : α) : SameOutcome place (.ok x) (.ok x)
  | refused {causes more : List Cause} (h : List.Forall₂ (Cause.Matches place) causes more) :
      SameOutcome place (.error (.invalid causes)) (.error (.invalid more))
  | failed {failure : Failure} (h : ∀ causes, failure ≠ .invalid causes) :
      SameOutcome place (.error failure) (.error failure)

namespace SameOutcome

variable {α : Type} {place : Path → Path}

theorem of_alike {x y : Checked α} (h : Checked.Alike place x y) :
    SameOutcome place x.orFail y.orFail := by
  cases h with
  | ok x => exact .ok x
  | refused h => exact .refused h

theorem trans {before after : Path → Path} {x y z : Except Failure α}
    (hxy : SameOutcome before x y) (hyz : SameOutcome after y z) :
    SameOutcome (after ∘ before) x z := by
  cases hxy with
  | ok x =>
    cases hyz
    exact .ok x
  | refused h =>
    cases hyz with
    | refused h' => exact .refused (Cause.matches_trans h h')
    | failed h' => exact absurd rfl (h' _)
  | failed h =>
    cases hyz with
    | refused => exact absurd rfl (h _)
    | failed => exact .failed h

end SameOutcome

end FacetedSearch
