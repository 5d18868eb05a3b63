import Mathlib.Data.List.Forall2

/-!
# Outcomes

Most of what can fail gives its result or the first failure.  When a chain of such steps succeeds,
every step of it did.

* `bind_eq_ok_iff`, `map_eq_ok_iff`, `bind_eq_error_iff` — one step after another.
* `mapM_eq_ok_iff`, `mem_iff_of_mapM_eq_ok`, `mapM_map_of_map`, `mapM_modify` — a step for every item
  of a list.
* `mapM_eq_error_iff` — the first item that fails is the one that counts.
-/

set_option autoImplicit false

namespace FacetedSearch

theorem bind_eq_ok_iff {α β ε : Type} {x : Except ε α} {f : α → Except ε β} {y : β} :
    (x >>= f) = .ok y ↔ ∃ a, x = .ok a ∧ f a = .ok y := by
  cases x <;> simp [bind, Except.bind]

theorem map_eq_ok_iff {α β ε : Type} {x : Except ε α} {f : α → β} {y : β} :
    x.map f = .ok y ↔ ∃ a, x = .ok a ∧ f a = y := by
  cases x <;> simp [Except.map]

theorem bind_eq_error_iff {α β ε : Type} {x : Except ε α} {f : α → Except ε β} {e : ε} :
    (x >>= f) = .error e ↔ x = .error e ∨ ∃ a, x = .ok a ∧ f a = .error e := by
  cases x <;> simp [bind, Except.bind]

/-- Going through a list succeeds when every item does, and gives the results in order. -/
theorem mapM_eq_ok_iff {α β ε : Type} {f : α → Except ε β} :
    ∀ {xs : List α} {ys : List β},
      xs.mapM f = .ok ys ↔ List.Forall₂ (fun x y => f x = .ok y) xs ys
  | [], ys => by
    rw [List.mapM_nil, List.forall₂_nil_left_iff]
    exact ⟨fun h => by cases h; rfl, fun h => by rw [h]; rfl⟩
  | x :: xs, ys => by
    rw [List.mapM_cons, bind_eq_ok_iff, List.forall₂_cons_left_iff]
    refine exists_congr fun y => ?_
    rw [bind_eq_ok_iff]
    constructor
    · rintro ⟨hy, zs, hzs, h⟩
      cases h
      exact ⟨zs, hy, mapM_eq_ok_iff.1 hzs, rfl⟩
    · rintro ⟨zs, hy, hzs, rfl⟩
      exact ⟨hy, zs, mapM_eq_ok_iff.2 hzs, rfl⟩

/-- Of lists that are related item by item, what is in one place on the left is related to what is
in that place on the right. -/
theorem getElem?_of_forall₂ {α β : Type} {R : α → β → Prop} {xs : List α} {ys : List β}
    (h : List.Forall₂ R xs ys) {i : Nat} {x : α} (hx : xs[i]? = some x) :
    ∃ y, ys[i]? = some y ∧ R x y := by
  induction h generalizing i with
  | nil => simp at hx
  | cons hxy _ ih =>
    cases i with
    | zero =>
      rw [List.getElem?_cons_zero] at hx
      cases hx
      exact ⟨_, List.getElem?_cons_zero, hxy⟩
    | succ i =>
      rw [List.getElem?_cons_succ] at hx ⊢
      exact ih hx

/-- Going through a list that succeeds gives its result for every item in the place of that item. -/
theorem getElem?_of_mapM_eq_ok {α β ε : Type} {f : α → Except ε β} {xs : List α} {ys : List β}
    (h : xs.mapM f = .ok ys) {i : Nat} {x : α} (hx : xs[i]? = some x) :
    ∃ y, ys[i]? = some y ∧ f x = .ok y := getElem?_of_forall₂ (mapM_eq_ok_iff.1 h) hx

theorem exists_of_mem_of_forall₂ {α β : Type} {R : α → β → Prop} {xs : List α} {ys : List β}
    (h : List.Forall₂ R xs ys) {y : β} (hy : y ∈ ys) : ∃ x ∈ xs, R x y := by
  obtain ⟨i, hi⟩ := List.getElem?_of_mem hy
  obtain ⟨x, hx, hxy⟩ := getElem?_of_forall₂ h.flip hi
  exact ⟨x, List.mem_of_getElem? hx, hxy⟩

theorem forall_mem_of_forall₂ {α β : Type} {R : α → β → Prop} {P : α → Prop} {xs : List α}
    {ys : List β} (h : List.Forall₂ R xs ys) (hP : ∀ x y, R x y → P x) : ∀ x ∈ xs, P x := by
  intro x hx
  obtain ⟨y, -, hxy⟩ := exists_of_mem_of_forall₂ h.flip hx
  exact hP x y hxy

/-- The results of going through a list are those of its items. -/
theorem mem_iff_of_mapM_eq_ok {α β ε : Type} {f : α → Except ε β} {xs : List α} {ys : List β}
    (h : xs.mapM f = .ok ys) {y : β} : y ∈ ys ↔ ∃ x ∈ xs, f x = .ok y := by
  constructor
  · exact exists_of_mem_of_forall₂ (mapM_eq_ok_iff.1 h)
  · rintro ⟨x, hx, hxy⟩
    obtain ⟨i, hi⟩ := List.getElem?_of_mem hx
    obtain ⟨z, hz, hxz⟩ := getElem?_of_mapM_eq_ok h hi
    cases hxy.symm.trans hxz
    exact List.mem_of_getElem? hz

/-- Going through a list fails when an item does, with the failure of the first one that does. -/
theorem mapM_eq_error_iff {α β ε : Type} {f : α → Except ε β} {e : ε} :
    ∀ {xs : List α},
      xs.mapM f = .error e ↔
        ∃ before x after, xs = before ++ x :: after ∧ (∀ y ∈ before, ∃ z, f y = .ok z) ∧
          f x = .error e
  | [] => by
    constructor
    · intro h
      cases h
    · rintro ⟨before, x, after, h, -, -⟩
      simp at h
  | y :: xs => by
    rw [List.mapM_cons, bind_eq_error_iff]
    constructor
    · rintro (hy | ⟨z, hz, h⟩)
      · exact ⟨[], y, xs, rfl, nofun, hy⟩
      · rcases bind_eq_error_iff.1 h with hxs | ⟨zs, -, h⟩
        · obtain ⟨before, x, after, rfl, hbefore, hx⟩ := mapM_eq_error_iff.1 hxs
          refine ⟨y :: before, x, after, rfl, ?_, hx⟩
          exact List.forall_mem_cons.2 ⟨⟨z, hz⟩, hbefore⟩
        · cases h
    · rintro ⟨before, x, after, h, hbefore, hx⟩
      cases before with
      | nil =>
        cases h
        exact .inl hx
      | cons y' before =>
        cases h
        obtain ⟨⟨z, hz⟩, hbefore⟩ := List.forall_mem_cons.1 hbefore
        have hxs := mapM_eq_error_iff.2 ⟨before, x, after, rfl, hbefore, hx⟩
        exact .inr ⟨z, hz, bind_eq_error_iff.2 (.inl hxs)⟩

/-- Results that are turned into others one by one are turned into others as a whole. -/
theorem mapM_map_of_map {α β γ δ ε : Type} {f : α → β} {g : β → Except ε δ} {h : α → Except ε γ}
    {k : γ → δ} (hg : ∀ x, g (f x) = (h x).map k) (xs : List α) :
    (xs.map f).mapM g = (xs.mapM h).map (List.map k) := by
  induction xs with
  | nil => rfl
  | cons x xs ih =>
    rw [List.map_cons, List.mapM_cons, List.mapM_cons, ih, hg]
    cases h x with
    | error e => rfl
    | ok y => cases xs.mapM h <;> rfl

/-- Where an item is changed and its result with it, the other results stay. -/
theorem mapM_modify {α β ε : Type} {f : α → Except ε β} {g h : α → α} {k : β → β}
    (hk : ∀ x, f (g x) = (f (h x)).map k) (xs : List α) (i : Nat) :
    (xs.modify i g).mapM f = ((xs.modify i h).mapM f).map fun ys => ys.modify i k := by
  induction xs generalizing i with
  | nil => cases i <;> rfl
  | cons x xs ih =>
    cases i with
    | zero =>
      rw [List.modify_zero_cons, List.modify_zero_cons, List.mapM_cons, List.mapM_cons, hk]
      cases f (h x) with
      | error e => rfl
      | ok y => cases xs.mapM f <;> rfl
    | succ i =>
      rw [List.modify_succ_cons, List.modify_succ_cons, List.mapM_cons, List.mapM_cons, ih]
      cases f x with
      | error e => rfl
      | ok y => cases (xs.modify i h).mapM f <;> rfl

end FacetedSearch
