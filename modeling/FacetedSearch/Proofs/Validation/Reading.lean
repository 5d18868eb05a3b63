import FacetedSearch.Failure
import FacetedSearch.Proofs.Outcome
import FacetedSearch.Validation.Scalar

/-!
# What was read

A reading that is put together succeeds exactly when all its parts do, and what it gives is put
together from what they give.

* `Checked.seq_eq_ok_iff`, `Checked.map_eq_ok_iff` — two readings beside one another.
* `Checked.items_eq_ok_iff`, `Checked.members_eq_ok_iff` — every item of a list, every member of an
  object.
* `Checked.defaulted_eq_ok_iff`, `Checked.aliased_eq_ok_iff` — a member that may be absent.
* `Checked.tagged_eq`, `Checked.of_tagged_eq_ok` — one of several values, told apart by a tag.
* `Checked.list_eq_ok_self`, `Checked.dictionary_eq_ok_self` — what was written item by item, or
  member by member, is read back as it was.
* `Checked.Blames` — one of the causes for which a reading is refused.
* `Checked.judged` — a reading of which the causes of its refusal are known.
-/

set_option autoImplicit false

namespace FacetedSearch.Checked

variable {α β : Type}

theorem map_eq_ok_iff {f : α → β} {x : Checked α} {y : β} :
    f <$> x = .ok y ↔ ∃ a, x = .ok a ∧ f a = y := by
  cases x with
  | ok a => exact ⟨fun h => ⟨a, rfl, by cases h; rfl⟩, fun ⟨_, h, hy⟩ => by cases h; rw [← hy]; rfl⟩
  | refused causes => exact ⟨nofun, nofun⟩

theorem seq_eq_ok_iff {f : Checked (α → β)} {x : Checked α} {y : β} :
    f <*> x = .ok y ↔ ∃ g a, f = .ok g ∧ x = .ok a ∧ g a = y := by
  cases f with
  | ok g =>
    cases x with
    | ok a =>
      refine ⟨fun h => ⟨g, a, rfl, rfl, by cases h; rfl⟩, ?_⟩
      rintro ⟨_, _, hg, ha, rfl⟩
      cases hg
      cases ha
      rfl
    | refused causes => exact ⟨nofun, nofun⟩
  | refused causes => cases x <;> exact ⟨nofun, nofun⟩

theorem under_eq_ok_iff {item : Validation.PathItem} {x : Checked α} {y : α} :
    x.under item = .ok y ↔ x = .ok y := by
  cases x <;> simp [under]

theorem orFail_eq_ok_iff {x : Checked α} {y : α} : x.orFail = .ok y ↔ x = .ok y := by
  cases x <;> simp [orFail]

/-- A member that may be absent is read when it is there. -/
theorem defaulted_eq_ok_iff {ms : Members} {name : String} {check : Json → Checked α}
    {absent y : α} :
    defaulted ms name check absent = .ok y ↔
      ms.lookup name = none ∧ y = absent ∨ ∃ x, ms.lookup name = some x ∧ check x = .ok y := by
  unfold defaulted
  cases ms.lookup name with
  | none => simp [eq_comm]
  | some x => simp [under_eq_ok_iff]

theorem defaulted_anything {ms : Members} {name : String} {absent y : Json} :
    defaulted ms name anything absent = .ok y ↔ y = (ms.lookup name).getD absent := by
  rw [defaulted_eq_ok_iff]
  cases ms.lookup name <;> simp [anything, eq_comm]

/-- Of two names for a member the second one only counts when there is nothing under the first. -/
theorem aliased_eq_ok_iff {ms : Members} {name alternative : String} {check : Json → Checked α}
    {absent y : α} :
    aliased ms name alternative check absent = .ok y ↔
      (∃ x, ms.lookup name = some x ∧ check x = .ok y) ∨
        ms.lookup name = none ∧ defaulted ms alternative check absent = .ok y := by
  unfold aliased
  cases ms.lookup name with
  | none => simp
  | some x => simp [under_eq_ok_iff]

/-- A list is read item by item. -/
theorem items_eq_ok_iff {check : Json → Checked α} {xs : List Json} {ys : List α} :
    ∀ {position : Nat},
      items check position xs = .ok ys ↔ List.Forall₂ (fun x y => check x = .ok y) xs ys := by
  induction xs generalizing ys with
  | nil =>
    intro position
    rw [List.forall₂_nil_left_iff, items, ok.injEq, eq_comm]
  | cons x xs ih =>
    intro position
    show (List.cons <$> (check x).under (.index position)) <*> items check (position + 1) xs = _ ↔ _
    rw [seq_eq_ok_iff, List.forall₂_cons_left_iff]
    simp only [map_eq_ok_iff, under_eq_ok_iff, ih]
    constructor
    · rintro ⟨_, zs, ⟨y, hy, rfl⟩, hzs, rfl⟩
      exact ⟨y, zs, hy, hzs, rfl⟩
    · rintro ⟨y, zs, hy, hzs, rfl⟩
      exact ⟨_, zs, ⟨y, hy, rfl⟩, hzs, rfl⟩

/-- An object is read member by member. -/
theorem members_eq_ok_iff {check : Json → Checked α} {ms : Members} {ns : List (String × α)} :
    members check ms = .ok ns ↔
      List.Forall₂ (fun m n => m.1 = n.1 ∧ check m.2 = .ok n.2) ms ns := by
  induction ms generalizing ns with
  | nil => rw [List.forall₂_nil_left_iff, members, ok.injEq, eq_comm]
  | cons m ms ih =>
    obtain ⟨key, x⟩ := m
    show ((fun y rest => (key, y) :: rest) <$> (check x).under (.key key)) <*> members check ms = _
      ↔ _
    rw [seq_eq_ok_iff, List.forall₂_cons_left_iff]
    simp only [map_eq_ok_iff, under_eq_ok_iff, ih]
    constructor
    · rintro ⟨_, rest, ⟨y, hy, rfl⟩, hrest, rfl⟩
      exact ⟨(key, y), rest, ⟨rfl, hy⟩, hrest, rfl⟩
    · rintro ⟨⟨_, y⟩, rest, ⟨rfl, hy⟩, hrest, rfl⟩
      exact ⟨_, rest, ⟨y, hy, rfl⟩, hrest, rfl⟩

theorem string_eq_ok_iff {x : Json} {s : String} : string x = .ok s ↔ x = .str s := by
  cases x <;> simp [string, refuse]

theorem record_eq_ok_iff {x : Json} {ms : Members} : record x = .ok ms ↔ x = .obj ms := by
  cases x <;> simp [record, refuse]

theorem list_record_eq_ok_iff {x : Json} {xs : List Members} :
    list record x = .ok xs ↔ x = .arr (xs.map .obj) := by
  cases x with
  | arr items =>
    rw [list, items_eq_ok_iff, Json.arr.injEq, ← List.forall₂_eq_eq_eq, List.forall₂_map_right_iff]
    simp only [record_eq_ok_iff]
  | null | bool | int | float | str | obj => simp [list, refuse]

/-- A text under either of two names. -/
theorem aliased_string_eq_ok {ms : Members} {name alternative absent s : String}
    (h : aliased ms name alternative string absent = .ok s) :
    ((ms.lookup name).or (ms.lookup alternative)).getD (.str absent) = .str s := by
  rw [aliased_eq_ok_iff, defaulted_eq_ok_iff] at h
  rcases h with ⟨x, hx, hs⟩ | ⟨hnone, ⟨halternative, hs⟩ | ⟨x, hx, hs⟩⟩
  · rw [hx, string_eq_ok_iff.1 hs]
    rfl
  · rw [hnone, halternative, hs]
    rfl
  · rw [hnone, hx, string_eq_ok_iff.1 hs]
    rfl

theorem defaulted_records_eq_ok {ms : Members} {name : String} {xs : List Members}
    (h : defaulted ms name (list record) [] = .ok xs) :
    (ms.lookup name).getD (.arr []) = .arr (xs.map .obj) := by
  rcases defaulted_eq_ok_iff.1 h with ⟨hnone, hnil⟩ | ⟨x, hx, hlist⟩
  · rw [hnone, hnil]
    rfl
  · rw [hx, list_record_eq_ok_iff.1 hlist]
    rfl

/-- What was written item by item is read back item by item. -/
theorem list_eq_ok_map {check : Json → Checked β} {write : α → Json} {f : α → β} (xs : List α)
    (h : ∀ x ∈ xs, check (write x) = .ok (f x)) :
    list check (.arr (xs.map write)) = .ok (xs.map f) := by
  rw [list, items_eq_ok_iff, List.forall₂_map_left_iff, List.forall₂_map_right_iff,
    List.forall₂_same]
  exact h

/-- What was written item by item is read back as it was. -/
theorem list_eq_ok_self {check : Json → Checked α} {write : α → Json} (xs : List α)
    (h : ∀ x ∈ xs, check (write x) = .ok x) : list check (.arr (xs.map write)) = .ok xs := by
  have hmap := list_eq_ok_map xs h
  rwa [List.map_id'] at hmap

/-- What was written member by member is read back as it was. -/
theorem dictionary_eq_ok_self {check : Json → Checked α} (write : α → Json)
    (ms : List (String × α)) (h : ∀ m ∈ ms, check (write m.2) = .ok m.2) :
    dictionary check (.obj (ms.map fun (k, x) => (k, write x))) = .ok ms := by
  rw [dictionary, members_eq_ok_iff, List.forall₂_map_left_iff, List.forall₂_same]
  exact fun m hm => ⟨rfl, h m hm⟩

/-- Every item of a list that was read was read from something. -/
theorem of_list_eq_ok {check : Json → Checked α} {x : Json} {ys : List α}
    (h : list check x = .ok ys) : ∀ y ∈ ys, ∃ z, check z = .ok y := by
  cases x with
  | arr xs =>
    intro y hy
    rw [list, items_eq_ok_iff] at h
    obtain ⟨z, -, hz⟩ := exists_of_mem_of_forall₂ h hy
    exact ⟨z, hz⟩
  | null | bool | int | float | str | obj => cases h

/-- Every member of a dictionary that was read was read from something. -/
theorem of_dictionary_eq_ok {check : Json → Checked α} {x : Json} {ms : List (String × α)}
    (h : dictionary check x = .ok ms) : ∀ m ∈ ms, ∃ z, check z = .ok m.2 := by
  cases x with
  | obj ns =>
    intro m hm
    rw [dictionary, members_eq_ok_iff] at h
    obtain ⟨n, -, -, hn⟩ := exists_of_mem_of_forall₂ h hm
    exact ⟨n.2, hn⟩
  | null | bool | int | float | str | arr => cases h

/-- A value that is tagged with a known word is read as that word says. -/
theorem tagged_eq {tagName tag : String} {choose : String → Option (Members → Checked α)}
    {check : Members → Checked α} {ms : Members} (htag : ms.lookup tagName = some (.str tag))
    (hcheck : choose tag = some check) :
    tagged tagName choose (.obj ms) = (check ms).under (.key tag) := by
  simp only [tagged, htag, hcheck]

/-- What is read by its tag has one that is known. -/
theorem of_tagged_eq_ok {tagName : String} {choose : String → Option (Members → Checked α)}
    {ms : Members} {x : α} (h : tagged tagName choose (.obj ms) = .ok x) :
    ∃ tag check, ms.lookup tagName = some (.str tag) ∧ choose tag = some check ∧
      check ms = .ok x := by
  unfold tagged at h
  dsimp only at h
  cases htag : ms.lookup tagName with
  | none =>
    rw [htag] at h
    cases h
  | some value =>
    rw [htag] at h
    cases value with
    | str tag =>
      dsimp only at h
      cases hchoose : choose tag with
      | none =>
        rw [hchoose] at h
        cases h
      | some check =>
        rw [hchoose] at h
        exact ⟨tag, check, rfl, hchoose, under_eq_ok_iff.1 h⟩
    | null | bool | int | float | arr | obj => cases h

theorem count_eq_ok_iff {x : Json} {n : Int} : count x = .ok n ↔ integer x = .ok n ∧ 0 ≤ n := by
  unfold count andThen
  cases integer x with
  | ok m =>
    dsimp only
    by_cases hm : 0 ≤ m
    · rw [if_pos hm]
      exact ⟨fun h => by cases h; exact ⟨rfl, hm⟩, fun h => h.1⟩
    · rw [if_neg hm]
      exact ⟨nofun, fun ⟨h, hn⟩ => by cases h; exact absurd hn hm⟩
  | refused causes => simp

/-! ## Why a reading is refused -/

/-- A reading is refused, and this is one of the causes. -/
def Blames (x : Checked α) (c : Validation.Cause) : Prop :=
  ∃ causes, x = .refused causes ∧ c ∈ causes

section

variable {x : Checked α} {c : Validation.Cause}

theorem Blames.map (h : x.Blames c) (f : α → β) : (f <$> x).Blames c := by
  obtain ⟨causes, rfl, hc⟩ := h
  exact ⟨causes, rfl, hc⟩

theorem Blames.seq_left {f : Checked (α → β)} (h : f.Blames c) (x : Checked α) :
    (f <*> x).Blames c := by
  obtain ⟨causes, rfl, hc⟩ := h
  cases x with
  | ok => exact ⟨causes, rfl, hc⟩
  | refused more => exact ⟨causes ++ more, rfl, List.mem_append_left more hc⟩

theorem Blames.seq_right (h : x.Blames c) (f : Checked (α → β)) : (f <*> x).Blames c := by
  obtain ⟨causes, rfl, hc⟩ := h
  cases f with
  | ok => exact ⟨causes, rfl, hc⟩
  | refused earlier => exact ⟨earlier ++ causes, rfl, List.mem_append_right earlier hc⟩

theorem Blames.orFail (h : x.Blames c) :
    ∃ causes, x.orFail = .error (.invalid causes) ∧ c ∈ causes :=
  h.imp fun _ => And.imp_left fun hx => congrArg Checked.orFail hx

end

/-- The value, if nothing speaks against it. -/
def judged (causes : List Validation.Cause) (x : α) : Checked α :=
  if causes = [] then ok x else refused causes

theorem judged_eq_ok_iff {causes : List Validation.Cause} {x y : α} :
    judged causes x = .ok y ↔ causes = [] ∧ x = y := by
  unfold judged
  split <;> simp_all

theorem judged_eq_refused_iff {causes more : List Validation.Cause} {x : α} :
    judged causes x = .refused more ↔ causes ≠ [] ∧ causes = more := by
  unfold judged
  split <;> simp_all

theorem map_judged (f : α → β) (causes : List Validation.Cause) (x : α) :
    f <$> judged causes x = judged causes (f x) := by
  unfold judged
  split <;> rfl

theorem under_judged (item : Validation.PathItem) (causes : List Validation.Cause) (x : α) :
    (judged causes x).under item =
      judged (causes.map fun c => { c with path := item :: c.path }) x := by
  cases causes <;> rfl

/-- What speaks against two readings speaks against both together, in order. -/
theorem seq_judged (f : α → β) (x : α) (causes more : List Validation.Cause) :
    judged causes f <*> judged more x = judged (causes ++ more) (f x) := by
  cases more with
  | nil =>
    rw [List.append_nil]
    cases causes <;> rfl
  | cons => cases causes <;> rfl

end FacetedSearch.Checked
