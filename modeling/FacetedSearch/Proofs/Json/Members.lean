import FacetedSearch.Json.Sameness

/-!
# Members of objects

What the operations on members do, seen through looking a name up.

* `Members.lookup_eq_none_iff`, `Members.lookup_of_mem`, `Members.lookup_map` — looking a name up.
* `Members.lookup_insert`, `Members.has_insert`, `Members.lookup_erase`, `Members.mem_erase_iff` —
  after a change.
* `Members.nodup_insert`, `Members.nodup_erase` — names that are apart stay apart.
* `Members.lookup_foldl_insert` — after many of them.
* `Members.ofList_map_const` — names that all have one value are kept once, where they first occur.
-/

set_option autoImplicit false

namespace FacetedSearch.Members

variable {α β : Type}

/-- A name is looked up in vain when no member has it. -/
theorem lookup_eq_none_iff {ms : List (String × α)} {key : String} :
    ms.lookup key = none ↔ ∀ m ∈ ms, m.1 ≠ key := by
  rw [List.lookup_eq_none_iff]
  constructor
  · intro h m hm hk
    simpa [hk] using h m hm
  · intro h m hm
    simpa using Ne.symm (h m hm)

theorem lookup_map (f : α → β) (ms : List (String × α)) (key : String) :
    (ms.map fun (k, x) => (k, f x)).lookup key = (ms.lookup key).map f := by
  induction ms with
  | nil => rfl
  | cons m ms ih =>
    obtain ⟨k, x⟩ := m
    rw [List.map_cons, List.lookup_cons, List.lookup_cons, ih]
    cases key == k <;> rfl

theorem lookup_cons_ite (k key : String) (x : α) (ms : List (String × α)) :
    ((k, x) :: ms).lookup key = if key = k then some x else ms.lookup key := by
  rw [List.lookup_cons]
  by_cases h : key = k
  · simp [h]
  · rw [beq_false_of_ne h, if_neg h]

theorem lookup_singleton (m : String × α) (key : String) :
    [m].lookup key = if key = m.1 then some m.2 else none := lookup_cons_ite m.1 key m.2 []

theorem has_iff {ms : List (String × α)} {key : String} : has key ms ↔ ∃ m ∈ ms, m.1 = key := by
  have h : ¬ ms.lookup key = none ↔ _ := not_congr lookup_eq_none_iff
  rw [has, Option.isSome_iff_ne_none, ne_eq, h]
  simp

/-- What is looked up is there. -/
theorem mem_of_lookup {ms : List (String × α)} {key : String} {x : α}
    (h : ms.lookup key = some x) : (key, x) ∈ ms := by
  obtain ⟨before, after, rfl, -⟩ := List.lookup_eq_some_iff.1 h
  simp

/-- Where no name occurs twice, what is there is looked up. -/
theorem lookup_of_mem {ms : List (String × α)} (hms : (ms.map Prod.fst).Nodup) {key : String}
    {x : α} (h : (key, x) ∈ ms) : ms.lookup key = some x := by
  obtain ⟨before, after, rfl⟩ := List.append_of_mem h
  refine List.lookup_eq_some_iff.2 ⟨before, after, rfl, fun m hm => ?_⟩
  rw [List.map_append, List.nodup_append] at hms
  have hne := hms.2.2 m.1 (List.mem_map_of_mem hm) key (by simp)
  simpa using Ne.symm hne

/-! ## Inserting and erasing -/

theorem lookup_insert (key name : String) (x : α) (ms : List (String × α)) :
    (insert key x ms).lookup name = if name = key then some x else ms.lookup name := by
  induction ms with
  | nil => rw [insert, lookup_cons_ite]
  | cons m ms ih =>
    obtain ⟨k, y⟩ := m
    by_cases hk : k = key
    · subst hk
      rw [insert, if_pos rfl, lookup_cons_ite, lookup_cons_ite]
      split <;> rfl
    · rw [insert, if_neg hk, lookup_cons_ite, lookup_cons_ite, ih]
      by_cases hname : name = k
      · rw [if_pos hname, if_pos hname, if_neg (hname ▸ hk)]
      · rw [if_neg hname, if_neg hname]

/-- What is there after inserting was inserted, or was there before. -/
theorem mem_of_mem_insert {key : String} {x : α} {ms : List (String × α)} {m : String × α}
    (h : m ∈ insert key x ms) : m = (key, x) ∨ m ∈ ms := by
  induction ms with
  | nil => exact .inl (List.mem_singleton.1 h)
  | cons n ms ih =>
    obtain ⟨k, y⟩ := n
    by_cases hk : k = key
    · subst hk
      rw [insert, if_pos rfl] at h
      exact (List.mem_cons.1 h).imp_right (List.mem_cons_of_mem _)
    · rw [insert, if_neg hk] at h
      rcases List.mem_cons.1 h with rfl | h
      · exact .inr List.mem_cons_self
      · exact (ih h).imp_right (List.mem_cons_of_mem _)

theorem has_insert {key name : String} {x : α} {ms : List (String × α)} :
    has name (insert key x ms) ↔ name = key ∨ has name ms := by
  rw [has, lookup_insert]
  by_cases h : name = key <;> simp [h, has]

/-- Inserting under a new name appends. -/
theorem insert_of_not_has {key : String} {ms : List (String × α)} (h : ¬ has key ms) (x : α) :
    insert key x ms = ms ++ [(key, x)] := by
  induction ms with
  | nil => rfl
  | cons m ms ih =>
    have hm : m.1 ≠ key := fun hk => h (has_iff.2 ⟨m, List.mem_cons_self, hk⟩)
    have hms : ¬ has key ms := by
      intro hhas
      obtain ⟨n, hn, hk⟩ := has_iff.1 hhas
      exact h (has_iff.2 ⟨n, List.mem_cons_of_mem m hn, hk⟩)
    rw [insert, if_neg hm, ih hms]
    rfl

/-- Inserting under a name keeps the names, and adds it at the end when it is new. -/
theorem map_fst_insert (key : String) (x : α) (ms : List (String × α)) :
    (insert key x ms).map Prod.fst =
      ms.map Prod.fst ++ if has key ms then [] else [key] := by
  induction ms with
  | nil => rfl
  | cons m ms ih =>
    obtain ⟨k, y⟩ := m
    by_cases hk : k = key
    · subst hk
      simp [insert, has]
    · have hhas : has key ((k, y) :: ms) = has key ms := by
        rw [has, has, lookup_cons_ite, if_neg (Ne.symm hk)]
      rw [insert, if_neg hk, List.map_cons, ih, hhas]
      rfl

/-- Inserting keeps names apart. -/
theorem nodup_insert {ms : List (String × α)} (h : (ms.map Prod.fst).Nodup) (key : String) (x : α) :
    ((insert key x ms).map Prod.fst).Nodup := by
  rw [map_fst_insert]
  by_cases hkey : has key ms
  · simpa [hkey] using h
  · rw [if_neg hkey, List.nodup_append]
    refine ⟨h, List.pairwise_singleton _ _, ?_⟩
    intro name hname other hother
    obtain ⟨m, hm, rfl⟩ := List.mem_map.1 hname
    cases List.mem_singleton.1 hother
    exact fun hsame => hkey (has_iff.2 ⟨m, hm, hsame⟩)

theorem nodup_erase {ms : List (String × α)} (h : (ms.map Prod.fst).Nodup) (key : String) :
    ((erase key ms).map Prod.fst).Nodup := h.sublist (List.filter_sublist.map Prod.fst)

theorem mem_erase_iff {key : String} {ms : List (String × α)} {m : String × α} :
    m ∈ erase key ms ↔ m ∈ ms ∧ m.1 ≠ key := by
  simp [erase]

/-- Where nothing has the name there is nothing to erase. -/
theorem erase_eq_self {key : String} {ms : List (String × α)} (h : ∀ m ∈ ms, m.1 ≠ key) :
    erase key ms = ms := List.filter_eq_self.2 fun m hm => bne_iff_ne.2 (h m hm)

theorem lookup_erase (key name : String) (ms : List (String × α)) :
    (erase key ms).lookup name = if name = key then none else ms.lookup name := by
  induction ms with
  | nil => simp [erase]
  | cons m ms ih =>
    obtain ⟨k, y⟩ := m
    unfold erase at ih ⊢
    by_cases hk : k = key
    · subst hk
      rw [List.filter_cons_of_neg (by simp), ih, lookup_cons_ite]
      split <;> rfl
    · rw [List.filter_cons_of_pos (by simpa using hk), lookup_cons_ite, lookup_cons_ite, ih]
      by_cases hname : name = k
      · rw [if_pos hname, if_pos hname, if_neg (hname ▸ hk)]
      · rw [if_neg hname, if_neg hname]

/-- Of what is inserted under a name one after another, the last counts. -/
theorem lookup_foldl_insert {ι : Type} (key : ι → String) (value : ι → α) (xs : List ι)
    (ms : List (String × α)) (name : String) :
    (xs.foldl (fun ms x => insert (key x) (value x) ms) ms).lookup name =
      ((xs.filter fun x => key x = name).getLast?.map value).or (ms.lookup name) := by
  induction xs generalizing ms with
  | nil => rfl
  | cons x xs ih =>
    rw [List.foldl_cons, ih, lookup_insert]
    by_cases h : key x = name
    · rw [if_pos h.symm, List.filter_cons_of_pos (by simpa using h), List.getLast?_cons]
      cases (xs.filter fun x => key x = name).getLast? <;> rfl
    · rw [if_neg fun h' => h h'.symm, List.filter_cons_of_neg (by simpa using h)]

/-- Where no key occurs twice, the last value of a key is its only one. -/
theorem getLast?_filter_of_nodup {κ : Type} [DecidableEq κ] {xs : List (κ × α)}
    (h : (xs.map Prod.fst).Nodup) (key : κ) :
    (xs.filter fun x => x.1 = key).getLast?.map Prod.snd = xs.lookup key := by
  induction xs with
  | nil => rfl
  | cons x xs ih =>
    obtain ⟨k, y⟩ := x
    obtain ⟨hk, hxs⟩ := List.nodup_cons.1 h
    rw [List.lookup_cons]
    by_cases hkey : k = key
    · subst hkey
      have hnone : (xs.filter fun x => x.1 = k) = [] :=
        List.filter_eq_nil_iff.2 fun x hx hxk =>
          hk (List.mem_map.2 ⟨x, hx, of_decide_eq_true hxk⟩)
      simp [hnone]
    · have hkey' : (key == k) = false := beq_false_of_ne fun h' => hkey h'.symm
      rw [List.filter_cons_of_neg (by simpa using hkey), ih hxs, hkey']

/-! ## Names with one value -/

theorem lookup_map_const (c : α) (names : List String) (key : String) :
    (names.map fun name => (name, c)).lookup key = if key ∈ names then some c else none := by
  induction names with
  | nil => rfl
  | cons name names ih =>
    rw [List.map_cons, List.lookup_cons, ih]
    by_cases hk : key = name
    · simp [hk]
    · simp [hk, beq_false_of_ne hk]

/-- Giving a name the value that every name has only adds it when it is new. -/
theorem insert_map_const (c : α) (name : String) (names : List String) :
    insert name c (names.map fun x => (x, c))
      = (if name ∈ names then names else names ++ [name]).map fun x => (x, c) := by
  induction names with
  | nil => rfl
  | cons x names ih =>
    by_cases hx : x = name
    · subst hx
      simp [insert]
    · have hx' : name ≠ x := fun h => hx h.symm
      simp only [List.map_cons, insert, if_neg hx, ih, List.mem_cons, hx', false_or]
      split <;> rfl

/-- Names that are added one by one when they are new. -/
theorem foldl_new (names : List String) :
    ∀ seen : List String,
      names.foldl (fun seen name => if name ∈ seen then seen else seen ++ [name]) seen
        = seen ++ (names.filter fun x => x ∉ seen).eraseDups := by
  induction names with
  | nil => intro seen; simp
  | cons name names ih =>
    intro seen
    rw [List.foldl_cons, ih]
    by_cases hname : name ∈ seen
    · simp [hname]
    · rw [if_neg hname, List.filter_cons_of_pos (by simpa using hname), List.eraseDups_cons,
        List.filter_filter]
      have hfilter : (fun x => decide (x ∉ seen ++ [name]))
          = fun x => !(x == name) && decide (x ∉ seen) := by
        funext x
        by_cases hx : x = name <;> simp [hx]
      rw [hfilter, List.append_assoc, List.singleton_append]

theorem foldl_new_nil (names : List String) :
    names.foldl (fun seen name => if name ∈ seen then seen else seen ++ [name]) []
      = names.eraseDups := by
  have hnew : (names.filter fun x => x ∉ ([] : List String)) = names :=
    List.filter_eq_self.2 (by simp)
  rw [foldl_new, hnew, List.nil_append]

/-- Names that all have one value are kept once, where they first occur. -/
theorem ofList_map_const (c : α) (names : List String) :
    ofList (names.map fun x => (x, c)) = names.eraseDups.map fun x => (x, c) := by
  rw [ofList, List.foldl_map, ← foldl_new_nil]
  show names.foldl _ ([].map fun x => (x, c)) = _
  apply List.foldl_hom (fun seen : List String => seen.map fun x => (x, c))
  exact fun seen name => insert_map_const c name seen

/-- Of names that are equal the first one is named. -/
theorem distinct_map_str (names : List String) :
    Json.distinct (names.map Json.str) = names.eraseDups.map Json.str := by
  rw [Json.distinct, List.foldl_map, ← foldl_new_nil]
  show names.foldl _ ([].map Json.str) = _
  apply List.foldl_hom (List.map Json.str)
  intro seen name
  have hseen : (seen.map Json.str).any (Json.same (.str name)) = decide (name ∈ seen) := by
    induction seen with
    | nil => rfl
    | cons x seen ih =>
      rw [List.map_cons, List.any_cons, ih, Json.same]
      by_cases hx : name = x <;> simp [hx]
  rw [hseen]
  by_cases hname : name ∈ seen <;> simp [hname]

/-- Names that are kept once are kept once. -/
theorem eraseDups_eraseDups : ∀ names : List String, names.eraseDups.eraseDups = names.eraseDups
  | [] => rfl
  | name :: names => by
    have hrest := eraseDups_eraseDups (names.filter fun x => !(x == name))
    have hnot : ((names.filter fun x => !(x == name)).eraseDups.filter fun x => !(x == name))
        = (names.filter fun x => !(x == name)).eraseDups := by
      rw [List.filter_eq_self]
      intro x hx
      exact (List.mem_filter.1 (List.mem_eraseDups.1 hx)).2
    rw [List.eraseDups_cons, List.eraseDups_cons, hnot, hrest]
termination_by names => names.length
decreasing_by
  have := List.length_filter_le (fun x => !(x == name)) names
  simp
  omega

end FacetedSearch.Members
