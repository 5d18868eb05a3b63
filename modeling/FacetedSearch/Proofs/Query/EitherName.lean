import FacetedSearch.Proofs.Query.SecondNames
import FacetedSearch.Proofs.Query.Update

/-!
# Queries by either name

In a query and in each of its filters it makes no difference which of two names is used.  What is
refused is refused at the same places, told by the names that were used.

* `Query.sameOutcome_of_alike` — queries that are let in alike and read alike part by part.
* `Query.read_of_filtersFollow` — queries that differ in the names that their filters use.
* `Query.Choice` — some of the members with two names, in a query and in each of its filters.
* `Query.read_by_either_name` — queries that differ in the names that they and their filters use.
-/

set_option autoImplicit false

namespace FacetedSearch

open Checked Validation

namespace Part

/-- Every part is read alike from an object that follows another one. -/
theorem readAmong_of_follows {place : Path → Path} {ms ns : Members}
    (h : Alias.Follows place ms ns) {size : Int} {shape : Rule} (part : Part) :
    Alike place (part.readAmong size shape ms) (part.readAmong size shape ns) := by
  cases part with
  | clauses => exact h.either .clauses _ _
  | start => exact h.either .start _ _
  | text | ids | boosts | filters | aggregations | selections | facets | sort | highlights | size
  | mode => exact h.defaulted rfl

/-- A part whose members stay as they are is read alike. -/
theorem readAmong_alike {place : Path → Path} {ms ns : Members} {size : Int} {shape : Rule}
    {part : Part} (h : ∀ s ∈ part.names, ns.lookup s = ms.lookup s)
    (hplace : ∀ s ∈ part.names, ∀ path, place (.key s :: path) = .key s :: path) :
    Alike place (part.readAmong size shape ms) (part.readAmong size shape ns) := by
  unfold names at h hplace
  unfold readAmong
  cases hsecond : part.secondName? with
  | none => exact .defaulted (h _ List.mem_cons_self) (hplace _ List.mem_cons_self)
  | some other =>
    have hmem : other ∈ part.name :: part.secondName?.toList := by simp [hsecond]
    exact .aliased (h _ List.mem_cons_self) (h _ hmem) (hplace _ List.mem_cons_self)
      (hplace _ hmem)

end Part

/-- An object with its members changed; values of other kinds stay as they are. -/
def Json.mapMembers (change : Members → Members) : Json → Json
  | .obj ms => .obj (change ms)
  | x => x

/-- The value of a member changed. -/
def Members.modify (key : String) (change : Json → Json) (ms : Members) : Members :=
  ms.map fun m => if m.1 = key then (m.1, change m.2) else m

theorem Members.lookup_modify (key : String) (change : Json → Json) (ms : Members) (s : String) :
    (modify key change ms).lookup s =
      if s = key then (ms.lookup s).map change else ms.lookup s := by
  induction ms with
  | nil => simp [modify]
  | cons m ms ih =>
    obtain ⟨k, x⟩ := m
    have hcons : modify key change ((k, x) :: ms) =
        (k, if k = key then change x else x) :: modify key change ms := by
      unfold modify
      rw [List.map_cons]
      split <;> rfl
    rw [hcons, lookup_cons_ite, lookup_cons_ite, ih]
    by_cases hs : s = k
    · rw [if_pos hs, if_pos hs, hs]
      split <;> rfl
    · rw [if_neg hs, if_neg hs]

namespace Query

/-- A query is read alike if every part of it is. -/
theorem readMembers_alike {place : Path → Path} {size : Int} {shape : Rule} {ms ns : Members}
    (h : ∀ part : Part, Alike place (part.readAmong size shape ms) (part.readAmong size shape ns)) :
    Alike place (readMembers size shape ms) (readMembers size shape ns) := by
  rw [readMembers_eq, readMembers_eq]
  exact ((((((((((((((h .text).map _).seq (h .ids)).seq (h .boosts)).seq (h .clauses)).seq
    (h .filters)).seq (h .aggregations)).seq (h .selections)).seq (h .facets)).seq (h .sort)).seq
    (h .highlights)).seq (h .size)).seq (h .start)).seq (h .mode))

/-- Queries have the same outcome if their filters are let in alike and every part is read alike. -/
theorem sameOutcome_of_alike {place : Path → Path} {size : Int} {shape : Rule} {ms ns : Members}
    (hkinds : checkFilters ns = checkFilters ms)
    (h : ∀ part : Part, Alike place (part.readAmong size shape ms) (part.readAmong size shape ns)) :
    SameOutcome place (read size shape (.obj ms)) (read size shape (.obj ns)) := by
  unfold read
  dsimp only
  rw [hkinds]
  cases hfilters : checkFilters ms with
  | ok => exact .of_alike (readMembers_alike h)
  | error failure =>
    refine .failed fun causes => ?_
    obtain ⟨_, rfl⟩ | ⟨_, rfl⟩ := of_checkFilters_eq_error hfilters
    · nofun
    · nofun

theorem read_of_follows {place : Path → Path} {size : Int} {shape : Rule} {ms ns : Members}
    (h : Alias.Follows place ms ns) :
    SameOutcome place (read size shape (.obj ms)) (read size shape (.obj ns)) :=
  sameOutcome_of_alike (checkFilters_congr (h.plain "filters" rfl)) (Part.readAmong_of_follows h)

/-! ### Filters in their places -/

/-- The items of a list, those that are objects with their members changed. -/
def changedItems (change : Nat → Members → Members) : Nat → List Json → List Json
  | _, [] => []
  | position, x :: xs => x.mapMembers (change position) :: changedItems change (position + 1) xs

/-- Filters with their members changed. -/
def changedFilters (change : Nat → Members → Members) : Json → Json
  | .arr xs => .arr (changedItems change 0 xs)
  | x => x

/-- The places in a query, those in filters told as `change` says. -/
def inFilters (change : Nat → Path → Path) : Path → Path :=
  belowMember "filters" (belowItems fun position => belowTag (change position))

/-- A query has the filter at that position. -/
def HasFilter (ms : Members) (position : Nat) (fs : Members) : Prop :=
  ∃ xs, ms.lookup "filters" = some (.arr xs) ∧ xs[position]? = some (.obj fs)

theorem HasFilter.unique {ms : Members} {position : Nat} {fs gs : Members}
    (h : HasFilter ms position fs) (h' : HasFilter ms position gs) : fs = gs := by
  obtain ⟨xs, hxs, hfs⟩ := h
  obtain ⟨ys, hys, hgs⟩ := h'
  rw [hxs] at hys
  cases hys
  rw [hfs] at hgs
  cases hgs
  rfl

section Changed

variable {change : Nat → Members → Members} {place : Nat → Path → Path} {position : Nat}
  {x : Json} {xs : List Json} {ms ns : Members} {size : Int} {shape : Rule}

/-- The objects among these items follow when they are changed. -/
def ItemsFollow (change : Nat → Members → Members) (place : Nat → Path → Path) (position : Nat)
    (xs : List Json) : Prop :=
  ∀ i fs, xs[i]? = some (.obj fs) →
    Alias.Follows (place (position + i)) fs (change (position + i) fs)

theorem ItemsFollow.head {fs : Members} (h : ItemsFollow change place position (.obj fs :: xs)) :
    Alias.Follows (place position) fs (change position fs) := h 0 fs rfl

theorem ItemsFollow.tail (h : ItemsFollow change place position (x :: xs)) :
    ItemsFollow change place (position + 1) xs := by
  intro i fs hi
  have hfollows := h (i + 1) fs hi
  rwa [Nat.add_comm i 1, ← Nat.add_assoc] at hfollows

theorem checkKinds_changedItems (h : ItemsFollow change place position xs) :
    checkKinds (changedItems change position xs) = checkKinds xs := by
  induction xs generalizing position with
  | nil => rfl
  | cons x xs ih =>
    cases x with
    | obj fs =>
      rw [changedItems, Json.mapMembers, checkKinds, checkKinds, Filter.tagOf_eq h.head, ih h.tail]
    | null | bool | int | float | str | arr => exact ih h.tail

/-- Filters are read alike one by one, each at its own position. -/
theorem items_changedItems (h : ItemsFollow change place position xs) :
    Alike (belowItems fun i => belowTag (place i)) (items readFilter position xs)
      (items readFilter position (changedItems change position xs)) := by
  induction xs generalizing position with
  | nil => exact .ok []
  | cons x xs ih =>
    refine .items_cons ?_ (fun _ => rfl) (ih h.tail)
    cases x with
    | obj fs =>
      refine .tagged (h.head.plain "type" rfl) rfl (fun _ _ => rfl) fun tag check hcheck => ?_
      obtain ⟨kind, -, rfl⟩ := Option.map_eq_some_iff.1 hcheck
      exact Filter.read_alike h.head kind
    | null | bool | int | float | str | arr => exact .refuse rfl

/-- The kinds of filters are told alike, and so is whether there is one that cannot be named. -/
theorem checkKindsIn_changedFilters (h : ∀ xs, x = .arr xs → ItemsFollow change place 0 xs) :
    checkKindsIn (changedFilters change x) = checkKindsIn x := by
  cases x with
  | arr xs =>
    rw [changedFilters, checkKindsIn_arr, checkKindsIn_arr]
    exact checkKinds_changedItems (h xs rfl)
  | null | bool | int | float | str | obj => rfl

theorem hasNamelessKind_changedFilters (h : ∀ xs, x = .arr xs → ItemsFollow change place 0 xs) :
    hasNamelessKind (changedFilters change x) = hasNamelessKind x := by
  unfold hasNamelessKind
  rw [checkKindsIn_changedFilters h]

theorem readFilters_changedFilters (h : ∀ xs, x = .arr xs → ItemsFollow change place 0 xs) :
    Alike (belowItems fun i => belowTag (place i)) (readFilters x)
      (readFilters (changedFilters change x)) := by
  unfold readFilters
  rw [hasNamelessKind_changedFilters h]
  split
  · exact .refuse rfl
  · cases x with
    | arr xs => exact items_changedItems (h xs rfl)
    | null | bool | int | float | str | obj => exact .refuse rfl

/-- Every filter of a query follows when it is changed. -/
def FiltersFollow (change : Nat → Members → Members) (place : Nat → Path → Path) (ms : Members) :
    Prop :=
  ∀ i fs, HasFilter ms i fs → Alias.Follows (place i) fs (change i fs)

theorem FiltersFollow.items (h : FiltersFollow change place ms)
    (hx : ms.lookup "filters" = some x) : ∀ xs, x = .arr xs → ItemsFollow change place 0 xs := by
  rintro xs rfl i fs hi
  rw [Nat.zero_add]
  exact h i fs ⟨xs, hx, hi⟩

theorem checkFilters_changed (h : FiltersFollow change place ms)
    (hfilters : ns.lookup "filters" = (ms.lookup "filters").map (changedFilters change)) :
    checkFilters ns = checkFilters ms := by
  unfold checkFilters
  rw [hfilters]
  cases hx : ms.lookup "filters" with
  | none => rfl
  | some x =>
    dsimp only [Option.map_some]
    rw [hasNamelessKind_changedFilters (h.items hx), checkKindsIn_changedFilters (h.items hx)]

theorem filters_changed (h : FiltersFollow change place ms)
    (hfilters : ns.lookup "filters" = (ms.lookup "filters").map (changedFilters change)) :
    Alike (inFilters place) (Part.filters.readAmong size shape ms)
      (Part.filters.readAmong size shape ns) := by
  show Alike _ (defaulted ms "filters" readFilters []) (defaulted ns "filters" readFilters [])
  unfold defaulted
  rw [hfilters]
  cases hx : ms.lookup "filters" with
  | none => exact .ok []
  | some x =>
    exact Alike.under (readFilters_changedFilters (h.items hx)) (belowMember_self "filters" _)

/-- A query has the same outcome when its filters are changed and follow. -/
theorem read_of_filtersFollow (h : FiltersFollow change place ms)
    (hothers : ∀ s, s ≠ "filters" → ns.lookup s = ms.lookup s)
    (hfilters : ns.lookup "filters" = (ms.lookup "filters").map (changedFilters change)) :
    SameOutcome (inFilters place) (read size shape (.obj ms)) (read size shape (.obj ns)) := by
  refine sameOutcome_of_alike (checkFilters_changed h hfilters) fun part => ?_
  by_cases hpart : part = .filters
  · subst hpart
    exact filters_changed h hfilters
  · have hne {s : String} (hs : s ∈ part.names) : s ≠ "filters" := fun heq =>
      hpart (Part.eq_of_mem_names hs (heq ▸ Part.filters.name_mem_names))
    exact Part.readAmong_alike (fun s hs => hothers s (hne hs))
      fun s hs => belowMember_of_ne (hne hs) _

end Changed

/-! ### Names in a query and in its filters -/

/-- Some of the members with two names, in a query and in each of its filters. -/
structure Choice where
  query : Alias → Bool
  filter : Nat → Alias → Bool

namespace Choice

/-- Of every chosen member this is true in the object that it is chosen in. -/
def Where (P : Alias → Members → Prop) (c : Choice) (ms : Members) : Prop :=
  (∀ a, c.query a = true → P a ms) ∧
    ∀ position a, c.filter position a = true → ∃ fs, HasFilter ms position fs ∧ P a fs

/-- A query that is changed at the chosen members, its filters as well as itself. -/
def changed (change : (Alias → Bool) → Members → Members) (c : Choice) (ms : Members) : Members :=
  Members.modify "filters" (changedFilters fun position => change (c.filter position))
    (change c.query ms)

/-- The places in a query, told as its change and the changes of its filters say. -/
def place (step : (Alias → Bool) → Path → Path) (c : Choice) : Path → Path :=
  inFilters (fun position => step (c.filter position)) ∘ step c.query

theorem place_id (c : Choice) : c.place (fun _ => id) = id := by
  funext path
  unfold place inFilters
  match path with
  | [] | .index _ :: _ => rfl
  | .key s :: path =>
    show PathItem.key s :: (if s = "filters" then _ else path) = .key s :: path
    split
    · match path with
      | [] | .key _ :: _ | .index _ :: [] | .index _ :: .index _ :: _ | .index _ :: .key _ :: _ =>
        rfl
    · rfl

variable {change : (Alias → Bool) → Members → Members} {step : (Alias → Bool) → Path → Path}
  {P : Alias → Members → Prop}

/-- A change that single objects follow is one that a query with filters follows. -/
theorem read_changed
    (hfollows : ∀ {chosen : Alias → Bool} {ms : Members}, (∀ a, chosen a = true → P a ms) →
      Alias.Follows (step chosen) ms (change chosen ms))
    {c : Choice} {ms : Members} (h : c.Where P ms) (size : Int) (shape : Rule) :
    SameOutcome (c.place step) (read size shape (.obj ms))
      (read size shape (.obj (c.changed change ms))) := by
  -- first the names in the query itself, which leaves its filters as they are, and then theirs
  have hquery := hfollows h.1
  have hsame := hquery.plain "filters" rfl
  have hfilters : FiltersFollow (fun position => change (c.filter position))
      (fun position => step (c.filter position)) (change c.query ms) := by
    rintro i fs ⟨xs, hxs, hget⟩
    rw [hsame] at hxs
    refine hfollows fun a ha => ?_
    obtain ⟨gs, hgs, hP⟩ := h.2 i a ha
    rwa [HasFilter.unique ⟨xs, hxs, hget⟩ hgs]
  refine (read_of_follows hquery).trans (read_of_filtersFollow hfilters (fun s hs => ?_) ?_)
  · rw [changed, Members.lookup_modify, if_neg hs]
  · rw [changed, Members.lookup_modify, if_pos rfl]

end Choice

end Query

/-! ## Partial updates -/

namespace Alias

/-- In a partial update both names of a part stand for its name on the wire. -/
theorem wireName_eq_iff {part : Part} {s k : String} {a : Alias} (hs : s ∈ part.names)
    (hk : k = a.name ∨ k = a.secondName) :
    Attribute.wireName k = s ↔ Attribute.wireName a.name = s := by
  obtain rfl | rfl := hk
  · rfl
  · cases a with
    | start | clauses => rfl
    | negation =>
      -- neither name of this one is the name of a part
      have hpart := Part.ofName?_eq_some_iff.2 hs
      constructor
      · rintro rfl
        cases hpart
      · rintro rfl
        cases hpart

theorem wireName_exchange_iff {part : Part} {s : String} (hs : s ∈ part.names)
    (chosen : Alias → Bool) (k : String) :
    Attribute.wireName (exchange chosen k) = s ↔ Attribute.wireName k = s := by
  cases hk : ofName? k with
  | none => rw [exchange_of_other hk]
  | some a =>
    rw [wireName_eq_iff hs (eq_or_eq_of_exchange hk chosen), wireName_eq_iff hs (eq_of_ofName? hk)]

end Alias

/-- In a partial update names can be exchanged at will: where both are given, the last counts. -/
theorem LiveQuery.update_exchanged (s : Settings) (l : LiveQuery) (chosen : Alias → Bool)
    (us : Members) : l.update s (.obj (Alias.exchanged chosen us)) = l.update s (.obj us) := by
  have hread : Query.read s.defaultSize .modelType (.obj (l.merge (Alias.exchanged chosen us))) =
      Query.read s.defaultSize .modelType (.obj (l.merge us)) := by
    refine Query.read_congr fun part name hname => ?_
    unfold merge Alias.exchanged
    rw [List.foldl_map, Members.lookup_foldl_insert, Members.lookup_foldl_insert]
    simp only [Alias.wireName_exchange_iff hname]
  show (Query.read _ _ _ >>= _) = (Query.read _ _ _ >>= _)
  rw [hread]

/-! ## Either name -/

namespace Query

/-- **It makes no difference by which of two names members are given**, in a query and in any of its
filters.  With the names exchanged of which an object has one, the same query is read, or the same
rules are broken at the same places, told by the other names, or the query is turned away for the
same reason.  Where an object has both names, nothing changes when the second one is left out. -/
theorem read_by_either_name (size : Int) (shape : Rule) (c : Choice) (x : Json) :
    ((∀ ms, x = .obj ms → c.Where Alias.Once ms) →
      SameOutcome (c.place Alias.counterpart) (read size shape x)
        (read size shape (x.mapMembers (c.changed Alias.exchanged)))) ∧
    ((∀ ms, x = .obj ms → c.Where Alias.Twice ms) →
      SameOutcome id (read size shape x)
        (read size shape (x.mapMembers (c.changed Alias.shed)))) ∧
    ∀ (s : Settings) (l : LiveQuery) (chosen : Alias → Bool) (us : Members),
      l.update s (.obj (Alias.exchanged chosen us)) = l.update s (.obj us) := by
  refine ⟨fun h => ?_, fun h => ?_, LiveQuery.update_exchanged⟩
  · cases x with
    | obj ms => exact Choice.read_changed Alias.follows_exchanged (h ms rfl) size shape
    | null | bool | int | float | str | arr => exact .refused (.cons ⟨rfl, rfl⟩ .nil)
  · cases x with
    | obj ms =>
      have hsame : SameOutcome (c.place fun _ => id) (read size shape (.obj ms))
          (read size shape (.obj (c.changed Alias.shed ms))) :=
        Choice.read_changed Alias.follows_shed (h ms rfl) size shape
      rwa [Choice.place_id] at hsame
    | null | bool | int | float | str | arr => exact .refused (.cons ⟨rfl, rfl⟩ .nil)

/-- A page and a filter of one query use either name, and another filter uses both. -/
theorem read_by_either_name_mixed :
    SameOutcome
      (Choice.place Alias.counterpart
        ⟨fun a => a = .start, fun position a => position = 0 && a = .negation⟩)
      (read 10 .modelType (.obj [("from_", .int 5), ("filters", .arr
        [.obj [("type", .str "term"), ("not", .int 2)],
          .obj [("type", .str "range"), ("from", .int 1), ("from_", .int 7)]])]))
      (read 10 .modelType (.obj [("from", .int 5), ("filters", .arr
        [.obj [("type", .str "term"), ("negate", .int 2)],
          .obj [("type", .str "range"), ("from", .int 1), ("from_", .int 7)]])])) ∧
    SameOutcome id
      (read 10 .modelType (.obj [("from_", .int 5), ("filters", .arr
        [.obj [("type", .str "term"), ("not", .int 2)],
          .obj [("type", .str "range"), ("from", .int 1), ("from_", .int 7)]])]))
      (read 10 .modelType (.obj [("from_", .int 5), ("filters", .arr
        [.obj [("type", .str "term"), ("not", .int 2)],
          .obj [("type", .str "range"), ("from", .int 1)]])])) := by
  constructor
  · refine (read_by_either_name 10 .modelType
      ⟨fun a => a = .start, fun position a => position = 0 && a = .negation⟩ _).1 fun ms hms => ?_
    cases hms
    refine ⟨fun a ha => ?_, fun position a ha => ?_⟩
    · obtain rfl : a = .start := by simpa using ha
      decide
    · obtain ⟨rfl, rfl⟩ : position = 0 ∧ a = .negation := by simpa using ha
      exact ⟨_, ⟨_, rfl, rfl⟩, by decide⟩
  · refine (read_by_either_name 10 .modelType
      ⟨fun _ => false, fun position a => position = 1 && a = .start⟩ _).2.1 fun ms hms => ?_
    cases hms
    refine ⟨nofun, fun position a ha => ?_⟩
    obtain ⟨rfl, rfl⟩ : position = 1 ∧ a = .start := by simpa using ha
    exact ⟨_, ⟨_, rfl, rfl⟩, by decide⟩

end Query

end FacetedSearch
