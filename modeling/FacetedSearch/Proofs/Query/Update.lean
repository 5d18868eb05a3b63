import FacetedSearch.Proofs.Query.RoundTrip

/-!
# Partial updates

A partial update writes the whole query out, puts what is given in the place of the members of those
names, and reads everything again.  What comes of it can be told part by part: a part that is named
is read from the last entry under one of its names, as if that entry stood alone, and a part that is
not named is what a snapshot has for it.  Entries under other names are of no consequence.

* `Part.given?` — the entry that counts for a part.
* `LiveQuery.Regular` — what every live query satisfies, whatever was assigned to it.
* `LiveQuery.read_kept` — every part is read back as what a snapshot has for it.
* `LiveQuery.read_merge_eq_ok_iff` — an update, part by part.
* `LiveQuery.read_merge_known` — entries under other names do not matter.
* `LiveQuery.UpdatedBy` — what updates do to a live query, and `LiveQuery.UpdatedBy.of_update`, that
  they do it.
-/

set_option autoImplicit false

namespace FacetedSearch

open Checked Validation

/-! ## Names -/

/-- The part that an attribute is. -/
def Attribute.part : Attribute → Part
  | text => .text
  | ids => .ids
  | highlights => .highlights
  | size => .size
  | start => .start
  | mode => .mode

theorem Attribute.part_injective : Function.Injective Attribute.part := by
  intro a b h
  cases a <;> cases b <;> first | rfl | cases h

theorem Attribute.wireName_name (a : Attribute) : wireName a.name = a.part.name := by
  cases a <;> rfl

theorem Attribute.wireName_eq (k : String) :
    wireName k = if k = "from_" then "from" else if k = "bool_clauses" then "bool" else k := by
  unfold wireName wireNames
  rw [Members.lookup_cons_ite, Members.lookup_cons_ite]
  split_ifs <;> rfl

namespace Part

theorem name_mem_names (part : Part) : part.name ∈ part.names := List.mem_cons_self

/-- On the wire a part goes by its first name. -/
theorem wireName_eq_name_iff {k : String} {part : Part} :
    Attribute.wireName k = part.name ↔ k ∈ part.names := by
  rw [Attribute.wireName_eq]
  split_ifs with h h'
  · subst h
    cases part <;> decide
  · subst h'
    cases part <;> decide
  · cases part <;> simp [names, name, secondName?, h, h']

/-- The name on the wire of a name of a part is one of its names, and the other way round. -/
theorem wireName_mem_names_iff {k : String} {part : Part} :
    Attribute.wireName k ∈ part.names ↔ k ∈ part.names := by
  refine ⟨fun h => ?_, fun h => ?_⟩
  · rw [Attribute.wireName_eq] at h
    split_ifs at h with hfrom hbool
    · subst hfrom
      cases part <;> simp [names, name, secondName?] at h ⊢
    · subst hbool
      cases part <;> simp [names, name, secondName?] at h ⊢
    · exact h
  · rw [wireName_eq_name_iff.2 h]
    exact part.name_mem_names

/-- The entry that counts for a part: the last one under one of its names. -/
def given? (part : Part) (us : Members) : Option (String × Json) :=
  (us.filter fun m => m.1 ∈ part.names).getLast?

theorem mem_names_of_given? {part : Part} {us : Members} {m : String × Json}
    (h : part.given? us = some m) : m.1 ∈ part.names := by
  have hm := List.mem_of_getLast? h
  simpa using (List.mem_filter.1 hm).2

end Part

/-! ## Live queries -/

namespace LiveQuery

/-- Nothing unfit was assigned to a part. -/
def Fits (l : LiveQuery) (part : Part) : Prop := ∀ m ∈ l.unfit, m.1.part ≠ part

/-- What every live query satisfies, whatever was assigned to it. -/
structure Regular (l : LiveQuery) : Prop where
  sort : ∀ k ∈ l.query.sort, k.Regular
  /-- there is one assigned value for an attribute at most -/
  unfit : (l.unfit.map Prod.fst).Nodup

theorem regular_ofQuery {q : Query} (h : q.Regular) : (ofQuery q).Regular :=
  ⟨h.sort, List.nodup_nil⟩

theorem sort_of_assign? {q p : Query} {a : Attribute} {x : Json} (h : q.assign? a x = some p) :
    p.sort = q.sort := by
  unfold Query.assign? at h
  split at h
  case h_1 | h_2 | h_5 | h_6 =>
    cases h
    rfl
  case h_3 | h_4 | h_7 =>
    obtain ⟨_, -, rfl⟩ := Option.map_eq_some_iff.1 h
    rfl
  case h_8 => cases h

theorem Becomes.regular {l l' : LiveQuery} (h : l.Becomes l') (hl : l.Regular) : l'.Regular := by
  cases h with
  | edited e =>
    exact { hl with sort := (l.query.moves_after e).sort_eq ▸ hl.sort }
  | assigned a x =>
    have hothers : ((l.unfit.filter fun m => m.1 != a).map Prod.fst).Nodup :=
      hl.unfit.sublist (List.filter_sublist.map Prod.fst)
    unfold assign
    dsimp only
    split
    · rename_i hq
      exact ⟨(sort_of_assign? hq) ▸ hl.sort, hothers⟩
    · refine ⟨hl.sort, List.nodup_cons.2 ⟨?_, hothers⟩⟩
      simp
  | updated s updates h =>
    obtain ⟨x, q, hq, rfl⟩ := exists_read_of_update h
    exact regular_ofQuery (Query.regular_of_read hq)

theorem Reached.regular {l : LiveQuery} (h : l.Reached) : l.Regular := by
  induction h with
  | read h => exact regular_ofQuery (Query.regular_of_read h)
  | next _ hl ih => exact hl.regular ih

/-! ## What is written -/

theorem lookup_writeMembers (any : Json → Json) (assigned : Attribute → Json → Json)
    (l : LiveQuery) (part : Part) :
    (l.writeMembers any assigned).lookup part.name =
      ((l.unfit.filter fun m => m.1.part = part).getLast?.map fun m => assigned m.1 m.2).or
        (some (part.write any (part.get l.query))) := by
  have hname (m : Attribute × Json) :
      Attribute.wireName m.1.name = part.name ↔ m.1.part = part := by
    rw [Attribute.wireName_name]
    refine ⟨fun h => ?_, fun h => h ▸ rfl⟩
    exact Part.eq_of_mem_names m.1.part.name_mem_names (h ▸ part.name_mem_names)
  unfold writeMembers
  rw [Members.lookup_foldl_insert, Query.lookup_writeMembers]
  simp only [hname]

/-- A part to which nothing unfit was assigned is written as it is in the query. -/
theorem lookup_writeMembers_of_fits (any : Json → Json) (assigned : Attribute → Json → Json)
    {l : LiveQuery} {part : Part} (h : l.Fits part) :
    (l.writeMembers any assigned).lookup part.name = some (part.write any (part.get l.query)) := by
  have hnone : (l.unfit.filter fun m => m.1.part = part) = [] :=
    List.filter_eq_nil_iff.2 fun m hm => by simpa using h m hm
  rw [lookup_writeMembers, hnone]
  rfl

/-- An attribute is written as it is, fit or not. -/
theorem lookup_writeMembers_attribute {l : LiveQuery} (hl : l.Regular) (a : Attribute) :
    (l.writeMembers id fun _ x => x).lookup a.part.name = some (l.value a) := by
  have hvalue : a.part.write id (a.part.get l.query) = l.query.value a := by
    cases a <;> rfl
  have hunfit : (l.unfit.filter fun m => m.1.part = a.part).getLast?.map (fun m => m.2)
      = l.unfit.lookup a := by
    simp only [Attribute.part_injective.eq_iff]
    exact Members.getLast?_filter_of_nodup hl.unfit a
  rw [lookup_writeMembers, hunfit, hvalue, value]
  cases l.unfit.lookup a <;> rfl

/-! ## What is read -/

/-- What a snapshot has for an attribute is what its value is read as. -/
theorem read_value_of_snapshot {l : LiveQuery} {p : Query} (h : l.snapshot = .ok p) (shape : Rule)
    (a : Attribute) : a.part.read shape (l.value a) = .ok (a.part.get p) := by
  obtain ⟨text, ids, selections, highlights, size, start, mode, htext, hids, -, hhighlights, hsize,
    hstart, hmode, rfl⟩ := snapshot_eq_ok_iff.1 h
  cases a <;> assumption

/-- Of a live query with a snapshot, whatever was selected is an object. -/
theorem selections_of_snapshot {l : LiveQuery} {p : Query} (h : l.snapshot = .ok p) :
    p.selections = l.query.selections ∧ ∀ m ∈ l.query.selections, ∃ ns, m.2 = .obj ns := by
  obtain ⟨_, _, selections, _, _, _, _, -, -, hread, -, -, -, -, rfl⟩ := snapshot_eq_ok_iff.1 h
  have hsame := Query.readSelections_eq_ok hread
  refine ⟨hsame, fun m hm => ?_⟩
  subst hsame
  rw [members_eq_ok_iff, List.forall₂_same] at hread
  have hx := (hread m hm).2
  cases hvalue : m.2 with
  | obj ns => exact ⟨ns, rfl⟩
  | null | bool | int | float | str | arr =>
    rw [hvalue] at hx
    cases hx

/-- Of a live query with a snapshot, every part is read back as what the snapshot has for it. -/
theorem read_kept {l : LiveQuery} {p : Query} (hl : l.Regular) (hp : l.snapshot = .ok p)
    (shape : Rule) (part : Part) :
    ∃ x, (l.writeMembers id fun _ x => x).lookup part.name = some x ∧
      part.read shape x = .ok (part.settle (part.get p)) := by
  have hattribute (a : Attribute) : ∃ x,
      (l.writeMembers id fun _ x => x).lookup a.part.name = some x ∧
        a.part.read shape x = .ok (a.part.get p) :=
    ⟨_, lookup_writeMembers_attribute hl a, read_value_of_snapshot hp shape a⟩
  -- only attributes can be unfit, so any other part is written as it is in the query
  have hother (hfits : ∀ a : Attribute, a.part ≠ part)
      (hlegible : part.Legible (part.get l.query)) (hsame : part.get p = part.get l.query) : ∃ x,
      (l.writeMembers id fun _ x => x).lookup part.name = some x ∧
        part.read shape x = .ok (part.settle (part.get p)) :=
    ⟨_, lookup_writeMembers_of_fits _ _ fun m _ => hfits m.1, by
      rw [hsame]
      exact Part.read_write shape hlegible⟩
  obtain ⟨hselections, hobjects⟩ := selections_of_snapshot hp
  obtain ⟨_, _, _, _, _, _, _, -, -, -, -, -, -, -, rfl⟩ := snapshot_eq_ok_iff.1 hp
  cases part with
  | text => exact hattribute .text
  | ids => exact hattribute .ids
  | highlights => exact hattribute .highlights
  | size => exact hattribute .size
  | start => exact hattribute .start
  | mode => exact hattribute .mode
  | selections => exact hother (fun a => by cases a <;> decide) hobjects hselections
  | sort => exact hother (fun a => by cases a <;> decide) hl.sort rfl
  | boosts | clauses | filters | aggregations | facets =>
    exact hother (fun a => by cases a <;> decide) trivial rfl

/-- The member of a part in a merged query: what is given for it, or else what it was. -/
theorem lookup_merge (l : LiveQuery) (us : Members) (part : Part) :
    (l.merge us).lookup part.name =
      ((part.given? us).map Prod.snd).or
        ((l.writeMembers id fun _ x => x).lookup part.name) := by
  unfold merge Part.given?
  rw [Members.lookup_foldl_insert]
  simp only [Part.wireName_eq_name_iff]

end LiveQuery

namespace Query

/-- An entry for another part has no filters of unknown kinds. -/
theorem checkFilters_singleton {m : String × Json} {part : Part} (hm : m.1 ∈ part.names)
    (hpart : part ≠ .filters) : checkFilters [m] = .ok () := by
  have hname : "filters" ≠ m.1 := fun h =>
    hpart (Part.eq_of_mem_names hm (h ▸ Part.filters.name_mem_names))
  have hlookup : [m].lookup "filters" = none := by
    rw [Members.lookup_singleton, if_neg hname]
  unfold checkFilters
  rw [hlookup]

/-- What an entry alone is read as, if it is for a part. -/
theorem read_singleton_eq_ok_iff {size : Int} {shape : Rule} {m : String × Json} {part : Part}
    (hm : m.1 ∈ part.names) {value : part.Value} :
    (∃ q, read size shape (.obj [m]) = .ok q ∧ part.get q = value) ↔
      checkFilters [m] = .ok () ∧ part.read shape m.2 = .ok value := by
  have hpart : part.readAmong size shape [m] = _ := Part.readAmong_singleton hm
  constructor
  · rintro ⟨q, hq, rfl⟩
    obtain ⟨hfilters, hparts⟩ := read_eq_ok_iff.1 hq
    have hvalue := hparts part
    rw [hpart, under_eq_ok_iff] at hvalue
    exact ⟨hfilters, hvalue⟩
  · rintro ⟨hfilters, hvalue⟩
    obtain ⟨q, hq⟩ : ∃ q, read size shape (.obj [m]) = .ok q := by
      refine exists_read_eq_ok hfilters fun other => ?_
      by_cases hother : m.1 ∈ other.names
      · cases Part.eq_of_mem_names hm hother
        exact ⟨value, hpart.trans (under_eq_ok_iff.2 hvalue)⟩
      · -- every other part is absent, and so is read as in the query that finds everything
        refine ⟨_, Part.readAmong_of_absent fun name hname => ?_⟩
        have hne : name ≠ m.1 := fun h => hother (h ▸ hname)
        rw [Members.lookup_singleton, if_neg hne]
    have hget := (read_eq_ok_iff.1 hq).2 part
    rw [hpart, under_eq_ok_iff, hvalue] at hget
    cases hget
    exact ⟨q, hq, rfl⟩

end Query

namespace LiveQuery

/-- A merged query has filters of unknown kinds only if they are given. -/
theorem checkFilters_merge (l : LiveQuery) (us : Members) :
    Query.checkFilters (l.merge us) =
      (Part.filters.given? us).elim (.ok ()) fun m => Query.checkFilters [m] := by
  have hlookup : (l.merge us).lookup "filters" = _ := l.lookup_merge us .filters
  cases hm : Part.filters.given? us with
  | some m =>
    have hname : m.1 = "filters" := by
      simpa [Part.names, Part.name, Part.secondName?] using Part.mem_names_of_given? hm
    refine Query.checkFilters_congr ?_
    rw [hlookup, hm, Members.lookup_singleton, if_pos hname.symm]
    rfl
  | none =>
    have hfits : l.Fits .filters := fun m _ => by cases m.1 <;> decide
    rw [hm, lookup_writeMembers_of_fits _ _ hfits] at hlookup
    exact Query.checkFilters_write hlookup

/-- **An update, part by part.**  A part that is named has the value that its last entry has alone,
and is refused if that entry is refused alone; every other part has the value that a snapshot has
for it. -/
theorem read_merge_eq_ok_iff {l : LiveQuery} {p q : Query} (hl : l.Regular)
    (hp : l.snapshot = .ok p) {size : Int} {shape : Rule} {us : Members} :
    Query.read size shape (.obj (l.merge us)) = .ok q ↔
      ∀ part : Part,
        (∀ m, part.given? us = some m →
          ∃ alone, Query.read size shape (.obj [m]) = .ok alone ∧ part.get alone = part.get q) ∧
        (part.given? us = none → part.get q = part.settle (part.get p)) := by
  have hgiven {part : Part} {m : String × Json} (hm : part.given? us = some m) :
      part.readAmong size shape (l.merge us) = (part.read shape m.2).under (.key part.name) := by
    refine Part.readAmong_of_lookup ?_
    rw [lookup_merge, hm]
    rfl
  have hkept {part : Part} (hnone : part.given? us = none) :
      part.readAmong size shape (l.merge us) = .ok (part.settle (part.get p)) := by
    obtain ⟨x, hx, hread⟩ := read_kept hl hp shape part
    rw [Part.readAmong_of_lookup (x := x), under_eq_ok_iff]
    · exact hread
    · rw [lookup_merge, hnone, hx]
      rfl
  -- filters are looked at twice: at their kinds before all else, and then as at any other part
  rw [Query.read_eq_ok_iff, checkFilters_merge]
  constructor
  · rintro ⟨hfilters, hparts⟩ part
    have hpart := hparts part
    refine ⟨fun m hm => ?_, fun hnone => ?_⟩
    · rw [hgiven hm, under_eq_ok_iff] at hpart
      refine (Query.read_singleton_eq_ok_iff (Part.mem_names_of_given? hm)).2 ⟨?_, hpart⟩
      by_cases hsame : part = .filters
      · subst hsame
        rwa [hm] at hfilters
      · exact Query.checkFilters_singleton (Part.mem_names_of_given? hm) hsame
    · rw [hkept hnone] at hpart
      exact (Checked.ok.inj hpart).symm
  · intro h
    constructor
    · cases hm : Part.filters.given? us with
      | some m =>
        obtain ⟨alone, halone, -⟩ := (h .filters).1 m hm
        exact (Query.read_eq_ok_iff.1 halone).1
      | none => rfl
    · intro part
      cases hm : part.given? us with
      | some m =>
        have halone := (h part).1 m hm
        rw [Query.read_singleton_eq_ok_iff (Part.mem_names_of_given? hm)] at halone
        rw [hgiven hm, under_eq_ok_iff]
        exact halone.2
      | none => rw [hkept hm, (h part).2 hm]

/-- Entries for no part are of no consequence, neither for what an update gives nor for why it is
refused. -/
theorem read_merge_known (l : LiveQuery) (us : Members) (size : Int) (shape : Rule) :
    Query.read size shape (.obj (l.merge (us.filter fun m => (Part.ofName? m.1).isSome))) =
      Query.read size shape (.obj (l.merge us)) := by
  refine Query.read_congr fun part name hname => ?_
  have hknown (m : String × Json) :
      (decide (Attribute.wireName m.1 = name) && (Part.ofName? m.1).isSome) =
        decide (Attribute.wireName m.1 = name) := by
    by_cases h : Attribute.wireName m.1 = name
    · have hm : m.1 ∈ part.names := Part.wireName_mem_names_iff.1 (h ▸ hname)
      rw [Part.ofName?_eq_some_iff.2 hm, Option.isSome_some, Bool.and_true]
    · rw [decide_eq_false h, Bool.false_and]
  unfold merge
  rw [Members.lookup_foldl_insert, Members.lookup_foldl_insert, List.filter_filter]
  simp only [hknown]

theorem value_of_fits {l : LiveQuery} {a : Attribute} (h : l.Fits a.part) :
    l.value a = l.query.value a := by
  have hnone : l.unfit.lookup a = none :=
    List.lookup_eq_none_iff.2 fun m hm => by
      simpa using fun h' => h m hm (congrArg Attribute.part h'.symm)
  rw [value, hnone]
  rfl

/-- A snapshot has every part as it is to which nothing unfit was assigned. -/
theorem get_snapshot_of_fits {l : LiveQuery} {p : Query} (hp : l.snapshot = .ok p) {part : Part}
    (h : l.Fits part) : part.get p = part.get l.query := by
  have hread (a : Attribute) (ha : a.part = part) :
      a.part.read .modelType (l.query.value a) = .ok (a.part.get p) := by
    rw [← value_of_fits (ha ▸ h)]
    exact read_value_of_snapshot hp .modelType a
  obtain ⟨hselections, -⟩ := selections_of_snapshot hp
  obtain ⟨_, _, _, _, _, _, _, -, -, -, -, -, -, -, rfl⟩ := snapshot_eq_ok_iff.1 hp
  cases part with
  | text => exact (Checked.ok.inj (hread .text rfl)).symm
  | ids =>
    exact Checked.ok.inj ((hread .ids rfl).symm.trans (RecordId.readList_idsToJson l.query.ids))
  | highlights =>
    have hnames : list string (.arr (l.query.highlights.map .str)) = .ok l.query.highlights :=
      list_eq_ok_self _ fun _ _ => rfl
    exact Checked.ok.inj ((hread .highlights rfl).symm.trans hnames)
  | size => exact Checked.count_int_eq_ok (hread .size rfl)
  | start => exact Checked.count_int_eq_ok (hread .start rfl)
  | mode => exact Checked.ok.inj ((hread .mode rfl).symm.trans (Mode.read_name l.query.mode))
  | selections => exact hselections
  | boosts | clauses | filters | aggregations | facets | sort => rfl

theorem update_obj (s : Settings) (l : LiveQuery) (us : Members) :
    l.update s (.obj us) =
      (Query.read s.defaultSize .modelType (.obj (l.merge us))).map ofQuery := by
  unfold update
  show (Query.read s.defaultSize .modelType (.obj (l.merge us)) >>= fun q => .ok (ofQuery q)) = _
  cases Query.read s.defaultSize .modelType (.obj (l.merge us)) <;> rfl

/-- What becomes of a live query, with a given snapshot, when updates are applied to it. -/
structure UpdatedBy (size : Int) (us : Members) (l : LiveQuery) (p : Query) (l' : LiveQuery) :
    Prop where
  /-- what is named is what its last entry is read as alone -/
  named : ∀ (part : Part) (m : String × Json), part.given? us = some m →
    l'.Fits part ∧ ∃ alone, Query.read size .modelType (.obj [m]) = .ok alone ∧
      part.get l'.query = part.get alone
  /-- what is not named is written as before, as far as nothing unfit was assigned to it -/
  kept : ∀ part : Part, part.given? us = none → us = [] ∨ l.Fits part → ∀ any assigned,
    (l'.writeMembers any assigned).lookup part.name = (l.writeMembers any assigned).lookup part.name
  /-- what is not named is written as in the snapshot in any case -/
  reread : ∀ part : Part, part.given? us = none → us ≠ [] → ∀ any assigned,
    (l'.writeMembers any assigned).lookup part.name = (p.writeMembers any).lookup part.name

/-- No updates change nothing. -/
theorem UpdatedBy.nil {size : Int} {l : LiveQuery} {p : Query} : l.UpdatedBy size [] p l where
  named _ _ h := nomatch h
  kept _ _ _ _ _ := rfl
  reread _ _ h := absurd rfl h

/-- **What a partial update does.** -/
theorem UpdatedBy.of_update {s : Settings} {us : Members} {l l' : LiveQuery} {p : Query}
    (hl : l.Regular) (hp : l.snapshot = .ok p) (hus : us ≠ [])
    (h : l.update s (.obj us) = .ok l') :
    l.UpdatedBy s.defaultSize us p l' := by
  rw [update_obj, map_eq_ok_iff] at h
  obtain ⟨q, hq, rfl⟩ := h
  have hparts := (read_merge_eq_ok_iff hl hp).1 hq
  have hfits (part : Part) : (ofQuery q).Fits part := nofun
  have hkept {part : Part} (hnone : part.given? us = none) (any : Json → Json)
      (assigned : Attribute → Json → Json) :
      ((ofQuery q).writeMembers any assigned).lookup part.name =
        (p.writeMembers any).lookup part.name := by
    have hget : part.get (ofQuery q).query = _ := (hparts part).2 hnone
    rw [lookup_writeMembers_of_fits _ _ (hfits part), Query.lookup_writeMembers, hget,
      Part.write_settle]
  constructor
  · intro part m hm
    obtain ⟨alone, halone, hget⟩ := (hparts part).1 m hm
    exact ⟨hfits part, alone, halone, hget.symm⟩
  · rintro part hnone (hnil | hpart) any assigned
    · exact absurd hnil hus
    · rw [hkept hnone, lookup_writeMembers_of_fits _ _ hpart, Query.lookup_writeMembers,
        get_snapshot_of_fits hp hpart]
  · exact fun part hnone _ => hkept hnone

/-- An update that names no part is not refused. -/
theorem update_of_unnamed {l : LiveQuery} {p : Query} (hl : l.Regular) (hp : l.snapshot = .ok p)
    (s : Settings) {us : Members} (hnone : ∀ part : Part, part.given? us = none) :
    l.update s (.obj us) = .ok (ofQuery p.settled) := by
  have hread : Query.read s.defaultSize .modelType (.obj (l.merge us)) = .ok p.settled := by
    refine (read_merge_eq_ok_iff hl hp).2 fun part => ⟨fun m hm => ?_, fun _ => p.get_settled part⟩
    rw [hnone part] at hm
    cases hm
  rw [update_obj, hread]
  rfl

end LiveQuery

end FacetedSearch
