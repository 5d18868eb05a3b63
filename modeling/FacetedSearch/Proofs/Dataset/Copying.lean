import FacetedSearch.Proofs.Dataset.Keeping
import FacetedSearch.Proofs.Query.Announcement
import FacetedSearch.Proofs.Query.RoundTrip

/-!
# Copies of a query

A snapshot copies the live query and checks the copy.  As long as nothing is assigned to the live
query without a check, only two things can be refused: a selection that is no object, since whatever
is selected is taken as it is, and a number of records below zero, since the number of an
installation is taken as it is.  Otherwise the copy is the live query, and the session does not
notice.

* `LiveQuery.NeverAssigned` — live queries that are read, edited and updated but not assigned to.
* `Query.copyFaults` — what is wrong with a query that is copied.
* `LiveQuery.NeverAssigned.snapshot_eq` — the snapshot of such a query, or why there is none.
* `Dataset.snapshot_faithful` — when a snapshot is taken, and that it is the live query.
-/

set_option autoImplicit false

namespace FacetedSearch

open Checked Validation

/-! ## What is wrong with a copy -/

/-- A value is an object. -/
def Json.isObject : Json → Bool
  | .obj _ => true
  | _ => false

theorem Json.isObject_iff {x : Json} : x.isObject ↔ ∃ ms, x = .obj ms := by
  cases x <;> simp [Json.isObject]

namespace Query

/-- What is wrong with a selection that is no object. -/
def selectionFaults (ms : Members) : List Cause :=
  (ms.filter fun m => !m.2.isObject).map fun m => ⟨[.key m.1], .dictType, m.2⟩

/-- What is wrong with a negative number of records. -/
def sizeFaults (size : Int) : List Cause :=
  if 0 ≤ size then [] else [⟨[], .greaterThanEqual, .int size⟩]

/-- What is wrong with a query that is copied, in order. -/
def copyFaults (q : Query) : List Cause :=
  ((selectionFaults q.selections).map fun c =>
      { c with path := .key "selected_aggregations" :: c.path }) ++
    (sizeFaults q.size).map fun c => { c with path := .key "size" :: c.path }

theorem copyFaults_eq_nil_iff {q : Query} :
    q.copyFaults = [] ↔ 0 ≤ q.size ∧ ∀ m ∈ q.selections, ∃ ns, m.2 = .obj ns := by
  have hselections :
      selectionFaults q.selections = [] ↔ ∀ m ∈ q.selections, ∃ ns, m.2 = .obj ns := by
    simp [selectionFaults, List.filter_eq_nil_iff, Json.isObject_iff]
  have hsize : sizeFaults q.size = [] ↔ 0 ≤ q.size := by
    unfold sizeFaults
    split <;> simp_all
  rw [copyFaults, List.append_eq_nil_iff, List.map_eq_nil_iff, List.map_eq_nil_iff, hselections,
    hsize, and_comm]

/-- Selections are refused one by one. -/
theorem members_readSelection (ms : Members) :
    Checked.members readSelection ms = judged (selectionFaults ms) ms := by
  induction ms with
  | nil => rfl
  | cons m ms ih =>
    obtain ⟨key, x⟩ := m
    have hread : readSelection x =
        judged (if x.isObject then [] else [⟨[], .dictType, x⟩]) x := by
      cases x <;> rfl
    show (fun y rest => (key, y) :: rest) <$> (readSelection x).under (.key key) <*>
      Checked.members readSelection ms = _
    rw [ih, hread, under_judged, map_judged, seq_judged]
    congr 1
    cases hx : x.isObject <;> simp [selectionFaults, hx]

theorem count_int (n : Int) : Checked.count (.int n) = judged (sizeFaults n) n := by
  show (if 0 ≤ n then Checked.ok n else refuse .greaterThanEqual (.int n)) = _
  unfold sizeFaults
  split <;> rfl

end Query

/-! ## Live queries that are not assigned to -/

namespace LiveQuery

/-- What becomes of a query that is read by edits and updates, without plain assignments. -/
inductive NeverAssigned : LiveQuery → Prop where
  | read {size : Int} {shape : Rule} {x : Json} {q : Query} (h : Query.read size shape x = .ok q) :
      NeverAssigned (ofQuery q)
  | edited {l : LiveQuery} (h : NeverAssigned l) (e : Edit) :
      NeverAssigned { l with query := l.query.after e }
  | updated {l l' : LiveQuery} (h : NeverAssigned l) (s : Settings) (updates : Json)
      (hl : l.update s updates = .ok l') : NeverAssigned l'

theorem NeverAssigned.unfit_eq {l : LiveQuery} (h : l.NeverAssigned) : l.unfit = [] := by
  induction h with
  | read => rfl
  | edited _ _ ih => exact ih
  | updated _ s updates hl =>
    obtain ⟨x, q, -, rfl⟩ := exists_read_of_update hl
    rfl

theorem NeverAssigned.regular {l : LiveQuery} (h : l.NeverAssigned) : l.query.Regular := by
  induction h with
  | read h => exact Query.regular_of_read h
  | edited _ e ih => exact (Query.moves_after _ e).regular ih
  | updated _ s updates hl =>
    obtain ⟨x, q, hread, rfl⟩ := exists_read_of_update hl
    exact Query.regular_of_read hread

theorem eq_ofQuery_of_fit {l : LiveQuery} (hfit : l.unfit = []) : l = ofQuery l.query := by
  obtain ⟨q, unfit⟩ := l
  have hunfit : unfit = [] := hfit
  rw [hunfit]
  rfl

/-- The snapshot of a query that starts somewhere is the query itself, or is refused for its
selections and its size. -/
theorem snapshot_ofQuery {q : Query} (hstart : 0 ≤ q.start) :
    (ofQuery q).snapshot = judged q.copyFaults q := by
  have hcount : Checked.count (.int q.start) = judged [] q.start := by
    rw [Query.count_int, Query.sizeFaults, if_pos hstart]
  have hnames : Checked.list Checked.string (.arr (q.highlights.map .str)) =
      judged [] q.highlights :=
    Checked.list_eq_ok_self _ fun _ _ => rfl
  have hids : RecordId.readList (Query.idsToJson q.ids) = judged [] q.ids :=
    RecordId.readList_idsToJson q.ids
  have hmode : Mode.read (.str q.mode.name) = judged [] q.mode := Mode.read_name q.mode
  have htext : Checked.string (.str q.text) = judged [] q.text := rfl
  have hvalue (a : Attribute) : (ofQuery q).value a = q.value a := rfl
  have hquery : (ofQuery q).query = q := rfl
  unfold snapshot check
  simp only [hvalue, hquery, Query.value, htext, hids, Query.members_readSelection, hnames,
    Query.count_int q.size, hcount, hmode]
  simp only [under_judged, map_judged, seq_judged, List.map_nil, List.append_nil, List.nil_append]
  rfl

/-- **The snapshot of a query to which nothing was assigned** is the query itself, or is refused for
its selections and its size, and for nothing else. -/
theorem NeverAssigned.snapshot_eq {l : LiveQuery} (h : l.NeverAssigned) :
    l.snapshot = judged l.query.copyFaults l.query := by
  rw [eq_ofQuery_of_fit h.unfit_eq]
  exact snapshot_ofQuery h.regular.start

/-- A live query is shown as the query that it is, if nothing unfit was assigned to it. -/
theorem present_of_fit {l : LiveQuery} (hfit : l.unfit = []) : l.present = l.query.present := by
  unfold present anyValues presented writeMembers Query.present Query.presented
  rw [hfit, List.flatMap_nil, List.append_nil, List.foldl_nil]

end LiveQuery

/-! ## Valid queries -/

namespace Query

/-- Queries of which a copy is accepted. -/
structure Valid (q : Query) : Prop where
  size : 0 ≤ q.size
  start : 0 ≤ q.start
  selections : ∀ m ∈ q.selections, m.2.isObject

/-- A valid query is its own snapshot. -/
theorem Valid.snapshot {q : Query} (h : q.Valid) : (LiveQuery.ofQuery q).snapshot = .ok q := by
  rw [LiveQuery.snapshot_ofQuery h.start, judged_eq_ok_iff]
  refine ⟨copyFaults_eq_nil_iff.2 ⟨h.size, fun m hm => ?_⟩, rfl⟩
  exact Json.isObject_iff.1 (h.selections m hm)

theorem isObject_of_readSelection {x y : Json} (h : readSelection x = .ok y) : y.isObject := by
  cases readSelection_eq_ok h
  cases x <;> first | rfl | cases h

/-- A query that is read is valid, where the number of records that is not given is. -/
theorem valid_of_read {size : Int} {shape : Rule} {x : Json} {q : Query} (hsize : 0 ≤ size)
    (h : read size shape x = .ok q) : q.Valid := by
  have hregular := regular_of_read h
  cases x with
  | obj ms =>
    have hparts := (read_eq_ok_iff.1 h).2
    refine ⟨?_, hregular.start, fun m hm => ?_⟩
    · rcases Part.of_readAmong_eq_ok (hparts .size) with ⟨x, hx⟩ | hx
      · exact (count_eq_ok_iff.1 hx).2
      · rw [show q.size = size from hx]
        exact hsize
    · rcases Part.of_readAmong_eq_ok (hparts .selections) with ⟨x, hx⟩ | hx
      · obtain ⟨y, hy⟩ := of_dictionary_eq_ok hx m hm
        exact isObject_of_readSelection hy
      · rw [show q.selections = [] from hx] at hm
        cases hm
  | null | bool | int | float | str | arr => cases h

/-- Edits keep a query valid when they select objects only. -/
theorem Valid.after {q : Query} (hq : q.Valid) {e : Edit}
    (he : ∀ selection, e.selection? = some selection → selection.isObject) :
    (q.after e).Valid := by
  have hmoves := q.moves_after e
  refine ⟨hmoves.size_eq ▸ hq.size, hmoves.start_eq ▸ hq.start, fun m hm => ?_⟩
  have hafter := q.after_eq e
  cases happly : e.apply q with
  | error failure =>
    rw [happly] at hafter
    rw [hafter] at hm
    exact hq.selections m hm
  | ok c =>
    rw [happly] at hafter
    rw [hafter] at hm
    rcases (Edit.changes_of_apply happly).mem_selections hm with hm | hselection
    · exact hq.selections m hm
    · exact he m.2 hselection

end Query

namespace Dataset

/-- Taking a snapshot is a look at the live query, and no more. -/
theorem run_snapshot (d : Dataset) (depth : Nat) (s : Session) :
    d.run (depth + 1) .snapshot s =
      SessionM.attempt (s.live.snapshot.orFail >>= Query.present) s := by
  show (get >>= fun s => SessionM.attempt s.live.snapshot.orFail >>= fun q =>
    SessionM.attempt q.present : SessionM Json) s = _
  rw [SessionM.bind_get, SessionM.bind_attempt]
  cases s.live.snapshot <;> rfl

/-- **Snapshots are faithful, and it is known when there is none.**  The live query of a session to
which nothing was assigned has a snapshot exactly when it asks for no fewer than no records and
everything that is selected is an object; otherwise the snapshot is refused.  A snapshot is written
and shown like the live query, it has the same body or none for the same reason, and responses are
mapped in its light to the same results.  It is a query and no more: observers are part of a session.
The session is what it was, observers and all, whether there is a snapshot or not. -/
theorem snapshot_faithful (d : Dataset) (depth : Nat) {s : Session} (h : s.live.NeverAssigned) :
    ((∃ q, s.live.snapshot = .ok q) ↔
      0 ≤ s.live.query.size ∧ ∀ m ∈ s.live.query.selections, ∃ ns, m.2 = .obj ns) ∧
    (¬ (0 ≤ s.live.query.size ∧ ∀ m ∈ s.live.query.selections, ∃ ns, m.2 = .obj ns) →
      ∃ causes, causes ≠ [] ∧ s.live.snapshot = .refused causes ∧
        d.run (depth + 1) .snapshot s = .error (.invalid causes) s) ∧
    (∀ q, s.live.snapshot = .ok q →
      q.toJson = .obj (s.live.writeMembers id fun _ x => x) ∧ q.present = s.live.present ∧
      (∀ settings, q.searchBody settings = s.live.searchBody settings) ∧
      ∀ response, q.mapResponse response = s.live.query.mapResponse response) ∧
    (d.run (depth + 1) .snapshot).after s = s := by
  have hfit := h.unfit_eq
  refine ⟨?_, fun hfaults => ?_, fun q hq => ?_, ?_⟩
  · rw [h.snapshot_eq, ← Query.copyFaults_eq_nil_iff]
    simp [judged_eq_ok_iff]
  · rw [← Query.copyFaults_eq_nil_iff] at hfaults
    have hrefused : s.live.snapshot = .refused s.live.query.copyFaults := by
      rw [h.snapshot_eq, judged_eq_refused_iff]
      exact ⟨hfaults, rfl⟩
    refine ⟨_, hfaults, hrefused, ?_⟩
    rw [run_snapshot, hrefused]
    rfl
  · cases LiveQuery.snapshot_eq_self hq hfit
    refine ⟨?_, (LiveQuery.present_of_fit hfit).symm, fun settings => ?_, fun _ => rfl⟩
    · unfold LiveQuery.writeMembers
      rw [hfit]
      rfl
    · exact (LiveQuery.searchBody_of_fit settings hfit).symm
  · unfold SessionM.after
    rw [run_snapshot]
    cases s.live.snapshot.orFail >>= Query.present <;> rfl

/-- A session with a listener, whose live query was read, selected in and updated, and one in which
something was selected that is no object. -/
theorem snapshot_faithful_selected :
    let d : Dataset := ⟨"products", .standard⟩
    let read : Query := { Query.blank 10 with
      aggregations := [("color", ⟨"color", .terms none⟩)] }
    let selected : Query := { read with
      selections := [("color", .obj [("red", .bool true)])]
      start := 5 }
    let poisoned : Query := { read with selections := [("color", .str "red")] }
    let s : Session := { Session.start (.ofQuery selected) false with
      observers := [.listener "view"] }
    let t : Session := Session.start (.ofQuery poisoned) true
    s.live.NeverAssigned ∧ t.live.NeverAssigned ∧
      (∃ q, s.live.snapshot = .ok q ∧ q.present = s.live.present ∧
        ∀ settings, q.searchBody settings = s.live.searchBody settings) ∧
      (d.run 1 .snapshot).after s = s ∧
      ∃ causes, causes ≠ [] ∧ t.live.snapshot = .refused causes ∧
        d.run 1 .snapshot t = .error (.invalid causes) t := by
  intro d read selected poisoned s t
  have hquery : Query.read 10 .modelType (.obj [("aggs", .obj [("color",
      .obj [("kind", .str "terms"), ("field", .str "color")])])]) = .ok read := by
    decide +kernel
  have hread : LiveQuery.NeverAssigned (.ofQuery read) := .read hquery
  have hs : s.live.NeverAssigned := by
    refine .updated (hread.edited (.mutation (.selectAggregation (.str "color")
      (.obj [("red", .bool true)])))) .standard (.obj [("from", .int 5)]) ?_
    decide +kernel
  have ht : t.live.NeverAssigned := by
    have hselected : read.after (.mutation (.selectAggregation (.str "color") (.str "red"))) =
        poisoned := by decide +kernel
    have hedited := hread.edited (.mutation (.selectAggregation (.str "color") (.str "red")))
    rwa [LiveQuery.ofQuery, hselected] at hedited
  have hfaithful := snapshot_faithful d 0 hs
  obtain ⟨q, hq⟩ := hfaithful.1.2 ⟨by decide, fun m hm => by
    cases List.mem_singleton.1 hm
    exact ⟨_, rfl⟩⟩
  obtain ⟨-, hpresent, hbody, -⟩ := hfaithful.2.2.1 q hq
  refine ⟨hs, ht, ⟨q, hq, hpresent, hbody⟩, hfaithful.2.2.2, ?_⟩
  refine (snapshot_faithful d 0 ht).2.1 fun h => ?_
  obtain ⟨ns, hns⟩ := h.2 ("color", .str "red") (List.mem_singleton.2 rfl)
  cases hns

end Dataset

end FacetedSearch
