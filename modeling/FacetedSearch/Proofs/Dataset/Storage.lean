import FacetedSearch.Proofs.Dataset.Keeping
import FacetedSearch.Proofs.Json.Printable

/-!
# Reading back what was stored

The engine keeps a record under the name that it is given, or under a new name when there is none.
A record that is stored is read back under the name that the engine reports: with all its members,
and with that name as its identifier when it came without one.  An identifier that is null or empty
names nothing when the record is stored, and still counts as one when the record is read: such a
record keeps it.  A record whose identifier cannot be written is not stored at all.

* `Storage` — records that are kept under names; `Storage.answer` — requests about one record.
* `Storage.Gives` — what an action gives when the storage answers its only request.
* `Storage.blank` — a storage to begin with.
* `Record.HasVoidId`, `Record.HasLongId` — identifiers that name nothing, and that have no text.
* `Storage.upsertRecord_gives_iff`, `Storage.getRecord_gives_iff` — to store and to read a record.
* `Storage.stored_record_is_read_back` — to read the record that was stored.
-/

set_option autoImplicit false

namespace FacetedSearch

/-- Records that are kept under names. -/
structure Storage where
  records : Members
  /-- the name of a record that is stored without one -/
  assign : Members → String
  assign_new : ∀ records, ¬ Members.has (assign records) records
  assign_ne_empty : ∀ records, assign records ≠ ""

/-- The identifier of a record names nothing: it is null, or its text is empty. -/
def Record.HasVoidId (record : Members) : Prop :=
  ∃ id, record.lookup "id" = some id ∧ (id = .null ∨ id.text = .ok "")

/-- The identifier of a record has no text: an integer in it is too long to be written. -/
def Record.HasLongId (record : Members) : Prop :=
  ∃ id, record.lookup "id" = some id ∧ ¬ id.isPrintable

namespace Session

/-- The reply to the next request is known. -/
def expecting (outcome : Except Failure Json) (s : Session) : Session :=
  { s with replies := ⟨none, some outcome⟩ :: s.replies }

/-- One more request was made. -/
def asked (request : Request) (s : Session) : Session :=
  { s with calls := s.calls ++ [⟨request, none⟩] }

/-- The request that was made can be seen. -/
theorem asked_injective {request request' : Request} {s : Session}
    (h : s.asked request = s.asked request') : request = request' := by
  have hcalls : (s.asked request).calls = (s.asked request').calls := by rw [h]
  simpa [asked] using hcalls

end Session

namespace Dataset

open SessionM

/-- A request for which the reply is known has that outcome. -/
theorem call_expecting (inner : Meaning) (request : Request) (outcome : Except Failure Json)
    (s : Session) :
    call inner request (s.expecting outcome) = attempt outcome (s.asked request) := by
  rw [call_eq]
  rfl

end Dataset

namespace Storage

open SessionM Dataset

/-- The name under which a record is stored: the given one, unless none or an empty one is given. -/
def place (t : Storage) : Json → String
  | .str name => if name = "" then t.assign t.records else name
  | _ => t.assign t.records

/-- Keep a record under a name, in place of the one that was kept there. -/
def keep (t : Storage) (name : String) (doc : Json) : Storage :=
  { t with records := Members.insert name doc t.records }

/-- What the engine reports of a record that it stored under a name. -/
def receipt (t : Storage) (name : String) : Json :=
  .obj [("_id", .str name),
    ("result", .str (if Members.has name t.records then "updated" else "created"))]

/-- A record as the engine returns it. -/
def returned (name : String) (doc : Json) : Json := .obj [("_id", .str name), ("_source", doc)]

/--
The answer to a request to store a record or to return one, and the storage afterwards.  No other
request is answered here.
-/
def answer (t : Storage) : Request → Option (Except Failure Json × Storage)
  | .indexDocument doc id =>
    let name := t.place id
    some (.ok (t.receipt name), t.keep name doc)
  | .getDocument (.str name) =>
    (t.records.lookup name).map fun doc => (.ok (returned name doc), t)
  | _ => none

/-- The length of the longest name. -/
def longest (records : Members) : Nat := records.foldr (fun m n => max m.1.length n) 0

theorem length_le_longest {records : Members} {m : String × Json} (h : m ∈ records) :
    m.1.length ≤ longest records := by
  induction records with
  | nil => exact absurd h List.not_mem_nil
  | cons n records ih =>
    rw [longest, List.foldr_cons]
    rcases List.mem_cons.1 h with rfl | h
    · exact Nat.le_max_left _ _
    · exact Nat.le_trans (ih h) (Nat.le_max_right _ _)

/-- A name that is longer than all others. -/
def longerName (records : Members) : String :=
  String.ofList (List.replicate (longest records + 1) 'a')

theorem length_longerName (records : Members) :
    (longerName records).length = longest records + 1 := by
  simp [longerName]

theorem longerName_new (records : Members) : ¬ Members.has (longerName records) records := by
  intro hhas
  obtain ⟨m, hm, hname⟩ := Members.has_iff.1 hhas
  have hle := length_le_longest hm
  rw [hname, length_longerName] at hle
  omega

theorem longerName_ne_empty (records : Members) : longerName records ≠ "" := by
  intro h
  have hlength := length_longerName records
  simp [h] at hlength

/-- Nothing is kept yet, and every new name is longer than those before it. -/
def blank : Storage := ⟨[], longerName, longerName_new, longerName_ne_empty⟩

/--
What an action gives, and the storage that it leaves behind, when it makes one request and that is
answered by a storage.
-/
def Gives {α : Type} (t : Storage) (act : SessionM α) (x : α) (t' : Storage) : Prop :=
  ∃ request outcome, t.answer request = some (outcome, t') ∧
    ∀ s : Session, act (s.expecting outcome) = .ok x (s.asked request)

variable {α : Type} {t t' : Storage} {inner : Meaning}

/-- An action that makes a request and takes the answer apart. -/
theorem gives_iff {request : Request} {f : Json → Except Failure α} {x : α} :
    t.Gives (call inner request >>= fun reply => attempt (f reply)) x t' ↔
      ∃ reply, t.answer request = some (.ok reply, t') ∧ f reply = .ok x := by
  constructor
  · -- a single session shows which request is made, and so what is answered
    rintro ⟨request', outcome, hanswer, hgives⟩
    have hone := hgives (Session.start ⟨Query.blank 0, []⟩ false)
    rw [bind_succeeds_iff] at hone
    obtain ⟨reply, s, hcall, hx⟩ := hone
    rw [call_expecting, attempt_succeeds_iff] at hcall
    obtain ⟨rfl, rfl⟩ := hcall
    obtain ⟨hx, hasked⟩ := attempt_succeeds_iff.1 hx
    rw [Session.asked_injective hasked] at hanswer
    exact ⟨reply, hanswer, hx⟩
  · rintro ⟨reply, hanswer, hx⟩
    refine ⟨request, .ok reply, hanswer, fun s => bind_succeeds_iff.2 ⟨reply, s.asked request, ?_⟩⟩
    rw [call_expecting]
    exact ⟨rfl, attempt_succeeds_iff.2 ⟨hx, rfl⟩⟩

/-- To read a record gives what is kept under the name, with an identifier. -/
theorem getRecord_gives_iff {name : String} {got : Members} :
    t.Gives (getRecord inner (.str name)) got t' ↔
      ∃ doc, t.records.lookup name = some doc ∧ t' = t ∧
        Record.ofDocument (.str name) (returned name doc) = .ok got := by
  have hanswer : t.answer (.getDocument (.str name)) =
      (t.records.lookup name).map fun doc => (.ok (returned name doc), t) := rfl
  rw [getRecord, gives_iff, hanswer]
  cases t.records.lookup name with
  | none => simp
  | some doc => simp [eq_comm]

/-- A record is not stored when there is nothing that it can be stored under. -/
theorem upsertRecord_fails {record : Json} {fault : Fault}
    (hid : Record.engineId record = .error fault) (s : Session) :
    upsertRecord inner record s = .error (.fault fault) s := by
  rw [upsertRecord, hid]
  rfl

/-- To store a record keeps it under its identifier, or where the storage places it. -/
theorem upsertRecord_gives_iff {record id r : Json} (hid : Record.engineId record = .ok id) :
    t.Gives (upsertRecord inner record) r t' ↔
      r = t.receipt (t.place id) ∧ t' = t.keep (t.place id) record := by
  have hcall : upsertRecord inner record =
      call inner (.indexDocument record id) >>= fun reply => attempt (.ok reply) := by
    rw [upsertRecord, hid]
    exact (bind_pure _).symm
  rw [hcall, gives_iff]
  simp [answer, eq_comm]

end Storage

namespace Record

/-- A record without an identifier, or with the identifier null, is stored under no name. -/
theorem engineId_obj (record : Members) :
    engineId (.obj record) = (record.lookup "id").elim (.ok .null) fun id =>
      if id = .null then .ok .null else id.text.map .str := by
  have hget : (Json.obj record).getD "id" .null = .ok ((record.lookup "id").getD .null) := rfl
  rw [engineId, hget]
  cases record.lookup "id" with
  | none => rfl
  | some id => cases id <;> rfl

/-- An identifier without a text is nothing that a record can be stored under. -/
theorem engineId_of_hasLongId {record : Members} (h : HasLongId record) :
    engineId (.obj record) = .error .value := by
  obtain ⟨own, hown, hlong⟩ := h
  have hnull : own ≠ .null := by
    rintro rfl
    exact hlong rfl
  rw [engineId_obj, hown, Option.elim_some, if_neg hnull, Json.text_of_not_isPrintable hlong]
  rfl

/-- A record with a name for its identifier, if it has none. -/
def named (name : String) (record : Members) : Members :=
  if Members.has "id" record then record else Members.insert "id" (.str name) record

theorem named_of_lookup {record : Members} {id : Json} (h : record.lookup "id" = some id)
    (name : String) : named name record = record :=
  if_pos (by simp [Members.has, h])

theorem lookup_named_of_none {record : Members} (h : record.lookup "id" = none) (name : String) :
    (named name record).lookup "id" = some (.str name) := by
  rw [named, if_neg (by simp [Members.has, h]), Members.lookup_insert, if_pos rfl]

/-- Only the identifier is added. -/
theorem lookup_named {field : String} (h : field ≠ "id") (name : String) (record : Members) :
    (named name record).lookup field = record.lookup field := by
  unfold named
  split
  · rfl
  · rw [Members.lookup_insert, if_neg h]

/-- A record is read back as it is kept, with its name if it has no identifier. -/
theorem ofDocument_returned (name : String) (record : Members) :
    ofDocument (.str name) (Storage.returned name (.obj record)) = .ok (named name record) := by
  have hsource : source (Storage.returned name (.obj record)) = .ok record := by
    cases record <;> rfl
  rw [ofDocument, hsource]
  show (if Members.has "id" record then _ else _) = _
  unfold named
  split <;> rfl

/--
A record is stored under the text of its identifier; when that names nothing it is stored like a
record without one.
-/
theorem place_engineId (t : Storage) {record : Members} (h : ¬ HasLongId record) :
    ∃ id, engineId (.obj record) = .ok id ∧
      (¬ HasVoidId record → ∀ own, record.lookup "id" = some own → own.text = .ok (t.place id)) ∧
      (HasVoidId record → t.place id = t.assign t.records) := by
  rw [engineId_obj]
  cases hlookup : record.lookup "id" with
  | none =>
    refine ⟨.null, rfl, fun _ => nofun, ?_⟩
    rintro ⟨own, hown, -⟩
    cases hlookup.symm.trans hown
  | some own =>
    have hprintable : own.isPrintable := by
      by_contra hlong
      exact h ⟨own, hlookup, hlong⟩
    obtain ⟨name, hname⟩ := Json.exists_text_iff.2 hprintable
    by_cases hnull : own = .null
    · refine ⟨.null, by rw [Option.elim_some, if_pos hnull], fun hvoid => ?_, fun _ => rfl⟩
      exact absurd ⟨own, hlookup, .inl hnull⟩ hvoid
    · refine ⟨.str name, by rw [Option.elim_some, if_neg hnull, hname]; rfl, fun hvoid => ?_, ?_⟩
      · rintro _ ⟨⟩
        have hne : name ≠ "" := by
          rintro rfl
          exact hvoid ⟨own, hlookup, .inr hname⟩
        rw [hname, Storage.place, if_neg hne]
      · rintro ⟨_, hown, hvoid⟩
        cases hlookup.symm.trans hown
        have hempty := hvoid.resolve_left hnull
        rw [hname] at hempty
        cases hempty
        rfl

end Record

namespace Storage

open Dataset

/-- What was kept under a name is read under it. -/
theorem keep_gives (inner : Meaning) (t : Storage) (name : String) (record : Members) :
    (t.keep name (.obj record)).Gives (getRecord inner (.str name)) (Record.named name record)
      (t.keep name (.obj record)) := by
  refine getRecord_gives_iff.2 ⟨.obj record, ?_, rfl, Record.ofDocument_returned name record⟩
  exact (Members.lookup_insert name name _ _).trans (if_pos rfl)

/--
**What is stored can be read back.**  A record is stored under a name that the storage reports, and
reading that name gives the record: no member but the identifier differs or is added.  The
identifier that is read has that name for its text, except that a record whose own identifier is
null or empty was stored under a new name, as one without an identifier is, and is read back as it
was given.  Only a record whose own identifier has no text is not stored: to store it fails, without
a request.
-/
theorem stored_record_is_read_back (inner : Meaning) (t : Storage) (record : Members) :
    (¬ Record.HasLongId record → ∃ name r got t',
      t.Gives (upsertRecord inner (.obj record)) r t' ∧ r.get? "_id" = .ok (some (.str name)) ∧
      t'.Gives (getRecord inner (.str name)) got t' ∧
      (∀ field, field ≠ "id" → got.lookup field = record.lookup field) ∧
      (¬ Record.HasVoidId record → ∃ id, got.lookup "id" = some id ∧ id.text = .ok name) ∧
      (Record.HasVoidId record →
        got = record ∧ name ≠ "" ∧ ¬ Members.has name t.records)) ∧
    (Record.HasLongId record →
      ∀ s, upsertRecord inner (.obj record) s = .error (.fault .value) s) := by
  refine ⟨fun h => ?_, fun h => upsertRecord_fails (Record.engineId_of_hasLongId h)⟩
  obtain ⟨id, hid, hown, hvoid⟩ := Record.place_engineId t h
  refine ⟨t.place id, t.receipt (t.place id), Record.named (t.place id) record,
    t.keep (t.place id) (.obj record), (upsertRecord_gives_iff hid).2 ⟨rfl, rfl⟩, rfl,
    keep_gives inner t _ record, fun field hfield => Record.lookup_named hfield _ record, ?_, ?_⟩
  · intro hnamed
    cases hlookup : record.lookup "id" with
    | none => exact ⟨_, Record.lookup_named_of_none hlookup _, rfl⟩
    | some own =>
      rw [Record.named_of_lookup hlookup]
      exact ⟨own, hlookup, hown hnamed own hlookup⟩
  · intro h
    rw [hvoid h]
    obtain ⟨own, hlookup, -⟩ := h
    exact ⟨Record.named_of_lookup hlookup _, t.assign_ne_empty _, t.assign_new _⟩

/-- A record that comes without an identifier is read back with the name that it was given, and one
that comes with an integer of one digit more than are written is not stored. -/
theorem stored_record_is_read_back_unnamed :
    (∃ name r got t',
      blank.Gives (upsertRecord (fun _ => pure .null) (.obj [("name", .str "x")])) r t' ∧
      r.get? "_id" = .ok (some (.str name)) ∧
      t'.Gives (getRecord (fun _ => pure .null) (.str name)) got t' ∧
      got.lookup "name" = some (.str "x") ∧
      ∃ id, got.lookup "id" = some id ∧ id.text = .ok name) ∧
    ∀ s, upsertRecord (fun _ => pure .null) (.obj [("id", .int (10 ^ 4300 : Nat))]) s =
      .error (.fault .value) s := by
  have hlong : ¬ Record.HasLongId [("name", .str "x")] := by
    rintro ⟨id, hid, -⟩
    cases hid
  have hvoid : ¬ Record.HasVoidId [("name", .str "x")] := by
    rintro ⟨id, hid, -⟩
    cases hid
  constructor
  · obtain ⟨name, r, got, t', hstored, hname, hgot, hfields, hid, -⟩ :=
      (stored_record_is_read_back (fun _ => pure .null) blank [("name", .str "x")]).1 hlong
    exact ⟨name, r, got, t', hstored, hname, hgot, hfields "name" (by decide), hid hvoid⟩
  · exact (stored_record_is_read_back (fun _ => pure .null) blank
      [("id", .int (10 ^ 4300 : Nat))]).2 ⟨_, rfl, Numeral.not_isWritable_pow⟩

/-- A record with the identifier null is stored under a new name, and not read back with it. -/
theorem null_identifier_is_read_back :
    ∃ t',
      blank.Gives (upsertRecord (fun _ => pure .null) (.obj [("id", .null), ("name", .str "x")]))
        (.obj [("_id", .str "a"), ("result", .str "created")]) t' ∧
      ∀ got t'', t'.Gives (getRecord (fun _ => pure .null) (.str "a")) got t'' →
        ¬ ∃ id, got.lookup "id" = some id ∧ id.text = .ok "a" := by
  refine ⟨_, (upsertRecord_gives_iff (Record.engineId_obj _)).2 ⟨by decide +kernel, rfl⟩, ?_⟩
  intro got t'' hgives
  obtain ⟨doc, hdoc, -, hgot⟩ := getRecord_gives_iff.1 hgives
  have hkept : doc = .obj [("id", .null), ("name", .str "x")] :=
    Option.some.inj (hdoc.symm.trans (by decide +kernel))
  rw [hkept, Record.ofDocument_returned] at hgot
  cases hgot
  rintro ⟨id, hid, htext⟩
  cases hid
  exact absurd htext (by decide)

end Storage

end FacetedSearch
