import FacetedSearch.Proofs.Search.Meaning
import FacetedSearch.Proofs.Validation.Reading
import FacetedSearch.Result.Mapping

/-!
# What a response that maps looks like

A response from the engine may have any shape.  When it maps, it is an object without an error, what
it holds under its headings are objects and lists of objects, and each part of the result was made
from the part of the response in its place.

* `Engine.named`, `Engine.counted?` — the members and the parts of what the engine sent.
* `Engine.Named`, `Engine.Listed` — that there is nothing of another shape in their place.
* `Mapping.document_eq_ok`, `Mapping.aggregation_eq_ok`, `Mapping.selectBuckets_eq_ok_iff`,
  `FacetResult.read_eq_ok_iff`, `Bucket.read_eq_ok_iff` — where the parts of a result come from.
* `Query.mapResponse_of_error` — a response that reports an error.
* `Query.mapResponse_eq_ok` — a response that maps, part by part.
-/

set_option autoImplicit false

namespace FacetedSearch

theorem Json.orFail_eq_ok_iff {α : Type} {x : Except Fault α} {y : α} :
    Json.orFail x = .ok y ↔ x = .ok y := by
  cases x <;> simp [Json.orFail]

/-! ## Parts of what the engine sent -/

namespace Engine

/-- The members of an object; no other value has any. -/
def membersOf : Json → Members
  | .obj ms => ms
  | _ => []

/-- The items of a list; no other value has any. -/
def itemsOf : Json → List Json
  | .arr xs => xs
  | _ => []

/-- The members of the object under a name; there may be none. -/
def named (name : String) (x : Json) : Members := (part? name x).elim [] membersOf

/-- The part under a name, if it counts as present. -/
def counted? (name : String) (x : Json) : Option Json := (part? name x).filter Json.isTruthy

/-- The hits that a response holds. -/
def hits (response : Json) : List Json := listed "hits" (.obj (named "hits" response))

/-- What counts under the name is an object; nothing may. -/
def Named (name : String) (x : Json) : Prop :=
  (counted? name x).getD (.obj []) = .obj (named name x)

/-- What counts under the name is a list; nothing may. -/
def Listed (name : String) (x : Json) : Prop :=
  (counted? name x).getD (.arr []) = .arr (listed name x)

theorem listed_eq_elim (name : String) (x : Json) : listed name x = (part? name x).elim [] itemsOf := by
  unfold listed
  cases part? name x with
  | none => rfl
  | some y => cases y <;> rfl

/-- An object or a list that does not count is empty. -/
theorem empty_of_not_isTruthy {y : Json} (h : y.isTruthy = false) :
    membersOf y = [] ∧ itemsOf y = [] := by
  cases y with
  | obj ms =>
    cases ms with
    | nil => exact ⟨rfl, rfl⟩
    | cons => cases h
  | arr xs =>
    cases xs with
    | nil => exact ⟨rfl, rfl⟩
    | cons => cases h
  | null | bool | int | float | str => exact ⟨rfl, rfl⟩

/-- Leaving out what does not count leaves out nothing, be it an object or a list that is wanted. -/
theorem eq_elim_of_counted {α : Type} {wrap : List α → Json} {open? : Json → List α}
    (hopen : ∀ xs, open? (wrap xs) = xs) (hempty : ∀ y : Json, y.isTruthy = false → open? y = [])
    {name : String} {x : Json} {xs : List α}
    (h : (counted? name x).getD (wrap []) = wrap xs) : xs = (part? name x).elim [] open? := by
  unfold counted? at h
  cases hx : part? name x with
  | none =>
    rw [hx] at h
    rw [← hopen xs, ← show wrap [] = wrap xs from h, hopen]
    rfl
  | some y =>
    rw [hx] at h
    cases hy : y.isTruthy with
    | true =>
      have hwrap : y = wrap xs := by simpa [Option.filter, hy] using h
      rw [hwrap, Option.elim_some, hopen]
    | false =>
      have hnil : wrap [] = wrap xs := by simpa [Option.filter, hy] using h
      rw [← hopen xs, ← hnil, hopen, Option.elim_some, hempty y hy]

theorem named_of_counted {name : String} {x : Json} {ms : Members}
    (h : (counted? name x).getD (.obj []) = .obj ms) : ms = named name x ∧ Named name x := by
  have hms : ms = named name x :=
    eq_elim_of_counted (fun _ => rfl) (fun _ hy => (empty_of_not_isTruthy hy).1) h
  exact ⟨hms, by rw [Named, h, hms]⟩

theorem listed_of_counted {name : String} {x : Json} {xs : List Json}
    (h : (counted? name x).getD (.arr []) = .arr xs) : xs = listed name x ∧ Listed name x := by
  have hxs : xs = listed name x := by
    rw [listed_eq_elim]
    exact eq_elim_of_counted (fun _ => rfl) (fun _ hy => (empty_of_not_isTruthy hy).2) h
  exact ⟨hxs, by rw [Listed, h, hxs]⟩

/-- Whatever can be walked through from object to object is a list. -/
theorem eq_arr_of_elements {y : Json} {xs : List Json} (hy : y.isTruthy = true ∨ y = .arr [])
    (h : y.elements = .ok xs) (hobjects : ∀ x ∈ xs, ∃ ms, x = .obj ms) : y = .arr xs := by
  cases y with
  | arr items =>
    cases h
    rfl
  | str s =>
    cases h
    -- a text that counts has a first character, and that is no object
    cases hs : s.toList with
    | nil =>
      have hempty : s = "" := by simpa using hs
      simp [hempty, Json.isTruthy] at hy
    | cons c cs =>
      obtain ⟨ms, hc⟩ := hobjects (.str (String.singleton c)) (by simp [hs])
      cases hc
  | obj ms =>
    cases h
    -- neither is the first of its names
    cases ms with
    | nil => simp [Json.isTruthy] at hy
    | cons m ms =>
      obtain ⟨ns, hm⟩ := hobjects (.str m.1) (by simp)
      cases hm
  | null | bool | int | float => cases h

/-- What is walked through under a name is the list there, when all of it are objects. -/
theorem listed_of_elements {name : String} {x : Json} {xs : List Json}
    (h : ((counted? name x).getD (.arr [])).elements = .ok xs)
    (hobjects : ∀ y ∈ xs, ∃ ms, y = .obj ms) : xs = listed name x ∧ Listed name x := by
  refine listed_of_counted (eq_arr_of_elements ?_ h hobjects)
  unfold counted?
  cases part? name x with
  | none => exact .inr rfl
  | some y => cases hy : y.isTruthy <;> simp [Option.filter, hy]

end Engine

open Engine

namespace Mapping

theorem members_eq_ok_iff {x : Json} {ms : Members} : x.members = .ok ms ↔ x = .obj ms := by
  cases x <;> simp [Json.members]

theorem get?_eq_ok_iff {x : Json} {key : String} {y : Option Json} :
    x.get? key = .ok y ↔ (∃ ms, x = .obj ms) ∧ y = part? key x := by
  cases x <;> simp [Json.get?, Json.members, Except.map, part?, eq_comm]

theorem present?_eq_ok_iff {name : String} {x : Json} {y : Option Json} :
    present? name x = .ok y ↔ (∃ ms, x = .obj ms) ∧ y = counted? name x := by
  unfold present?
  rw [bind_eq_ok_iff]
  constructor
  · rintro ⟨z, hz, h⟩
    obtain ⟨hx, rfl⟩ := get?_eq_ok_iff.1 hz
    cases h
    exact ⟨hx, rfl⟩
  · rintro ⟨hx, rfl⟩
    exact ⟨part? name x, get?_eq_ok_iff.2 ⟨hx, rfl⟩, rfl⟩

theorem section?_eq_ok {heading : String} {response : Json} {ms : Members}
    (h : section? heading response = .ok ms) :
    ms = named heading response ∧ Named heading response := by
  obtain ⟨y, hy, hms⟩ := bind_eq_ok_iff.1 h
  obtain ⟨-, rfl⟩ := present?_eq_ok_iff.1 hy
  exact named_of_counted (members_eq_ok_iff.1 hms)

/-- Named parts are mapped one by one, in order. -/
theorem parts_eq_ok_iff {α : Type} {f : String → Json → Except Failure α} {ms : Members}
    {ns : List (String × α)} :
    parts f ms = .ok ns ↔ List.Forall₂ (fun m n => n.1 = m.1 ∧ f m.1 m.2 = .ok n.2) ms ns := by
  induction ms generalizing ns with
  | nil => rw [List.forall₂_nil_left_iff, parts, Except.ok.injEq, eq_comm]
  | cons m ms ih =>
    obtain ⟨name, x⟩ := m
    rw [parts, bind_eq_ok_iff, List.forall₂_cons_left_iff]
    constructor
    · rintro ⟨y, hy, h⟩
      obtain ⟨ys, hys, h⟩ := bind_eq_ok_iff.1 h
      cases h
      exact ⟨(name, y), ys, ⟨rfl, hy⟩, ih.1 hys, rfl⟩
    · rintro ⟨⟨_, y⟩, ys, ⟨rfl, hy⟩, hys, rfl⟩
      exact ⟨y, hy, bind_eq_ok_iff.2 ⟨ys, ih.2 hys, rfl⟩⟩

end Mapping

/-! ## Documents -/

namespace Members

/-- The members with one more under a name, if there is something to put there. -/
def insertGiven (name : String) (x : Option Json) (ms : Members) : Members :=
  match x with
  | some x => insert name x ms
  | none => ms

theorem lookup_insertGiven (name key : String) (x : Option Json) (ms : Members) :
    (insertGiven name x ms).lookup key = if key = name then x.or (ms.lookup key) else ms.lookup key := by
  cases x with
  | none => simp [insertGiven]
  | some x => rw [insertGiven, lookup_insert, Option.some_or]

theorem has_insertGiven_of_ne {name key : String} (h : key ≠ name) (x : Option Json) (ms : Members) :
    has key (insertGiven name x ms) = has key ms := by
  rw [has, lookup_insertGiven, if_neg h, has]

theorem map_fst_insertGiven (name : String) (x : Option Json) (ms : Members) :
    (insertGiven name x ms).map Prod.fst =
      ms.map Prod.fst ++ if x.isSome = true ∧ ¬ has name ms then [name] else [] := by
  cases x with
  | none => simp [insertGiven]
  | some x =>
    rw [insertGiven, map_fst_insert]
    cases has name ms <;> simp

theorem without_insert {names : List String} {name : String} (h : name ∈ names) (x : Json)
    (ms : Members) : without names (insert name x ms) = without names ms := by
  induction ms with
  | nil =>
    rw [insert, without, List.filter_cons_of_neg (by simp [h])]
    rfl
  | cons m ms ih =>
    obtain ⟨k, y⟩ := m
    unfold without at ih ⊢
    by_cases hk : k = name
    · subst hk
      rw [insert, if_pos rfl, List.filter_cons_of_neg (by simp [h]),
        List.filter_cons_of_neg (by simp [h])]
    · rw [insert, if_neg hk, List.filter_cons, List.filter_cons, ih]

theorem without_insertGiven {names : List String} {name : String} (h : name ∈ names)
    (x : Option Json) (ms : Members) : without names (insertGiven name x ms) = without names ms := by
  cases x with
  | none => rfl
  | some x => exact without_insert h x ms

/-- Leaving names out twice is leaving out the most of them. -/
theorem without_without {names more : List String} (h : names ⊆ more) (ms : Members) :
    without more (without names ms) = without more ms := by
  unfold without
  rw [List.filter_filter]
  refine List.filter_congr fun m _ => ?_
  by_cases hm : m.1 ∈ more
  · simp [hm]
  · have hn : m.1 ∉ names := fun hn => hm (h hn)
    simp [hm, hn]

end Members

namespace Mapping

open Members

theorem setMember_eq_ok_iff {name : String} {x y z : Json} :
    setMember name x y = .ok z ↔ ∃ ms, y = .obj ms ∧ z = .obj (insert name x ms) := by
  cases y <;> simp [setMember, eq_comm]

/-- Give a value a member, if there is one to give. -/
def setGiven (name : String) (x : Option Json) (y : Json) : Except Fault Json :=
  match x with
  | some x => setMember name x y
  | none => .ok y

/-- What comes out as an object was one before. -/
theorem setGiven_eq_ok {name : String} {x : Option Json} {y : Json} {ms : Members}
    (h : setGiven name x y = .ok (.obj ms)) : ∃ ns, y = .obj ns ∧ ms = insertGiven name x ns := by
  cases x with
  | none =>
    cases h
    exact ⟨ms, rfl, rfl⟩
  | some x =>
    obtain ⟨ns, rfl, hz⟩ := setMember_eq_ok_iff.1 h
    cases hz
    exact ⟨ns, rfl, rfl⟩

/-- The source first, then the identifier, then the matches. -/
theorem document_eq (hit : Json) :
    document hit = (do
      let source ← present? "_source" hit
      let hasId ← (source.getD (.obj [])).mentions "id"
      let assigned ← (if hasId then .ok none else present? "_id" hit : Except Fault (Option Json))
      let identified ← setGiven "id" assigned (source.getD (.obj []))
      let marks ← present? "highlight" hit
      setGiven "highlight" marks identified) := by
  unfold document
  cases present? "_source" hit with
  | error e => rfl
  | ok source =>
    simp only [bind, Except.bind]
    cases (source.getD (.obj [])).mentions "id" with
    | error e => rfl
    | ok hasId =>
      cases hasId with
      | true => rfl
      | false =>
        cases present? "_id" hit with
        | error e => rfl
        | ok assigned => cases assigned <;> rfl

/-- A record is the source of its hit, an identifier and the marked matches being put in. -/
theorem document_eq_ok {hit : Json} {doc : Members} (h : document hit = .ok (.obj doc)) :
    Named "_source" hit ∧
      doc = insertGiven "highlight" (counted? "highlight" hit)
        (insertGiven "id"
          (if has "id" (named "_source" hit) then none else counted? "_id" hit)
          (named "_source" hit)) := by
  rw [document_eq] at h
  obtain ⟨source?, hsource, h⟩ := bind_eq_ok_iff.1 h
  obtain ⟨-, rfl⟩ := present?_eq_ok_iff.1 hsource
  obtain ⟨hasId, hmentions, h⟩ := bind_eq_ok_iff.1 h
  obtain ⟨assigned, hassigned, h⟩ := bind_eq_ok_iff.1 h
  obtain ⟨identified, hidentified, h⟩ := bind_eq_ok_iff.1 h
  obtain ⟨marks, hmarks, h⟩ := bind_eq_ok_iff.1 h
  obtain ⟨-, rfl⟩ := present?_eq_ok_iff.1 hmarks
  obtain ⟨ns, rfl, rfl⟩ := setGiven_eq_ok h
  obtain ⟨source, hobject, rfl⟩ := setGiven_eq_ok hidentified
  rw [hobject] at hmentions
  cases hmentions
  obtain ⟨rfl, hnamed⟩ := named_of_counted hobject
  refine ⟨hnamed, ?_⟩
  by_cases hid : has "id" (named "_source" hit) = true
  · rw [if_pos hid] at hassigned ⊢
    cases hassigned
    rfl
  · rw [if_neg hid] at hassigned ⊢
    obtain ⟨-, rfl⟩ := present?_eq_ok_iff.1 hassigned
    rfl

theorem isObject_of_document {hit doc : Json} (h : document hit = .ok doc) :
    ∃ ms, hit = .obj ms := by
  rw [document_eq] at h
  obtain ⟨_, hsource, -⟩ := bind_eq_ok_iff.1 h
  exact (present?_eq_ok_iff.1 hsource).1

/-- Every hit of a list becomes a record, in order. -/
theorem documents_eq_ok {hits : Json} {docs : List Json} (h : documents hits = .ok docs) :
    Listed "hits" hits ∧
      List.Forall₂ (fun x doc => document x = .ok doc) (listed "hits" hits) docs := by
  obtain ⟨raw, hraw, h⟩ := bind_eq_ok_iff.1 h
  obtain ⟨-, rfl⟩ := present?_eq_ok_iff.1 hraw
  obtain ⟨xs, hxs, h⟩ := bind_eq_ok_iff.1 h
  have hall := mapM_eq_ok_iff.1 h
  have hobjects := forall_mem_of_forall₂ hall fun _ _ => isObject_of_document
  obtain ⟨hlisted, hshape⟩ := listed_of_elements hxs hobjects
  exact ⟨hshape, hlisted ▸ hall⟩

end Mapping

/-! ## Facets and buckets -/

open Checked in
theorem FacetResult.read_eq_ok_iff {ms : Members} {f : FacetResult} :
    FacetResult.read ms = .ok f ↔
      defaulted ms "id" string "" = .ok f.id ∧
      aliased ms "_type" "kind" string "terms" = .ok f.kind ∧
      defaulted ms "total" integer 0 = .ok f.total ∧
      defaulted ms "other" integer 0 = .ok f.other ∧
      defaulted ms "missing" integer 0 = .ok f.missing ∧
      defaulted ms "terms" (list record) [] = .ok f.terms ∧
      f.extra = Members.without (FacetResult.known ms) ms := by
  unfold FacetResult.read
  simp only [Checked.seq_eq_ok_iff, Checked.map_eq_ok_iff]
  constructor
  · rintro ⟨_, terms, ⟨_, missing, ⟨_, other, ⟨_, total, ⟨_, kind, ⟨id, hid, rfl⟩, hkind, rfl⟩,
      htotal, rfl⟩, hother, rfl⟩, hmissing, rfl⟩, hterms, rfl⟩
    exact ⟨hid, hkind, htotal, hother, hmissing, hterms, rfl⟩
  · rintro ⟨hid, hkind, htotal, hother, hmissing, hterms, hextra⟩
    exact ⟨_, f.terms, ⟨_, f.missing, ⟨_, f.other, ⟨_, f.total, ⟨_, f.kind, ⟨f.id, hid, rfl⟩, hkind,
      rfl⟩, htotal, rfl⟩, hother, rfl⟩, hmissing, rfl⟩, hterms, hextra ▸ rfl⟩

open Checked in
theorem Bucket.read_eq_ok_iff {ms : Members} {b : Bucket} :
    Bucket.read ms = .ok b ↔
      b.key = (ms.lookup "key").getD .null ∧
      defaulted ms "doc_count" integer 0 = .ok b.docCount ∧
      defaulted ms "selected" boolean false = .ok b.selected ∧
      b.extra = Members.without Bucket.known ms := by
  unfold Bucket.read
  simp only [Checked.seq_eq_ok_iff, Checked.map_eq_ok_iff, Checked.defaulted_anything]
  constructor
  · rintro ⟨_, selected, ⟨_, count, ⟨key, hkey, rfl⟩, hcount, rfl⟩, hselected, rfl⟩
    exact ⟨hkey, hcount, hselected, rfl⟩
  · rintro ⟨hkey, hcount, hselected, hextra⟩
    exact ⟨_, b.selected, ⟨_, b.docCount, ⟨b.key, hkey, rfl⟩, hcount, rfl⟩, hselected, hextra ▸ rfl⟩

namespace Mapping

theorem facet_eq_ok_iff {name : String} {raw : Json} {f : FacetResult} :
    facet name raw = .ok f ↔
      ∃ ms, raw = .obj ms ∧ FacetResult.read (Members.insert "id" (.str name) ms) = .ok f := by
  cases raw <;> simp [facet, Checked.orFail_eq_ok_iff]

/-- Buckets are read one by one, and then selected by the terms. -/
theorem selectBuckets_eq_ok_iff {terms : List Json} {xs : List Json} {bs : List Bucket} :
    selectBuckets terms xs = .ok bs ↔
      List.Forall₂ (fun x b => ∃ ms c, x = .obj ms ∧ Bucket.read ms = .ok c ∧ b = selectIn terms c)
        xs bs := by
  have hmodel : ∀ {x : Json} {c : Bucket},
      (Checked.model .modelType Bucket.read x).orFail = .ok c ↔
        ∃ ms, x = .obj ms ∧ Bucket.read ms = .ok c := by
    intro x c
    cases x <;> simp [Checked.model, Checked.orFail_eq_ok_iff, Checked.refuse]
  induction xs generalizing bs with
  | nil => rw [List.forall₂_nil_left_iff, selectBuckets, Except.ok.injEq, eq_comm]
  | cons x xs ih =>
    rw [selectBuckets, bind_eq_ok_iff, List.forall₂_cons_left_iff]
    constructor
    · rintro ⟨c, hc, h⟩
      obtain ⟨cs, hcs, h⟩ := bind_eq_ok_iff.1 h
      obtain ⟨ms, hx, hread⟩ := hmodel.1 hc
      cases h
      exact ⟨_, cs, ⟨ms, c, hx, hread, rfl⟩, ih.1 hcs, rfl⟩
    · rintro ⟨_, cs, ⟨ms, c, hx, hread, rfl⟩, hcs, rfl⟩
      exact ⟨c, hmodel.2 ⟨ms, hx, hread⟩, bind_eq_ok_iff.2 ⟨cs, ih.2 hcs, rfl⟩⟩

/-- One aggregation: its field and its kind, and its buckets as the filters on the field select
them. -/
theorem aggregation_eq_ok {q : Query} {key : String} {raw : Json} {a : AggregationResult}
    (h : aggregation q key raw = .ok a) :
    ∃ ms, raw = .obj ms ∧ Listed "buckets" raw ∧
      fieldAndKind q key ((counted? "buckets" raw).getD (.arr [])) = .ok (a.id, a.kind) ∧
      selectBuckets (termsOn q a.id) (listed "buckets" raw) = .ok a.buckets ∧
      a.key = key ∧ a.selected = q.lastFilter? a.id ∧
      a.extra = Members.without AggregationResult.known ms := by
  obtain ⟨buckets, hbuckets, h⟩ := bind_eq_ok_iff.1 h
  obtain ⟨-, rfl⟩ := present?_eq_ok_iff.1 (Json.orFail_eq_ok_iff.1 hbuckets)
  obtain ⟨⟨field, kind⟩, hkind, h⟩ := bind_eq_ok_iff.1 h
  obtain ⟨ms, hms, h⟩ := bind_eq_ok_iff.1 h
  obtain ⟨xs, hxs, h⟩ := bind_eq_ok_iff.1 h
  obtain ⟨bs, hbs, h⟩ := bind_eq_ok_iff.1 h
  cases h
  have hobjects : ∀ x ∈ xs, ∃ ns, x = .obj ns :=
    forall_mem_of_forall₂ (selectBuckets_eq_ok_iff.1 hbs) fun _ _ ⟨ns, _, hx, _⟩ => ⟨ns, hx⟩
  obtain ⟨rfl, hshape⟩ := listed_of_elements (Json.orFail_eq_ok_iff.1 hxs) hobjects
  exact ⟨ms, members_eq_ok_iff.1 (Json.orFail_eq_ok_iff.1 hms), hshape,
    Json.orFail_eq_ok_iff.1 hkind, hbs, rfl, rfl, rfl⟩

end Mapping

/-! ## Responses -/

namespace Query

open Mapping

/-- How a response and the result that it maps to belong together. -/
structure MapsTo (q : Query) (response : Json) (r : SearchResult) : Prop where
  sound : ∃ ms, response = .obj ms ∧ Members.has "error" ms = false
  hitsNamed : Named "hits" response
  hitsListed : Listed "hits" (.obj (named "hits" response))
  facetsNamed : Named "facets" response
  aggregationsNamed : Named "aggregations" response
  total : Mapping.total (.obj (named "hits" response)) = .ok r.total
  hits : List.Forall₂ (fun x doc => document x = .ok (.obj doc)) (Engine.hits response) r.hits
  facets : List.Forall₂ (fun m f => f.1 = m.1 ∧ facet m.1 m.2 = .ok f.2)
    (named "facets" response) r.facets
  aggregations : List.Forall₂ (fun m a => a.1 = m.1 ∧ aggregation q m.1 m.2 = .ok a.2)
    (named "aggregations" response) r.aggregations

/-- A response that reports an error has no result. -/
theorem mapResponse_of_error (q : Query) {ms : Members} (h : Members.has "error" ms = true) :
    q.mapResponse (.obj ms) =
      .error (.queryFailed ((ms.lookup "status").getD (.int 500)) (.obj ms)) := by
  unfold mapResponse
  simp only [Json.mentions, h]
  rfl

/-- **A response that maps belongs to its result**, part by part. -/
theorem mapResponse_eq_ok {q : Query} {response : Json} {r : SearchResult}
    (h : q.mapResponse response = .ok r) : q.MapsTo response r := by
  obtain ⟨reported, hreported, h⟩ := bind_eq_ok_iff.1 h
  cases reported with
  | true =>
    obtain ⟨status, -, h⟩ := bind_eq_ok_iff.1 h
    cases h
  | false =>
    obtain ⟨found, hfound, h⟩ := bind_eq_ok_iff.1 h
    obtain ⟨⟨ms, hms⟩, rfl⟩ := present?_eq_ok_iff.1 (Json.orFail_eq_ok_iff.1 hfound)
    obtain ⟨total, htotal, h⟩ := bind_eq_ok_iff.1 h
    obtain ⟨docs, hdocs, h⟩ := bind_eq_ok_iff.1 h
    obtain ⟨hits, hhits, h⟩ := bind_eq_ok_iff.1 h
    obtain ⟨rawFacets, hrawFacets, h⟩ := bind_eq_ok_iff.1 h
    obtain ⟨facets, hfacets, h⟩ := bind_eq_ok_iff.1 h
    obtain ⟨rawAggregations, hrawAggregations, h⟩ := bind_eq_ok_iff.1 h
    obtain ⟨aggregations, haggregations, h⟩ := bind_eq_ok_iff.1 h
    cases h
    -- what stands for the hits is an object, since its total was read
    have hobject : ∃ ns, (counted? "hits" response).getD (.obj []) = .obj ns := by
      obtain ⟨x, hx, -⟩ := bind_eq_ok_iff.1 (Json.orFail_eq_ok_iff.1 htotal)
      exact (get?_eq_ok_iff.1 hx).1
    obtain ⟨ns, hns⟩ := hobject
    obtain ⟨rfl, hitsNamed⟩ := named_of_counted hns
    rw [hns] at htotal hdocs
    obtain ⟨hitsListed, hall⟩ := documents_eq_ok (Json.orFail_eq_ok_iff.1 hdocs)
    obtain ⟨rfl, facetsNamed⟩ := section?_eq_ok (Json.orFail_eq_ok_iff.1 hrawFacets)
    obtain ⟨rfl, aggregationsNamed⟩ := section?_eq_ok (Json.orFail_eq_ok_iff.1 hrawAggregations)
    have hrecords := Checked.items_eq_ok_iff.1
      (Checked.under_eq_ok_iff.1 (Checked.orFail_eq_ok_iff.1 hhits))
    refine
      { sound := ⟨ms, hms, ?_⟩
        hitsNamed, hitsListed, facetsNamed, aggregationsNamed
        total := Json.orFail_eq_ok_iff.1 htotal
        hits := ?_
        facets := parts_eq_ok_iff.1 hfacets
        aggregations := parts_eq_ok_iff.1 haggregations }
    · rw [hms] at hreported
      exact Except.ok.inj (Json.orFail_eq_ok_iff.1 hreported)
    · have hdocs' : docs = hits.map Json.obj := by
        rw [← List.forall₂_eq_eq_eq, List.forall₂_map_right_iff]
        exact hrecords.imp fun _ _ hx => Checked.record_eq_ok_iff.1 hx
      rwa [hdocs', List.forall₂_map_right_iff] at hall

end Query

end FacetedSearch
