import FacetedSearch.Proofs.Json.Printable
import FacetedSearch.Proofs.Query.Coherence
import FacetedSearch.Proofs.Query.RoundTrip

/-!
# How filters are let in

A filter comes into a query in two ways: among the members of an object that the query is read from,
or by a call that adds it.  The first way finds the kind under the tag while it reads the whole list,
the second one looks the kind up and then reads the filter.  Both let in the same filters.  The kinds
are looked at before all else when a query is read, so that an object that is tagged with no known
kind is what is reported, whatever else is wrong.  Only a tag that cannot be written is reported among
all that is wrong.

* `Filter.Tagged`, `Filter.Untagged` — objects that are tagged with a kind, and with none.
* `Filter.readFilter_eq_ok_iff`, `Filter.parse_eq_ok_iff` — the two ways in.
* `QueryM.addFilters` — objects that are added as filters, one after another.
* `Query.read_of_unsupported`, `Query.read_of_nameless` — what comes of a kind that is not known.
* `Query.filters_let_in_alike` — a query that is read with filters, and one that they are added to.
-/

set_option autoImplicit false

namespace FacetedSearch

open Checked Validation

/-! ## Tags -/

namespace FilterKind

theorem ofName?_eq_some_iff {s : String} {kind : FilterKind} :
    ofName? s = some kind ↔ s = kind.name := by
  constructor
  · intro h
    have hname := List.find?_some h
    exact (eq_of_beq hname).symm
  · rintro rfl
    exact kind.ofName?_name

/-- A kind goes by its name alone. -/
theorem ofTag_eq_ok_iff {tag : Json} {kind : FilterKind} :
    ofTag tag = .ok kind ↔ tag = .str kind.name := by
  cases tag with
  | str s =>
    rw [Json.str.injEq, ← ofName?_eq_some_iff, ofTag_str]
    cases ofName? s <;> simp
  | null | bool | int | float | arr | obj =>
    refine ⟨fun h => ?_, nofun⟩
    unfold ofTag at h
    split at h
    · obtain ⟨_, -, h⟩ := bind_eq_ok_iff.1 h
      cases h
    · cases h

/-- What is no string is not looked for among the names. -/
theorem ofTag_of_atom {tag : Json} (hatom : tag.isAtom) (hstr : ∀ s, tag ≠ .str s) :
    ofTag tag = Json.orFail tag.text >>= fun named => .error (.unsupportedFilterKind named) := by
  cases tag with
  | str s => exact absurd rfl (hstr s)
  | null | bool | int | float => rfl
  | arr | obj => cases hatom

/-- What can be looked up and names no kind is reported by its text. -/
theorem ofTag_of_unknown {tag : Json} (hatom : tag.isAtom)
    (hunknown : ∀ kind : FilterKind, tag ≠ .str kind.name) {named : String}
    (htext : tag.text = .ok named) : ofTag tag = .error (.unsupportedFilterKind named) := by
  cases tag with
  | str s =>
    have hnone : ofName? s = none := by
      refine Option.eq_none_iff_forall_ne_some.2 fun kind h => hunknown kind ?_
      rw [ofName?_eq_some_iff.1 h]
    cases htext
    rw [ofTag_str, hnone]
    rfl
  | null | bool | int | float =>
    rw [ofTag_of_atom hatom (by simp), htext]
    rfl
  | arr | obj => cases hatom

/-- What can be looked up but not be written is a misuse. -/
theorem ofTag_of_not_isPrintable {tag : Json} (hatom : tag.isAtom) (h : ¬ tag.isPrintable) :
    ofTag tag = .error (.fault .value) := by
  cases tag with
  | int n =>
    rw [ofTag_of_atom hatom (by simp), Json.text_of_not_isPrintable h]
    rfl
  | null | bool | float | str => exact absurd rfl h
  | arr | obj => cases hatom

end FilterKind

namespace Filter

/-- An object is tagged with a kind. -/
def Tagged (ms : Members) (kind : FilterKind) : Prop := tagOf ms = .str kind.name

/-- An object has no tag, or one that names no kind.  A tag that is an array or an object cannot even
be looked up, and is not meant. -/
def Untagged (ms : Members) : Prop := (tagOf ms).isAtom ∧ ∀ kind, ¬ Tagged ms kind

variable {ms : Members} {f : Filter}

theorem tagged_iff {kind : FilterKind} :
    Tagged ms kind ↔ ms.lookup "type" = some (.str kind.name) := by
  unfold Tagged tagOf
  cases ms.lookup "type" <;> simp

/-- The tag of an object that can be written can be written. -/
theorem isPrintable_tagOf (h : (Json.obj ms).isPrintable) : (tagOf ms).isPrintable := by
  unfold tagOf
  cases hlookup : ms.lookup "type" with
  | none => rfl
  | some tag => exact Json.membersArePrintable_iff.1 h _ (Members.mem_of_lookup hlookup)

/-! ## The two ways in -/

/-- Among the members of a query, an object is read as a filter of the kind that it is tagged with. -/
theorem readFilter_eq_ok_iff :
    Query.readFilter (.obj ms) = .ok f ↔ ∃ kind, Tagged ms kind ∧ read kind ms = .ok f := by
  constructor
  · intro h
    obtain ⟨tag, check, hlookup, hchoose, hcheck⟩ := of_tagged_eq_ok h
    obtain ⟨kind, hkind, rfl⟩ := Option.map_eq_some_iff.1 hchoose
    rw [FilterKind.ofName?_eq_some_iff.1 hkind] at hlookup
    exact ⟨kind, tagged_iff.2 hlookup, hcheck⟩
  · rintro ⟨kind, htag, h⟩
    rw [readFilter_of_kind (tagged_iff.1 htag), under_eq_ok_iff]
    exact h

/-- What is added is an object that is read as a filter of the kind that it is tagged with. -/
theorem parse_eq_ok_iff :
    parse (.obj ms) = .ok f ↔ ∃ kind, Tagged ms kind ∧ read kind ms = .ok f := by
  show (FilterKind.ofTag (tagOf ms) >>= fun kind => (read kind ms).orFail) = .ok f ↔ _
  simp only [bind_eq_ok_iff, FilterKind.ofTag_eq_ok_iff, orFail_eq_ok_iff, Tagged]

end Filter

namespace QueryM

/-- Objects are added as filters, one after another, up to the first that is refused. -/
def addFilters (silent : Bool) : List Members → QueryM Unit
  | [] => pure ()
  | ms :: rest => do
    discard (Mutation.addFilter (.obj ms) silent).perform
    addFilters silent rest

/-- Objects that are all let in are appended to the filters, and nothing else is done. -/
theorem addFilters_eq_ok_iff {silent : Bool} {xs : List Members} {q p : Query} :
    addFilters silent xs q = .ok () p ↔
      ∃ fs, List.Forall₂ (fun ms f => Filter.parse (.obj ms) = .ok f) xs fs ∧
        { q with filters := q.filters ++ fs } = p := by
  -- the first object leaves a query that the rest is added to
  induction xs generalizing q with
  | nil =>
    simp only [List.forall₂_nil_left_iff, exists_eq_left, List.append_nil]
    exact ⟨fun h => by cases h; rfl, fun h => by rw [← h]; rfl⟩
  | cons ms xs ih =>
    simp only [List.forall₂_cons_left_iff]
    cases hms : Filter.parse (.obj ms) with
    | error failure =>
      have hrefused : addFilters silent (ms :: xs) q = .error failure q := by
        simp only [addFilters, Mutation.perform, hms]
        rfl
      rw [hrefused]
      refine ⟨nofun, ?_⟩
      rintro ⟨_, ⟨f, fs, hf, -⟩, -⟩
      cases hf
    | ok f =>
      have hadded : addFilters silent (ms :: xs) q =
          addFilters silent xs { q with filters := q.filters ++ [f] } := by
        simp only [addFilters, Mutation.perform, hms]
        rfl
      rw [hadded, ih]
      constructor
      · rintro ⟨fs, hfs, h⟩
        rw [List.append_assoc] at h
        exact ⟨f :: fs, ⟨f, fs, rfl, hfs, rfl⟩, h⟩
      · rintro ⟨_, ⟨_, fs, hf, hfs, rfl⟩, h⟩
        cases hf
        refine ⟨fs, hfs, ?_⟩
        rw [List.append_assoc]
        exact h

end QueryM

namespace Query

/-- Objects that are tagged with known kinds, and values that are no objects, are passed over. -/
theorem checkKinds_append {before after : List Json}
    (h : ∀ ms, .obj ms ∈ before → ∃ kind, Filter.Tagged ms kind) :
    checkKinds (before ++ after) = checkKinds after := by
  induction before with
  | nil => rfl
  | cons x before ih =>
    have hrest := ih fun ms hms => h ms (List.mem_cons_of_mem x hms)
    cases x with
    | obj ms =>
      obtain ⟨kind, htag⟩ := h ms List.mem_cons_self
      rw [List.cons_append, checkKinds, FilterKind.ofTag_eq_ok_iff.2 htag]
      exact hrest
    | null | bool | int | float | str | arr => exact hrest

/-- The first object that is tagged with no known kind is what is found. -/
theorem checkKinds_of_untagged {before after : List Json} {ms : Members} {failure : Failure}
    (hms : FilterKind.ofTag (Filter.tagOf ms) = .error failure)
    (h : ∀ ns, .obj ns ∈ before → ∃ kind, Filter.Tagged ns kind) :
    checkKinds (before ++ .obj ms :: after) = .error failure := by
  rw [checkKinds_append h, checkKinds, hms]

/-- A kind that is found not to be known is reported, whatever else is wrong. -/
theorem read_of_unsupported {size : Int} {shape : Rule} {ms : Members} {xs : List Json}
    {kind : String} (hlookup : ms.lookup "filters" = some (.arr xs))
    (h : checkKinds xs = .error (.unsupportedFilterKind kind)) :
    read size shape (.obj ms) = .error (.unsupportedFilterKind kind) := by
  have hkinds : checkKindsIn (.arr xs) = .error (.unsupportedFilterKind kind) :=
    (checkKindsIn_arr xs).trans h
  have hnamed : hasNamelessKind (.arr xs) = false := by
    rw [hasNamelessKind, hkinds]
    rfl
  have hfilters : checkFilters ms = .error (.unsupportedFilterKind kind) := by
    unfold checkFilters
    rw [hlookup]
    dsimp only
    rw [hnamed, hkinds]
    rfl
  unfold read
  dsimp only
  rw [hfilters]
  rfl

/-- A kind that cannot even be named is what is wrong with the filters, beside whatever else is
wrong. -/
theorem read_of_nameless {size : Int} {shape : Rule} {ms : Members} {xs : List Json}
    (hlookup : ms.lookup "filters" = some (.arr xs)) (h : checkKinds xs = .error (.fault .value)) :
    ∃ causes, read size shape (.obj ms) = .error (.invalid causes) ∧
      ⟨[.key "filters"], .valueError, .arr xs⟩ ∈ causes := by
  have hnameless : hasNamelessKind (.arr xs) = true := by
    rw [hasNamelessKind, checkKindsIn_arr, h]
    rfl
  have hpart : (Part.filters.readAmong size shape ms).Blames
      ⟨[.key "filters"], .valueError, .arr xs⟩ := by
    have hread : Part.filters.read shape (.arr xs) = refuse .valueError (.arr xs) :=
      if_pos hnameless
    have hamong : Part.filters.readAmong size shape ms =
        (Part.filters.read shape (.arr xs)).under (.key "filters") :=
      Part.readAmong_of_lookup hlookup
    rw [hamong, hread]
    exact ⟨_, rfl, List.mem_singleton_self _⟩
  have hfilters : checkFilters ms = .ok () := by
    unfold checkFilters
    rw [hlookup]
    exact if_pos hnameless
  unfold read
  dsimp only
  rw [hfilters]
  exact (blames_readMembers hpart).orFail

/-- A query of which nothing but the filters is given. -/
theorem readMembers_filters (size : Int) (shape : Rule) (x : Json) :
    readMembers size shape [("filters", x)] =
      (fun fs => { blank size with filters := fs }) <$> (readFilters x).under (.key "filters") := by
  have hfilters : defaulted [("filters", x)] "filters" readFilters [] =
      (readFilters x).under (.key "filters") := rfl
  unfold readMembers
  rw [hfilters]
  cases (readFilters x).under (.key "filters") <;> rfl

/-- A list of objects is read as filters when each of them can be added. -/
theorem list_readFilter_eq_ok_iff {xs : List Members} {fs : List Filter} :
    list readFilter (.arr (xs.map .obj)) = .ok fs ↔
      List.Forall₂ (fun ms f => Filter.parse (.obj ms) = .ok f) xs fs := by
  rw [list, items_eq_ok_iff, List.forall₂_map_left_iff]
  simp only [Filter.readFilter_eq_ok_iff, Filter.parse_eq_ok_iff]

/-- A query is read with nothing but filters when each of them can be added. -/
theorem read_filters_eq_ok_iff {size : Int} {shape : Rule} {xs : List Members} {q : Query} :
    read size shape (.obj [("filters", .arr (xs.map .obj))]) = .ok q ↔
      ∃ fs, List.Forall₂ (fun ms f => Filter.parse (.obj ms) = .ok f) xs fs ∧
        { blank size with filters := fs } = q := by
  unfold read
  simp only [bind_eq_ok_iff, orFail_eq_ok_iff, readMembers_filters, Checked.map_eq_ok_iff,
    under_eq_ok_iff, readFilters_eq_ok_iff, list_readFilter_eq_ok_iff]
  constructor
  · rintro ⟨-, -, h⟩
    exact h
  · rintro ⟨fs, hfs, h⟩
    exact ⟨(), checkFilters_of_list rfl (list_readFilter_eq_ok_iff.2 hfs), fs, hfs, h⟩

/-- **Filters are let in alike** when a query is read with them and when they are added to the query
that finds everything: the one succeeds when the other does, and gives the same query.  Whatever else
is wrong with an object that a query is read from, what is reported is the first of its filters that
is tagged with no known kind, unless an earlier one has a tag that cannot be looked up.  It is
reported by the text of its tag.  Only a tag that has no text, an integer too long to be written, is
a cause among all others.  No such tag comes out of JSON text, so that whatever is read from one is
reported by its text. -/
theorem filters_let_in_alike (size : Int) (shape : Rule) (silent : Bool) :
    (∀ (xs : List Members) (q : Query),
      read size shape (.obj [("filters", .arr (xs.map .obj))]) = .ok q ↔
        QueryM.addFilters silent xs (blank size) = .ok () q) ∧
    ∀ (ms untagged : Members) (before after : List Json),
      ms.lookup "filters" = some (.arr (before ++ .obj untagged :: after)) →
      Filter.Untagged untagged →
      (∀ earlier, .obj earlier ∈ before →
        (Filter.tagOf earlier).isAtom ∧ ¬ Filter.Untagged earlier) →
      ((Filter.tagOf untagged).isPrintable →
        ∃ kind, (Filter.tagOf untagged).text = .ok kind ∧
          read size shape (.obj ms) = .error (.unsupportedFilterKind kind)) ∧
      (¬ (Filter.tagOf untagged).isPrintable →
        ∃ causes, read size shape (.obj ms) = .error (.invalid causes) ∧
          ⟨[.key "filters"], .valueError, .arr (before ++ .obj untagged :: after)⟩ ∈ causes) ∧
      ∀ (limits : Limits) (cs : List Char), limits.digits ≤ Numeral.digitLimit →
        Json.read limits cs = .ok (.obj ms) →
        ∃ kind, (Filter.tagOf untagged).text = .ok kind ∧
          read size shape (.obj ms) = .error (.unsupportedFilterKind kind) := by
  constructor
  · intro xs q
    rw [read_filters_eq_ok_iff, QueryM.addFilters_eq_ok_iff]
    rfl
  · intro ms untagged before after hfilters huntagged hbefore
    have htagged : ∀ earlier, .obj earlier ∈ before → ∃ kind, Filter.Tagged earlier kind := by
      intro earlier hearlier
      obtain ⟨hatom, hnot⟩ := hbefore earlier hearlier
      by_contra hnone
      exact hnot ⟨hatom, not_exists.1 hnone⟩
    have hnamed : (Filter.tagOf untagged).isPrintable →
        ∃ kind, (Filter.tagOf untagged).text = .ok kind ∧
          read size shape (.obj ms) = .error (.unsupportedFilterKind kind) := by
      intro hprintable
      obtain ⟨kind, hkind⟩ := Json.exists_text_iff.2 hprintable
      have htag := FilterKind.ofTag_of_unknown huntagged.1 huntagged.2 hkind
      exact ⟨kind, hkind, read_of_unsupported hfilters (checkKinds_of_untagged htag htagged)⟩
    refine ⟨hnamed, fun hprintable => ?_, fun limits cs hlimits hread => hnamed ?_⟩
    · have htag := FilterKind.ofTag_of_not_isPrintable huntagged.1 hprintable
      exact read_of_nameless hfilters (checkKinds_of_untagged htag htagged)
    · have hms : ∀ m ∈ ms, m.2.isPrintable :=
        Json.membersArePrintable_iff.1 (Json.isPrintable_of_read hlimits hread)
      have hxs := Json.arePrintable_iff.1 (hms _ (Members.mem_of_lookup hfilters))
      exact Filter.isPrintable_tagOf (hxs _ (by simp))

/-- Two filters that are let in, the second one under its second name; a query of which the size,
the second filter and the last one are wrong too; and one whose only filter is tagged with an
integer of one digit more than are written. -/
theorem filters_let_in_alike_color :
    let xs : List Members := [
      [("type", .str "term"), ("field", .str "color"), ("term", .str "red")],
      [("type", .str "exists"), ("negate", .str "yes")]]
    let before : List Json := [.int 5, .obj [("type", .str "term"), ("field", .int 5)]]
    let after : List Json := [.obj [("type", .arr [])], .obj [("type", .str "colour")]]
    let ms : Members := [("size", .str "many"),
      ("filters", .arr (before ++ .obj [("field", .str "color")] :: after))]
    let long : Json := .obj [("type", .int (10 ^ 4300 : Nat))]
    let q : Query := { blank 10 with
      filters := [⟨"color", false, .term (.str "red")⟩, ⟨"", true, .present⟩] }
    QueryM.addFilters true xs (blank 10) = .ok () q ∧
      read 10 .modelType (.obj [("filters", .arr (xs.map .obj))]) = .ok q ∧
      read 10 .modelType (.obj ms) = .error (.unsupportedFilterKind "None") ∧
      ∃ causes, read 10 .modelType (.obj [("filters", .arr [long])]) = .error (.invalid causes) ∧
        ⟨[.key "filters"], .valueError, .arr [long]⟩ ∈ causes := by
  intro xs before after ms long q
  obtain ⟨halike, hreported⟩ := filters_let_in_alike 10 .modelType true
  have hadded : QueryM.addFilters true xs (blank 10) = .ok () q := rfl
  have huntagged : Filter.Untagged [("field", .str "color")] := by
    refine ⟨rfl, fun kind htagged => ?_⟩
    have htag : Json.null = .str kind.name := htagged
    cases htag
  have hbefore : ∀ earlier, .obj earlier ∈ before →
      (Filter.tagOf earlier).isAtom ∧ ¬ Filter.Untagged earlier := by
    intro earlier hearlier
    have htag : Filter.tagOf earlier = .str "term" := by
      simp only [before, List.mem_cons, List.not_mem_nil, or_false, reduceCtorEq, false_or,
        Json.obj.injEq] at hearlier
      rw [hearlier]
      rfl
    exact ⟨by rw [htag]; rfl, fun huntagged => huntagged.2 .term htag⟩
  have hlong : Filter.Untagged [("type", .int (10 ^ 4300 : Nat))] := by
    refine ⟨rfl, fun kind htagged => ?_⟩
    have htag : Json.int (10 ^ 4300 : Nat) = .str kind.name := htagged
    cases htag
  obtain ⟨kind, hkind, hread⟩ := (hreported ms _ before after rfl huntagged hbefore).1 rfl
  cases hkind
  refine ⟨hadded, (halike xs q).2 hadded, hread, ?_⟩
  have hnone : ∀ earlier, Json.obj earlier ∈ ([] : List Json) →
      (Filter.tagOf earlier).isAtom ∧ ¬ Filter.Untagged earlier := fun _ h => by cases h
  exact (hreported [("filters", .arr [long])] _ [] [] rfl hlong hnone).2.1
    Numeral.not_isWritable_pow

end Query

end FacetedSearch
