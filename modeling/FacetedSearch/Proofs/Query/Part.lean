import FacetedSearch.Proofs.Outcome
import FacetedSearch.Proofs.Validation.Reading
import FacetedSearch.Query.Wire

/-!
# The parts of a query

A query is written as an object with one member for each of its parts, and read part by part: what
one part is read as depends on the member of its name alone.  Two parts have a second name, which
counts as long as the first one is not there.

* `Part` — the parts, with their names, values, readers and writers.
* `Part.readAmong` — the reading of a part among the members of an object.
* `Query.of_checkFilters_eq_error` — why a query is turned away before it is read.
* `Query.readFilters_eq_ok_iff` — looking at the kinds of filters first lets in the same filters.
* `Query.writeMembers_eq` — a query is written part by part.
* `Query.readMembers_eq_ok_iff`, `Query.read_eq_ok_iff` — a query is read part by part.
* `Query.blames_readMembers` — what is wrong with a part is wrong with the query.
* `Query.read_congr` — members under other names are of no consequence.
-/

set_option autoImplicit false

namespace FacetedSearch

open Checked Validation

/-- The parts of a query, each of which is one member of what is written for it. -/
inductive Part where
  | text
  | ids
  | boosts
  | clauses
  | filters
  | aggregations
  | selections
  | facets
  | sort
  | highlights
  | size
  | start
  | mode
  deriving DecidableEq, Repr

namespace Part

/-- Every part, in the order in which they are written. -/
def all : List Part :=
  [text, ids, boosts, clauses, filters, aggregations, selections, facets, sort, highlights, size,
    start, mode]

/-- The name under which a part is written. -/
def name : Part → String
  | text => "q"
  | ids => "ids"
  | boosts => "boost_fields"
  | clauses => "bool"
  | filters => "filters"
  | aggregations => "aggs"
  | selections => "selected_aggregations"
  | facets => "facets"
  | sort => "sort"
  | highlights => "highlights"
  | size => "size"
  | start => "from"
  | mode => "mode"

/-- The second name of a part, if it has one. -/
def secondName? : Part → Option String
  | clauses => some "bool_clauses"
  | start => some "from_"
  | _ => none

/-- The names under which a part can be given. -/
def names (part : Part) : List String := part.name :: part.secondName?.toList

/-- The values that a part can have. -/
@[reducible]
def Value : Part → Type
  | text => String
  | ids => Option (List RecordId)
  | boosts => List BoostField
  | clauses => BoolClauses
  | filters => List Filter
  | aggregations => List (String × Aggregation)
  | selections => List (String × Json)
  | facets => List (String × Facet)
  | sort => List SortKey
  | highlights => List String
  | size => Int
  | start => Int
  | mode => Mode

/-- The value of a part in a query. -/
def get (q : Query) : (part : Part) → part.Value
  | text => q.text
  | ids => q.ids
  | boosts => q.boosts
  | clauses => q.clauses
  | filters => q.filters
  | aggregations => q.aggregations
  | selections => q.selections
  | facets => q.facets
  | sort => q.sort
  | highlights => q.highlights
  | size => q.size
  | start => q.start
  | mode => q.mode

/-- How a part is read. -/
def read (shape : Rule) : (part : Part) → Json → Checked part.Value
  | text => string
  | ids => RecordId.readList
  | boosts => BoostField.readList shape
  | clauses => BoolClauses.read shape
  | filters => Query.readFilters
  | aggregations => dictionary Aggregation.read
  | selections => dictionary Query.readSelection
  | facets => dictionary Facet.read
  | sort => SortKey.readList shape
  | highlights => list string
  | size => count
  | start => count
  | mode => Mode.read

/-- How a part is written, values of any kind being written as the argument says. -/
def write (any : Json → Json) : (part : Part) → part.Value → Json
  | text => .str
  | ids => Query.idsToJson
  | boosts => fun bs => .arr (bs.map BoostField.toJson)
  | clauses => BoolClauses.write any
  | filters => fun fs => .arr (fs.map (Filter.write any))
  | aggregations => fun as => .obj (as.map fun (k, a) => (k, a.write any))
  | selections => fun ms => .obj (ms.map fun (k, x) => (k, any x))
  | facets => fun fs => .obj (fs.map fun (k, f) => (k, f.toJson))
  | sort => fun ks => .arr (ks.map (SortKey.write any))
  | highlights => fun names => .arr (names.map .str)
  | size => .int
  | start => .int
  | mode => fun m => .str m.name

/-- The reading of a part among the members of an object; a part that is not there is as in the
query that finds everything. -/
def readAmong (size : Int) (shape : Rule) (ms : Members) (part : Part) : Checked part.Value :=
  match part.secondName? with
  | some other => aliased ms part.name other (part.read shape) (part.get (Query.blank size))
  | none => defaulted ms part.name (part.read shape) (part.get (Query.blank size))

/-- The part of that name, first or second. -/
def ofName? (s : String) : Option Part := all.find? fun part => s ∈ part.names

theorem ofName?_eq_some_iff {s : String} {part : Part} :
    ofName? s = some part ↔ s ∈ part.names := by
  constructor
  · intro h
    simpa using List.find?_some h
  · intro h
    cases part <;> simp only [names, name, secondName?, Option.toList, List.mem_cons,
      List.not_mem_nil, or_false] at h
    case clauses | start => rcases h with rfl | rfl <;> rfl
    all_goals
      subst h
      rfl

/-- A name is the name of one part. -/
theorem eq_of_mem_names {s : String} {part other : Part} (h : s ∈ part.names)
    (h' : s ∈ other.names) : part = other :=
  Option.some.inj ((ofName?_eq_some_iff.2 h).symm.trans (ofName?_eq_some_iff.2 h'))

/-- A part that is there is read as what it is. -/
theorem readAmong_of_lookup {size : Int} {shape : Rule} {ms : Members} {part : Part} {x : Json}
    (h : ms.lookup part.name = some x) :
    part.readAmong size shape ms = (part.read shape x).under (.key part.name) := by
  unfold readAmong aliased defaulted
  rw [h]
  cases part.secondName? <;> rfl

/-- Only members under the names of a part count for it. -/
theorem readAmong_congr {size : Int} {shape : Rule} {ms ns : Members} {part : Part}
    (h : ∀ name ∈ part.names, ms.lookup name = ns.lookup name) :
    part.readAmong size shape ms = part.readAmong size shape ns := by
  unfold names at h
  unfold readAmong aliased defaulted
  rw [h part.name List.mem_cons_self]
  cases hsecond : part.secondName? with
  | none => rfl
  | some other =>
    dsimp only
    rw [h other (by simp [hsecond])]

/-- A part that is not there is as in the query that finds everything. -/
theorem readAmong_of_absent {size : Int} {shape : Rule} {ms : Members} {part : Part}
    (h : ∀ name ∈ part.names, ms.lookup name = none) :
    part.readAmong size shape ms = .ok (part.get (Query.blank size)) := by
  have hnil : part.readAmong size shape [] = .ok (part.get (Query.blank size)) := by
    unfold readAmong
    split <;> rfl
  rw [← hnil]
  exact readAmong_congr h

/-- A part is read from the only member that there is, by whichever name. -/
theorem readAmong_singleton {size : Int} {shape : Rule} {m : String × Json} {part : Part}
    (h : m.1 ∈ part.names) :
    part.readAmong size shape [m] = (part.read shape m.2).under (.key m.1) := by
  obtain ⟨k, x⟩ := m
  cases part <;> simp only [names, name, secondName?, Option.toList, List.mem_cons,
    List.not_mem_nil, or_false] at h
  case clauses | start => rcases h with rfl | rfl <;> rfl
  all_goals
    subst h
    rfl

/-- A part that is read was there, or is as in the query that finds everything. -/
theorem of_readAmong_eq_ok {size : Int} {shape : Rule} {ms : Members} {part : Part}
    {value : part.Value} (h : part.readAmong size shape ms = .ok value) :
    (∃ x, part.read shape x = .ok value) ∨ value = part.get (Query.blank size) := by
  have hdefaulted {name : String} (h : defaulted ms name (part.read shape)
      (part.get (Query.blank size)) = .ok value) :
      (∃ x, part.read shape x = .ok value) ∨ value = part.get (Query.blank size) := by
    unfold defaulted at h
    split at h
    · exact .inl ⟨_, under_eq_ok_iff.1 h⟩
    · cases h
      exact .inr rfl
  unfold readAmong at h
  split at h
  · unfold aliased at h
    split at h
    · exact .inl ⟨_, under_eq_ok_iff.1 h⟩
    · exact hdefaulted h
  · exact hdefaulted h

end Part

/-! ## Kinds of filters -/

theorem FilterKind.ofTag_str (s : String) :
    ofTag (.str s) = (ofName? s).elim (.error (.unsupportedFilterKind s)) .ok := by
  unfold ofTag
  cases h : ofName? s <;> simp [Json.isAtom, h]

theorem Json.of_orFail_eq_error {α : Type} {x : Except Fault α} {failure : Failure}
    (h : Json.orFail x = .error failure) : ∃ fault, failure = .fault fault := by
  cases x <;> cases h
  exact ⟨_, rfl⟩

theorem FilterKind.of_ofTag_eq_error {tag : Json} {failure : Failure}
    (h : ofTag tag = .error failure) :
    (∃ kind, failure = .unsupportedFilterKind kind) ∨ ∃ fault, failure = .fault fault := by
  unfold ofTag at h
  split at h
  · split at h
    · split at h <;> cases h
      exact .inl ⟨_, rfl⟩
    · rcases bind_eq_error_iff.1 h with htext | ⟨kind, -, hkind⟩
      · exact .inr (Json.of_orFail_eq_error htext)
      · cases hkind
        exact .inl ⟨kind, rfl⟩
  · cases h
    exact .inr ⟨_, rfl⟩

theorem Query.of_checkKinds_eq_error {xs : List Json} {failure : Failure}
    (h : checkKinds xs = .error failure) :
    (∃ kind, failure = .unsupportedFilterKind kind) ∨ ∃ fault, failure = .fault fault := by
  induction xs with
  | nil => cases h
  | cons x xs ih =>
    cases x with
    | obj ms =>
      rw [checkKinds] at h
      split at h
      · exact ih h
      · next hkind =>
        cases h
        exact FilterKind.of_ofTag_eq_error hkind
    | null | bool | int | float | str | arr => exact ih h

theorem Query.of_checkKindsIn_eq_error {x : Json} {failure : Failure}
    (h : checkKindsIn x = .error failure) :
    (∃ kind, failure = .unsupportedFilterKind kind) ∨ ∃ fault, failure = .fault fault := by
  unfold checkKindsIn at h
  split at h
  · rcases bind_eq_error_iff.1 h with helements | ⟨xs, -, hkinds⟩
    · exact .inr (Json.of_orFail_eq_error helements)
    · exact of_checkKinds_eq_error hkinds
  · cases h

/-- Before it is read, a query is turned away for the kind of a filter, or for what it has in the
place of filters. -/
theorem Query.of_checkFilters_eq_error {ms : Members} {failure : Failure}
    (h : checkFilters ms = .error failure) :
    (∃ kind, failure = .unsupportedFilterKind kind) ∨ ∃ fault, failure = .fault fault := by
  unfold checkFilters at h
  split at h
  · split at h
    · cases h
    · exact of_checkKindsIn_eq_error h
  · cases h

theorem Query.checkKindsIn_arr (xs : List Json) : checkKindsIn (.arr xs) = checkKinds xs := by
  cases xs <;> rfl

/-- Filters that are read are of known kinds. -/
theorem Query.checkKinds_of_readFilter {xs : List Json}
    (h : ∀ x ∈ xs, ∃ f, readFilter x = .ok f) : checkKinds xs = .ok () := by
  induction xs with
  | nil => rfl
  | cons x xs ih =>
    obtain ⟨⟨f, hf⟩, hxs⟩ := List.forall_mem_cons.1 h
    cases x with
    | obj ms =>
      obtain ⟨tag, _, hlookup, hchoose, -⟩ := of_tagged_eq_ok hf
      obtain ⟨kind, hkind, -⟩ := Option.map_eq_some_iff.1 hchoose
      have htag : FilterKind.ofTag (Filter.tagOf ms) = .ok kind := by
        rw [Filter.tagOf, hlookup, Option.getD_some, FilterKind.ofTag_str, hkind]
        rfl
      rw [checkKinds, htag]
      exact ih hxs
    | null | bool | int | float | str | arr => cases hf

theorem Query.checkKindsIn_of_list {x : Json} {fs : List Filter}
    (h : list readFilter x = .ok fs) : checkKindsIn x = .ok () := by
  cases x with
  | arr xs =>
    rw [list, items_eq_ok_iff] at h
    rw [checkKindsIn_arr]
    exact checkKinds_of_readFilter (forall_mem_of_forall₂ h fun _ f hf => ⟨f, hf⟩)
  | null | bool | int | float | str | obj => cases h

/-- Nothing is reported of filters that are read. -/
theorem Query.checkFilters_of_list {ms : Members} {x : Json} {fs : List Filter}
    (hlookup : ms.lookup "filters" = some x) (h : list readFilter x = .ok fs) :
    checkFilters ms = .ok () := by
  unfold checkFilters
  rw [hlookup]
  dsimp only
  rw [checkKindsIn_of_list h, ite_self]

/-- Looking at the kinds first lets in the same filters. -/
theorem Query.readFilters_eq_ok_iff {x : Json} {fs : List Filter} :
    readFilters x = .ok fs ↔ list readFilter x = .ok fs := by
  unfold readFilters
  split
  · next hnameless =>
    refine ⟨nofun, fun h => ?_⟩
    rw [hasNamelessKind, checkKindsIn_of_list h] at hnameless
    cases hnameless
  · rfl

/-! ## Queries -/

namespace Query

/-- The query with these parts. -/
def ofParts (value : (part : Part) → part.Value) : Query where
  text := value .text
  ids := value .ids
  boosts := value .boosts
  clauses := value .clauses
  filters := value .filters
  aggregations := value .aggregations
  selections := value .selections
  facets := value .facets
  sort := value .sort
  highlights := value .highlights
  size := value .size
  start := value .start
  mode := value .mode

theorem get_ofParts (value : (part : Part) → part.Value) (part : Part) :
    part.get (ofParts value) = value part := by
  cases part <;> rfl

/-- A query is written part by part. -/
theorem writeMembers_eq (any : Json → Json) (q : Query) :
    q.writeMembers any = Part.all.map fun part => (part.name, part.write any (part.get q)) := rfl

theorem readMembers_eq (size : Int) (shape : Rule) (ms : Members) :
    readMembers size shape ms =
      Query.mk <$> Part.text.readAmong size shape ms <*> Part.ids.readAmong size shape ms
        <*> Part.boosts.readAmong size shape ms <*> Part.clauses.readAmong size shape ms
        <*> Part.filters.readAmong size shape ms <*> Part.aggregations.readAmong size shape ms
        <*> Part.selections.readAmong size shape ms <*> Part.facets.readAmong size shape ms
        <*> Part.sort.readAmong size shape ms <*> Part.highlights.readAmong size shape ms
        <*> Part.size.readAmong size shape ms <*> Part.start.readAmong size shape ms
        <*> Part.mode.readAmong size shape ms := rfl

/-- **A query is read part by part.** -/
theorem readMembers_eq_ok_iff {size : Int} {shape : Rule} {ms : Members} {q : Query} :
    readMembers size shape ms = .ok q ↔
      ∀ part : Part, part.readAmong size shape ms = .ok (part.get q) := by
  rw [readMembers_eq]
  simp only [seq_eq_ok_iff, Checked.map_eq_ok_iff]
  constructor
  · rintro ⟨_, mode, ⟨_, start, ⟨_, count, ⟨_, highlights, ⟨_, sort, ⟨_, facets, ⟨_, selections,
      ⟨_, aggregations, ⟨_, filters, ⟨_, clauses, ⟨_, boosts, ⟨_, ids,
      ⟨text, htext, rfl⟩, hids, rfl⟩, hboosts, rfl⟩, hclauses, rfl⟩, hfilters, rfl⟩,
      haggregations, rfl⟩, hselections, rfl⟩, hfacets, rfl⟩, hsort, rfl⟩, hhighlights, rfl⟩,
      hcount, rfl⟩, hstart, rfl⟩, hmode, rfl⟩ part
    cases part <;> assumption
  · intro h
    exact ⟨_, _, ⟨_, _, ⟨_, _, ⟨_, _, ⟨_, _, ⟨_, _, ⟨_, _, ⟨_, _, ⟨_, _, ⟨_, _, ⟨_, _, ⟨_, _, ⟨_,
      h .text, rfl⟩, h .ids, rfl⟩, h .boosts, rfl⟩, h .clauses, rfl⟩, h .filters, rfl⟩,
      h .aggregations, rfl⟩, h .selections, rfl⟩, h .facets, rfl⟩, h .sort, rfl⟩, h .highlights,
      rfl⟩, h .size, rfl⟩, h .start, rfl⟩, h .mode, rfl⟩

theorem read_eq_ok_iff {size : Int} {shape : Rule} {ms : Members} {q : Query} :
    read size shape (.obj ms) = .ok q ↔
      checkFilters ms = .ok () ∧
        ∀ part : Part, part.readAmong size shape ms = .ok (part.get q) := by
  unfold read
  rw [bind_eq_ok_iff]
  simp only [orFail_eq_ok_iff, readMembers_eq_ok_iff]
  constructor
  · rintro ⟨_, hfilters, hparts⟩
    exact ⟨hfilters, hparts⟩
  · rintro ⟨hfilters, hparts⟩
    exact ⟨(), hfilters, hparts⟩

/-- What is wrong with a part is wrong with the query. -/
theorem blames_readMembers {size : Int} {shape : Rule} {ms : Members} {part : Part} {c : Cause}
    (h : (part.readAmong size shape ms).Blames c) : (readMembers size shape ms).Blames c := by
  rw [readMembers_eq]
  cases part
  all_goals
    repeat first
      | exact h.seq_right _
      | exact h.map _
      | refine Blames.seq_left ?_ _

/-- What is accepted member by member is accepted. -/
theorem exists_read_eq_ok {size : Int} {shape : Rule} {ms : Members}
    (hfilters : checkFilters ms = .ok ())
    (h : ∀ part : Part, ∃ value, part.readAmong size shape ms = .ok value) :
    ∃ q, read size shape (.obj ms) = .ok q := by
  choose value hvalue using h
  refine ⟨ofParts value, read_eq_ok_iff.2 ⟨hfilters, fun part => ?_⟩⟩
  rw [get_ofParts]
  exact hvalue part

theorem checkFilters_congr {ms ns : Members} (h : ms.lookup "filters" = ns.lookup "filters") :
    checkFilters ms = checkFilters ns := by
  unfold checkFilters
  rw [h]

/-- **Members under other names are of no consequence**, neither for what is read nor for why it is
refused. -/
theorem read_congr {size : Int} {shape : Rule} {ms ns : Members}
    (h : ∀ part : Part, ∀ name ∈ part.names, ms.lookup name = ns.lookup name) :
    read size shape (.obj ms) = read size shape (.obj ns) := by
  have hparts (part : Part) :
      part.readAmong size shape ms = part.readAmong size shape ns := Part.readAmong_congr (h part)
  unfold read
  dsimp only
  rw [checkFilters_congr (h .filters "filters" List.mem_cons_self), readMembers_eq, readMembers_eq]
  simp only [hparts]

end Query

end FacetedSearch
