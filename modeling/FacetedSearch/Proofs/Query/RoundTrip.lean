import FacetedSearch.Proofs.Query.Mutation
import FacetedSearch.Proofs.Query.Part
import FacetedSearch.Proofs.Query.Snapshot
import FacetedSearch.Proofs.Search.Compilation

/-!
# Queries written out and read back

What is written for a query is read back as that query, but for one thing: a distance that was not
given is written as ten, and is a given one from then on.  What is written for the two queries is
the same, and their bodies differ in no more than the kind of number that these distances are.

* `Query.settled` — a query whose distances are all given.
* `Part.read_write` — every part of a query is read back.
* `Query.read_toJson` — hence the query is, as a settled one.
* `Query.searchBody_settled` — what settling does to the body.
* `Query.Regular` — what every query that was ever read satisfies, edited or not.
* `Query.read_back` — every query that was read and edited can be written out and read back.
-/

set_option autoImplicit false

namespace FacetedSearch

open Checked Validation

/-! ## Filters -/

/-- A distance that is given in any case. -/
def Distance.settled : Distance → Distance
  | unspecified => given Double.ten
  | given x => given x

/-- A constraint whose distance, if it has one, is given. -/
def Constraint.settled : Constraint → Constraint
  | geoDistance point distance unit => geoDistance point distance.settled unit
  | c => c

/-- A filter whose distance, if it has one, is given. -/
def Filter.settled (f : Filter) : Filter := { f with constraint := f.constraint.settled }

theorem Constraint.kind_settled (c : Constraint) : c.settled.kind = c.kind := by
  cases c <;> rfl

theorem Constraint.toMembers_settled (any : Json → Json) (c : Constraint) :
    c.settled.toMembers any = c.toMembers any := by
  cases c with
  | geoDistance point distance unit => cases distance <;> rfl
  | _ => rfl

/-- Settling a filter does not show when it is written. -/
theorem Filter.write_settled (any : Json → Json) (f : Filter) :
    f.settled.write any = f.write any := by
  have hkind : f.settled.kind = f.kind := f.constraint.kind_settled
  have hmembers : f.settled.constraint.toMembers any = f.constraint.toMembers any :=
    f.constraint.toMembers_settled any
  unfold Filter.write
  rw [hkind, hmembers]
  rfl

theorem FilterKind.checkTag_name {kind : FilterKind} {ms : Members}
    (h : ms.lookup "type" = some (.str kind.name)) : kind.checkTag ms = .ok () := by
  unfold FilterKind.checkTag defaulted
  rw [h]
  cases kind <;> rfl

theorem Bounds.read_toMembers (field negated tag : Json) (b : Bounds) :
    Bounds.read ([("field", field), ("not", negated), ("type", tag)] ++ b.toMembers id)
      = .ok b := by
  obtain ⟨lower, upper, includeLower, includeUpper⟩ := b
  cases includeLower <;> cases includeUpper <;> rfl

theorem Constraint.read_toMembers (field negated : Json) (c : Constraint) :
    Constraint.read c.kind
        ([("field", field), ("not", negated), ("type", .str c.kind.name)] ++ c.toMembers id)
      = .ok c.settled := by
  unfold Constraint.read
  rw [FilterKind.checkTag_name rfl]
  cases c with
  | terms values execution =>
    have hvalues : list anything (.arr (values.map id)) = .ok values :=
      list_eq_ok_self values fun _ _ => rfl
    show (fun _ values execution => Constraint.terms values execution) <$> Checked.ok ()
      <*> (list anything (.arr (values.map id))).under _
      <*> (optional string ((execution.map Json.str).getD .null)).under _ = _
    rw [hvalues]
    cases execution <;> rfl
  | range bounds | dateRange bounds =>
    dsimp only [Constraint.kind, Constraint.toMembers]
    rw [Bounds.read_toMembers]
    rfl
  | geoDistance point distance unit => cases distance <;> rfl
  | term | docType | present | absent => rfl

/-- A filter that is tagged with the name of a kind is read as one of that kind. -/
theorem Filter.readFilter_of_kind {kind : FilterKind} {ms : Members}
    (h : ms.lookup "type" = some (.str kind.name)) :
    Query.readFilter (.obj ms) = (Filter.read kind ms).under (.key kind.name) := by
  refine tagged_eq h ?_
  cases kind <;> rfl

/-- What is written for a filter is read back as the settled filter. -/
theorem Filter.readFilter_write (f : Filter) : Query.readFilter (f.write id) = .ok f.settled := by
  have hconstraint : Constraint.read f.kind _ = .ok f.constraint.settled :=
    f.constraint.read_toMembers (.str f.field) (.bool f.negated)
  unfold Filter.write
  rw [readFilter_of_kind rfl, under_eq_ok_iff]
  refine seq_eq_ok_iff.2 ⟨_, _, Checked.map_eq_ok_iff.2 ⟨(f.field, f.negated), rfl, rfl⟩, ?_, rfl⟩
  exact hconstraint

/-! ## The other parts -/

theorem BoostField.read_toJson (shape : Rule) (b : BoostField) :
    model shape BoostField.readMembers b.toJson = .ok b := by
  obtain ⟨field, boost⟩ := b
  cases boost <;> rfl

theorem BoolClauses.read_write (shape : Rule) (c : BoolClauses) :
    BoolClauses.read shape (c.write id) = .ok c := by
  have hlist (cs : List BoolClause) :
      list (model shape BoolClause.readMembers) (.arr (cs.map (BoolClause.write id))) = .ok cs :=
    list_eq_ok_self cs fun _ _ => rfl
  show BoolClauses.mk <$> (list _ (.arr (c.must.map _))).under _
    <*> (list _ (.arr (c.should.map _))).under _ <*> (list _ (.arr (c.mustNot.map _))).under _ = _
  rw [hlist, hlist, hlist]
  rfl

theorem Aggregation.read_toJson (a : Aggregation) : Aggregation.read (a.write id) = .ok a := by
  obtain ⟨field, grouping⟩ := a
  have hranges (ranges : List Members) :
      Aggregation.readRanges (Grouping.rangesToJson ranges) = .ok ranges :=
    list_eq_ok_self ranges fun _ _ => rfl
  cases grouping with
  | terms size => cases size <;> rfl
  | range ranges =>
    show ((fun field ranges => Aggregation.mk field (.range ranges)) <$> Checked.ok field
      <*> (Aggregation.readRanges (Grouping.rangesToJson ranges)).under _).under _ = _
    rw [hranges]
    rfl
  | dateRange format ranges =>
    show ((fun field format ranges => Aggregation.mk field (.dateRange format ranges))
      <$> Checked.ok field <*> Checked.ok format
      <*> (Aggregation.readRanges (Grouping.rangesToJson ranges)).under _).under _ = _
    rw [hranges]
    rfl

theorem Facet.read_toJson (f : Facet) : Facet.read f.toJson = .ok f := by
  obtain ⟨field, count⟩ := f
  cases count with
  | terms size => cases size <;> rfl
  | dateHistogram interval => rfl

/-- The field of a sort key is none of its options. -/
def SortKey.Regular (k : SortKey) : Prop := k.options.lookup "field" = none

/-- The options of a sort key are what is left beside its field. -/
theorem SortKey.read_write (shape : Rule) {k : SortKey} (h : k.Regular) :
    model shape SortKey.readMembers (k.write id) = .ok k := by
  obtain ⟨field, options⟩ := k
  have hrest : Members.erase "field" options = options := by
    refine List.filter_eq_self.2 fun m hm => ?_
    simpa using Members.lookup_eq_none_iff.1 h m hm
  have hoptions :
      Members.erase "field" (("field", .str field) :: options.map fun m => (m.1, id m.2))
        = options := by
    rw [show (options.map fun m => (m.1, id m.2)) = options from List.map_id options]
    exact hrest
  show (fun field => SortKey.mk field (Members.erase "field" _)) <$> Checked.ok field = _
  rw [hoptions]
  rfl

theorem SortKey.regular_of_read {shape : Rule} {x : Json} {k : SortKey}
    (h : model shape SortKey.readMembers x = .ok k) : k.Regular := by
  cases x with
  | obj ms =>
    obtain ⟨field, -, rfl⟩ := Checked.map_eq_ok_iff.1 h
    exact Members.lookup_eq_none_iff.2 fun m hm => (Members.mem_erase_iff.1 hm).2
  | null | bool | int | float | str | arr => cases h

/-! ## Queries -/

namespace Part

/-- A value of a part with distances given. -/
def settle : (part : Part) → part.Value → part.Value
  | filters => fun fs => fs.map Filter.settled
  | text | ids | boosts | clauses | aggregations | selections | facets | sort | highlights | size
    | start | mode => id

/-- A value of a part that is accepted when it is read back. -/
def Legible : (part : Part) → part.Value → Prop
  | selections => fun ms => ∀ m ∈ ms, ∃ ns, m.2 = .obj ns
  | sort => fun ks => ∀ k ∈ ks, k.Regular
  | size => fun n => 0 ≤ n
  | start => fun n => 0 ≤ n
  | text | ids | boosts | clauses | filters | aggregations | facets | highlights | mode =>
    fun _ => True

/-- **Every part of a query is read back.** -/
theorem read_write (shape : Rule) {part : Part} {value : part.Value} (h : part.Legible value) :
    part.read shape (part.write id value) = .ok (part.settle value) := by
  cases part with
  | text => rfl
  | ids => exact RecordId.readList_idsToJson value
  | boosts => exact list_eq_ok_self value fun b _ => b.read_toJson shape
  | clauses => exact BoolClauses.read_write shape value
  | filters =>
    exact Query.readFilters_eq_ok_iff.2 (list_eq_ok_map value fun f _ => f.readFilter_write)
  | aggregations => exact dictionary_eq_ok_self _ value fun m _ => m.2.read_toJson
  | selections =>
    refine dictionary_eq_ok_self id value fun m hm => ?_
    obtain ⟨ns, hns⟩ := h m hm
    rw [hns]
    rfl
  | facets => exact dictionary_eq_ok_self _ value fun m _ => m.2.read_toJson
  | sort => exact list_eq_ok_self value fun k hk => SortKey.read_write shape (h k hk)
  | highlights => exact list_eq_ok_self value fun _ _ => rfl
  | size => exact Checked.count_eq_ok_iff.2 ⟨rfl, h⟩
  | start => exact Checked.count_eq_ok_iff.2 ⟨rfl, h⟩
  | mode => exact Mode.read_name value

/-- Settling a part does not show when it is written. -/
theorem write_settle (any : Json → Json) (part : Part) (value : part.Value) :
    part.write any (part.settle value) = part.write any value := by
  cases part with
  | filters =>
    show Json.arr ((value.map Filter.settled).map (Filter.write any)) = .arr (value.map _)
    rw [List.map_map]
    exact congrArg Json.arr (List.map_congr_left fun f _ => f.write_settled any)
  | _ => rfl

end Part

namespace Query

/-- A query whose distances are all given. -/
def settled (q : Query) : Query := { q with filters := q.filters.map Filter.settled }

theorem get_settled (q : Query) (part : Part) : part.get q.settled = part.settle (part.get q) := by
  cases part <;> rfl

/-- Settling a query does not show when it is written. -/
theorem writeMembers_settled (any : Json → Json) (q : Query) :
    q.settled.writeMembers any = q.writeMembers any := by
  rw [writeMembers_eq, writeMembers_eq]
  refine List.map_congr_left fun part _ => ?_
  rw [get_settled, Part.write_settle]

/-- Settling a query does not show when it is shown. -/
theorem present_settled (q : Query) : q.settled.present = q.present := by
  have hvalues : q.settled.anyValues = q.anyValues := by
    have hfilters : (q.filters.map Filter.settled).flatMap Filter.anyValues
        = q.filters.flatMap Filter.anyValues := by
      rw [List.flatMap_map]
      refine List.flatMap_congr fun f _ => ?_
      obtain ⟨field, negated, constraint⟩ := f
      cases constraint <;> rfl
    unfold anyValues
    rw [show q.settled.filters = q.filters.map Filter.settled from rfl, hfilters]
    rfl
  unfold present presented
  rw [hvalues, writeMembers_settled]

/-- Every part of a query is written under its name. -/
theorem lookup_writeMembers (any : Json → Json) (q : Query) (part : Part) :
    (q.writeMembers any).lookup part.name = some (part.write any (part.get q)) := by
  cases part <;> rfl

/-- The kinds of the filters that are written are known. -/
theorem checkFilters_write {ms : Members} {fs : List Filter}
    (h : ms.lookup "filters" = some (.arr (fs.map (Filter.write id)))) :
    checkFilters ms = .ok () :=
  checkFilters_of_list h (list_eq_ok_map fs fun f _ => f.readFilter_write)

/-- **What is written for a query is read back as the settled query.** -/
theorem read_toJson {q : Query} (h : ∀ part : Part, part.Legible (part.get q)) (size : Int)
    (shape : Rule) : read size shape q.toJson = .ok q.settled := by
  have hfilters : q.toMembers.lookup "filters" =
      some (.arr (q.filters.map (Filter.write id))) := rfl
  refine read_eq_ok_iff.2 ⟨checkFilters_write hfilters, fun part => ?_⟩
  have hlookup : q.toMembers.lookup part.name = some _ := q.lookup_writeMembers id part
  rw [Part.readAmong_of_lookup hlookup, under_eq_ok_iff, get_settled]
  exact Part.read_write shape (h part)

end Query

/-! ## Bodies -/

/-- A test of the distance that is taken for one that is not given, as a test of a given one. -/
def Leaf.settled : Leaf → Leaf
  | geoDistance field point (.int 10) unit => geoDistance field point (.float Double.ten) unit
  | l => l

/-- The clause of a filter, its distance being a given one. -/
def Clause.settled : Clause → Clause
  | leaf l => leaf l.settled
  | not c => not c.settled
  | c => c

/-- A body in whose filters all distances are given. -/
def SearchBody.settled (b : SearchBody) : SearchBody :=
  { b with
    query :=
      match b.query with
      | .filtered filters inner => .filtered (filters.map Clause.settled) inner
      | c => c }

theorem Filter.clause_settled (f : Filter) (format : Json) :
    f.settled.clause format = (f.clause format).settled := by
  have hleaf : f.settled.leaf format = (f.leaf format).settled := by
    obtain ⟨field, negated, constraint⟩ := f
    cases constraint with
    | geoDistance point distance unit => cases distance <;> rfl
    | _ => rfl
  have hnegated : f.settled.negated = f.negated := rfl
  unfold Filter.clause
  rw [hleaf, hnegated]
  cases f.negated <;> rfl

namespace Query

theorem filterClause_settled (q : Query) (f : Filter) :
    q.settled.filterClause f.settled = (q.filterClause f).map Clause.settled := by
  have hformat : q.settled.dateFormat f.settled = q.dateFormat f := by
    obtain ⟨field, negated, constraint⟩ := f
    cases constraint <;> rfl
  unfold filterClause
  rw [hformat]
  cases q.dateFormat f with
  | ok format => exact congrArg Except.ok (f.clause_settled format)
  | error e => rfl

theorem assembled_settled (s : Settings) (q : Query) (filters : List Clause) :
    q.settled.assembled s (filters.map Clause.settled) = (q.assembled s filters).settled := by
  have hclause : q.settled.enclosed s (filters.map Clause.settled) =
      match q.enclosed s filters with
      | .filtered filters inner => .filtered (filters.map Clause.settled) inner
      | c => c := by
    have hempty : q.settled.filters.isEmpty = q.filters.isEmpty := by
      unfold settled
      cases q.filters <;> rfl
    unfold enclosed
    rw [hempty]
    cases q.filters.isEmpty with
    | false => rfl
    | true =>
      show q.core s = match q.core s with
        | .filtered filters inner => .filtered (filters.map Clause.settled) inner
        | c => c
      unfold core coreWith
      cases q.plain.ids <;> rfl
  show SearchBody.mk (q.settled.enclosed s (filters.map Clause.settled)) _ _ _ _ _ _ _ = _
  rw [hclause]
  rfl

/-- **Settling a query settles its body**, and does not change why there is none. -/
theorem searchBody_settled (s : Settings) (q : Query) :
    q.settled.searchBody s = (q.searchBody s).map SearchBody.settled := by
  have hfilters : q.settled.filters.mapM q.settled.filterClause
      = (q.filters.mapM q.filterClause).map (List.map Clause.settled) :=
    mapM_map_of_map q.filterClause_settled q.filters
  have hmode : q.settled.mode = q.mode := rfl
  have haggregations : q.settled.aggregations = q.aggregations := rfl
  rw [searchBody_eq, searchBody_eq, hfilters, hmode, haggregations]
  cases q.filters.mapM q.filterClause with
  | error e => rfl
  | ok filters =>
    cases Aggregation.checkKeys (q.mode == .allTypes) q.aggregations with
    | error e => rfl
    | ok => exact congrArg Except.ok (q.assembled_settled s filters)

/-! ## Every query -/

/-- What every query that was ever read satisfies. -/
structure Regular (q : Query) : Prop where
  start : 0 ≤ q.start
  sort : ∀ k ∈ q.sort, k.Regular

theorem regular_of_read {size : Int} {shape : Rule} {x : Json} {q : Query}
    (h : read size shape x = .ok q) : q.Regular := by
  cases x with
  | obj ms =>
    have hparts := (read_eq_ok_iff.1 h).2
    constructor
    · rcases Part.of_readAmong_eq_ok (hparts .start) with ⟨x, hx⟩ | hx
      · exact (count_eq_ok_iff.1 hx).2
      · exact Int.le_of_eq hx.symm
    · intro k hk
      rcases Part.of_readAmong_eq_ok (hparts .sort) with ⟨x, hx⟩ | hx
      · obtain ⟨y, hy⟩ := of_list_eq_ok hx k hk
        exact SortKey.regular_of_read hy
      · rw [show q.sort = [] from hx] at hk
        cases hk
  | null | bool | int | float | str | arr => cases h

theorem Moves.regular {q p : Query} (h : q.Moves p) (hq : q.Regular) : p.Regular :=
  ⟨h.start_eq ▸ hq.start, h.sort_eq ▸ hq.sort⟩

theorem Regular.legible {q : Query} (h : q.Regular) (hsize : 0 ≤ q.size)
    (hselections : ∀ m ∈ q.selections, ∃ ns, m.2 = .obj ns) (part : Part) :
    part.Legible (part.get q) := by
  cases part with
  | selections => exact hselections
  | sort => exact h.sort
  | size => exact hsize
  | start => exact h.start
  | text | ids | boosts | clauses | filters | aggregations | facets | highlights | mode => trivial

/-- **Every query that was read and then edited can be written out and read back**, as long as it
does not ask for fewer than no records and whatever was selected is an object.  The query that is read
back is written in the same way and shown in the same way, and its body differs in no more than the
kind of number that the distances are which were not given. -/
theorem read_back {size : Int} {shape : Rule} {x : Json} {q : Query}
    (hread : read size shape x = .ok q) (es : List Edit) (hsize : 0 ≤ (q.afterAll es).size)
    (hselections : ∀ m ∈ (q.afterAll es).selections, ∃ ns, m.2 = .obj ns) (size' : Int)
    (shape' : Rule) :
    ∃ p, read size' shape' (q.afterAll es).toJson = .ok p ∧
      p.toJson = (q.afterAll es).toJson ∧ p.present = (q.afterAll es).present ∧
      ∀ s, p.searchBody s = ((q.afterAll es).searchBody s).map SearchBody.settled := by
  have hregular : (q.afterAll es).Regular := afterAll_keeps Moves.regular (regular_of_read hread) es
  refine ⟨(q.afterAll es).settled, ?_, ?_, ?_, fun s => searchBody_settled s _⟩
  · exact read_toJson (hregular.legible hsize hselections) size' shape'
  · exact congrArg Json.obj (writeMembers_settled id _)
  · exact present_settled _

/-- A query with a distance that was not given, in which an aggregation is selected in before a
filter is refused. -/
theorem read_back_distance :
    let x : Json := .obj [
      ("filters", .arr [.obj [("type", .str "geo_distance"), ("field", .str "place")]]),
      ("sort", .arr [.obj [("field", .str "price"), ("order", .str "asc")]])]
    let es : List Edit := [
      .mutation (.addTermsAggregation (.str "maker.name") .null false),
      .mutation (.selectAggregation (.str "maker.name") (.obj [("Acme", .bool true)])),
      .mutation (.addFilter (.str "place") false)]
    let q : Query := { blank 10 with
      filters := [⟨"place", false, .geoDistance Constraint.origin .unspecified "km"⟩]
      sort := [⟨"price", [("order", .str "asc")]⟩] }
    read 10 .modelType x = .ok q ∧ 0 ≤ (q.afterAll es).size ∧
      (∀ m ∈ (q.afterAll es).selections, ∃ ns, m.2 = .obj ns) ∧
      ∃ p, read 20 .modelType (q.afterAll es).toJson = .ok p ∧
        p.toJson = (q.afterAll es).toJson ∧ p.present = (q.afterAll es).present ∧
        ∀ s, p.searchBody s = ((q.afterAll es).searchBody s).map SearchBody.settled := by
  intro x es q
  have hread : read 10 .modelType x = .ok q := rfl
  have hsize : 0 ≤ (q.afterAll es).size := by decide +kernel
  have hselected : (q.afterAll es).selections = [("maker_name", .obj [("Acme", .bool true)])] := by
    decide +kernel
  have hselections : ∀ m ∈ (q.afterAll es).selections, ∃ ns, m.2 = .obj ns := by
    rw [hselected]
    rintro m hm
    cases List.mem_singleton.1 hm
    exact ⟨_, rfl⟩
  exact ⟨hread, hsize, hselections, read_back hread es hsize hselections 20 .modelType⟩

end Query

end FacetedSearch
