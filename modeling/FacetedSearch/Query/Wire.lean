import FacetedSearch.Filter.Wire
import FacetedSearch.Query.Basic

/-!
# Queries on the wire

Reading a query from JSON and writing it out.  Three members have a second name, `negate` for `not`
in filters, `from_` for `from` and `bool_clauses` for `bool`; unknown members are dropped.

* `Query.read` — read a query; all causes of a refusal are reported, but a filter of an unknown kind
  is reported alone.
* `Query.toJson` — write a query with all its members.
* `Query.presented` — the same as a client sees it, and `Query.present` the same if it can be shown.
-/

set_option autoImplicit false

namespace FacetedSearch

open Checked Validation

/-- The identifier of a record: a string, or else an integer. -/
def RecordId.read : Json → Checked RecordId
  | .str s => .ok (.text s)
  | x =>
    match integer x with
    | .ok n => .ok (.number n)
    | .refused causes =>
      .refused (⟨[.key "str"], .stringType, x⟩
        :: causes.map fun c => { c with path := .key "int" :: c.path })

/-- A boosted field among the members of an object. -/
def BoostField.readMembers (ms : Members) : Checked BoostField :=
  BoostField.mk <$> required ms "field" string
    <*> defaulted ms "boost" (optional double) none

/-- A demand among the members of an object. -/
def BoolClause.readMembers (ms : Members) : Checked BoolClause :=
  BoolClause.mk <$> required ms "field" string <*> required ms "value" anything

/-- Further demands. -/
def BoolClauses.read (shape : Rule) : Json → Checked BoolClauses :=
  model shape fun ms =>
    let clauses := list (model shape BoolClause.readMembers)
    BoolClauses.mk <$> defaulted ms "must" clauses [] <*> defaulted ms "should" clauses []
      <*> defaulted ms "must_not" clauses []

/-- A sort key among the members of an object: what is not the field is kept for the engine. -/
def SortKey.readMembers (ms : Members) : Checked SortKey :=
  (fun field => ⟨field, Members.erase "field" ms⟩) <$> required ms "field" string

/-- A list of boosted fields. -/
def BoostField.readList (shape : Rule) : Json → Checked (List BoostField) :=
  list (model shape BoostField.readMembers)

/-- A list of sort keys. -/
def SortKey.readList (shape : Rule) : Json → Checked (List SortKey) :=
  list (model shape SortKey.readMembers)

/-- A mode. -/
def Mode.read : Json → Checked Mode := word ofName?

/-- Identifiers of records, if any. -/
def RecordId.readList : Json → Checked (Option (List RecordId)) := optional (list RecordId.read)

namespace Query

/-- A filter of the kind that its tag names, the causes placed below the tag. -/
def readFilter : Json → Checked Filter :=
  tagged "type" fun tag => (FilterKind.ofName? tag).map Filter.read

/-- What was selected in an aggregation. -/
def readSelection (x : Json) : Checked Json := (record x).map .obj

/-- The first item that is an object without the tag of a known kind is reported. -/
def checkKinds : List Json → Except Failure Unit
  | [] => .ok ()
  | .obj ms :: xs =>
    match FilterKind.ofTag (Filter.tagOf ms) with
    | .ok _ => checkKinds xs
    | .error failure => .error failure
  | _ :: xs => checkKinds xs

/-- The kinds of the filters that a value holds are looked at. -/
def checkKindsIn (x : Json) : Except Failure Unit :=
  if x.isTruthy then do
    let xs ← Json.orFail x.elements
    checkKinds xs
  else .ok ()

/-- The first tag of the filters that names no kind cannot be named in turn. -/
def hasNamelessKind (x : Json) : Bool :=
  match checkKindsIn x with
  | .ok _ => false
  | .error failure => failure = .fault .value

/-- Filters.  A tag that names no kind and cannot be named is what is wrong with all of them. -/
def readFilters (x : Json) : Checked (List Filter) :=
  if hasNamelessKind x then refuse .valueError x else list readFilter x

/-- The members of a query. -/
def readMembers (size : Int) (shape : Rule) (ms : Members) : Checked Query :=
  Query.mk <$> defaulted ms "q" string ""
    <*> defaulted ms "ids" RecordId.readList none
    <*> defaulted ms "boost_fields" (BoostField.readList shape) []
    <*> aliased ms "bool" "bool_clauses" (BoolClauses.read shape) .none
    <*> defaulted ms "filters" readFilters []
    <*> defaulted ms "aggs" (dictionary Aggregation.read) []
    <*> defaulted ms "selected_aggregations" (dictionary readSelection) []
    <*> defaulted ms "facets" (dictionary Facet.read) []
    <*> defaulted ms "sort" (SortKey.readList shape) []
    <*> defaulted ms "highlights" (list string) []
    <*> defaulted ms "size" count size
    <*> aliased ms "from" "from_" count 0
    <*> defaulted ms "mode" Mode.read .default

/--
Before anything is refused, the kinds of the filters are looked at.  A tag that cannot be named is
left to the reading of the filters.
-/
def checkFilters (ms : Members) : Except Failure Unit :=
  match ms.lookup "filters" with
  | some x => if hasNamelessKind x then .ok () else checkKindsIn x
  | none => .ok ()

/--
A query, with the number of records to return when it names none and the rule under which a
structured value that is no object is refused.
-/
def read (size : Int) (shape : Rule) : Json → Except Failure Query
  | .obj ms => do
    checkFilters ms
    (readMembers size shape ms).orFail
  | x => .error (.invalid [⟨[], shape, x⟩])

end Query

/-- A boosted field written out. -/
def BoostField.toJson (b : BoostField) : Json :=
  .obj [("field", .str b.field), ("boost", (b.boost.map Json.float).getD .null)]

/-- A demand written out. -/
def BoolClause.write (any : Json → Json) (c : BoolClause) : Json :=
  .obj [("field", .str c.field), ("value", any c.value)]

/-- Further demands written out. -/
def BoolClauses.write (any : Json → Json) (c : BoolClauses) : Json :=
  .obj [("must", .arr (c.must.map (BoolClause.write any))),
    ("should", .arr (c.should.map (BoolClause.write any))),
    ("must_not", .arr (c.mustNot.map (BoolClause.write any)))]

/-- A sort key written out. -/
def SortKey.write (any : Json → Json) (k : SortKey) : Json :=
  .obj (("field", .str k.field) :: k.options.map fun (name, x) => (name, any x))

namespace Query

/-- Identifiers written out. -/
def idsToJson : Option (List RecordId) → Json
  | some ids => .arr (ids.map RecordId.toJson)
  | none => .null

/-- The members that write out a query, values of any kind being written as the argument says. -/
def writeMembers (any : Json → Json) (q : Query) : Members :=
  [("q", .str q.text),
    ("ids", idsToJson q.ids),
    ("boost_fields", .arr (q.boosts.map BoostField.toJson)),
    ("bool", q.clauses.write any),
    ("filters", .arr (q.filters.map (Filter.write any))),
    ("aggs", .obj (q.aggregations.map fun (k, a) => (k, a.write any))),
    ("selected_aggregations", .obj (q.selections.map fun (k, x) => (k, any x))),
    ("facets", .obj (q.facets.map fun (k, f) => (k, f.toJson))),
    ("sort", .arr (q.sort.map (SortKey.write any))),
    ("highlights", .arr (q.highlights.map Json.str)),
    ("size", .int q.size),
    ("from", .int q.start),
    ("mode", .str q.mode.name)]

/-- The members that write out a query. -/
def toMembers (q : Query) : Members := q.writeMembers id

/-- A query written out. -/
def toJson (q : Query) : Json := .obj q.toMembers

/-- A query as a client sees it. -/
def presented (q : Query) : Json := .obj (q.writeMembers Json.presented)

/-- The values of any kind in a query. -/
def anyValues (q : Query) : List Json :=
  q.clauses.all.map BoolClause.value ++ q.filters.flatMap Filter.anyValues
    ++ (Members.values q.aggregations).flatMap Aggregation.anyValues
    ++ (Members.values q.selections).flatMap Json.parts
    ++ q.sort.flatMap fun k => Members.values k.options

/-- A query as a client sees it, if it can be shown. -/
def present (q : Query) : Except Failure Json := Json.shownWith q.anyValues q.presented

end Query

end FacetedSearch
