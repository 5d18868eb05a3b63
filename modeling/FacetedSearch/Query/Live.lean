import FacetedSearch.Query.Wire
import FacetedSearch.Search.Body

/-!
# Live queries

A query that lives as long as its data set can be changed by mutations, by partial updates, and by
plain assignment to some of its attributes.  An assignment is not checked, so what was assigned may
turn out unusable later; a *snapshot* checks everything again.  A snapshot copies all values, and how
deep they may nest before there is no room for that is not modelled.

* `LiveQuery` — a query and the assigned values that do not fit it.
* `LiveQuery.assign` — plain assignment.
* `LiveQuery.snapshot` — the query as it is, checked.
* `LiveQuery.update` — a partial update, which is read as a whole or not at all.
-/

set_option autoImplicit false

namespace FacetedSearch

/-- The attributes that can be assigned. -/
inductive Attribute where
  | text
  | ids
  | highlights
  | size
  | start
  | mode
  deriving DecidableEq, Repr

namespace Attribute

/-- The name under which an attribute is assigned and reported. -/
def name : Attribute → String
  | text => "q"
  | ids => "ids"
  | highlights => "highlights"
  | size => "size"
  | start => "from_"
  | mode => "mode"

/-- The attribute of that name. -/
def ofName? (s : String) : Option Attribute :=
  [text, ids, highlights, size, start, mode].find? fun a => a.name == s

/-- An integer as a client sees it: a truth value counts as the number it stands for. -/
def presentedInteger : Json → Json
  | .bool b => .int (Json.countOf b)
  | x => x.presented

/-- An assigned value as a client sees it. -/
def presented (a : Attribute) (x : Json) : Json :=
  match a, x with
  | .size, x => presentedInteger x
  | .start, x => presentedInteger x
  | .ids, .arr xs => .arr (xs.map presentedInteger)
  | _, x => x.presented

/-- The values of any kind in an assigned value: the items of a list of identifiers or of fields. -/
def anyValues (a : Attribute) (x : Json) : List Json :=
  match a, x with
  | .ids, .arr xs => xs
  | .highlights, .arr xs => xs
  | _, x => [x]

/-- The second names of members, and the names on the wire that they stand for. -/
def wireNames : List (String × String) := [("from_", "from"), ("bool_clauses", "bool")]

/-- The name on the wire of a member that may be given by its second name. -/
def wireName (s : String) : String := (wireNames.lookup s).getD s

end Attribute

/-- A query together with the assigned values that have the wrong form for it. -/
structure LiveQuery where
  query : Query
  /-- assigned values that do not fit, newest value of each attribute only -/
  unfit : List (Attribute × Json)
  deriving DecidableEq, Repr

/-- An identifier that already has the right form. -/
def RecordId.ofJson? : Json → Option RecordId
  | .str s => some (.text s)
  | .int n => some (.number n)
  | _ => none

/-- A string. -/
def Json.string? : Json → Option String
  | str s => some s
  | _ => none

namespace Query

/-- The value of an attribute. -/
def value (q : Query) : Attribute → Json
  | .text => .str q.text
  | .ids => idsToJson q.ids
  | .highlights => .arr (q.highlights.map .str)
  | .size => .int q.size
  | .start => .int q.start
  | .mode => .str q.mode.name

/-- The query with another value of an attribute, if the value has the right form as it is. -/
def assign? (q : Query) (a : Attribute) (x : Json) : Option Query :=
  match a, x with
  | .text, .str s => some { q with text := s }
  | .ids, .null => some { q with ids := none }
  | .ids, .arr xs => (xs.mapM RecordId.ofJson?).map fun ids => { q with ids := some ids }
  | .highlights, .arr xs => (xs.mapM Json.string?).map fun names => { q with highlights := names }
  | .size, .int n => some { q with size := n }
  | .start, .int n => some { q with start := n }
  | .mode, .str s => (Mode.ofName? s).map fun mode => { q with mode := mode }
  | _, _ => none

end Query

namespace LiveQuery

/-- A query to which nothing unfit has been assigned. -/
def ofQuery (q : Query) : LiveQuery := ⟨q, []⟩

/-- The value of an attribute, fit or not. -/
def value (l : LiveQuery) (a : Attribute) : Json := (l.unfit.lookup a).getD (l.query.value a)

/-- Assign a value to an attribute, fit or not. -/
def assign (l : LiveQuery) (a : Attribute) (x : Json) : LiveQuery :=
  let others := l.unfit.filter fun m => m.1 != a
  match l.query.assign? a x with
  | some q => ⟨q, others⟩
  | none => { l with unfit := (a, x) :: others }

/--
The members that write out the query, values of any kind and assigned values being written as the
arguments say.
-/
def writeMembers (any : Json → Json) (assigned : Attribute → Json → Json) (l : LiveQuery) : Members :=
  l.unfit.foldl (fun ms m => Members.insert (Attribute.wireName m.1.name) (assigned m.1 m.2) ms)
    (l.query.writeMembers any)

/-- The query as a client sees it. -/
def presented (l : LiveQuery) : Json := .obj (l.writeMembers Json.presented Attribute.presented)

/-- The values of any kind in the query. -/
def anyValues (l : LiveQuery) : List Json :=
  l.query.anyValues ++ l.unfit.flatMap fun m => m.1.anyValues m.2

/-- The query as a client sees it, if it can be shown. -/
def present (l : LiveQuery) : Except Failure Json := Json.shownWith l.anyValues l.presented

/-- The checked value of an attribute. -/
def check {α : Type} (l : LiveQuery) (a : Attribute) (reader : Json → Checked α) : Checked α :=
  (reader (l.value a)).under (.key a.name)

/-- The query as it is.  Only assigned attributes, the paging and the selections can be refused. -/
def snapshot (l : LiveQuery) : Checked Query :=
  (fun text ids selections highlights size start mode =>
    { l.query with text, ids, selections, highlights, size, start, mode })
    <$> l.check .text Checked.string
    <*> l.check .ids RecordId.readList
    <*> (Checked.members Query.readSelection l.query.selections).under (.key "selected_aggregations")
    <*> l.check .highlights (Checked.list Checked.string)
    <*> l.check .size Checked.count
    <*> l.check .start Checked.count
    <*> l.check .mode Mode.read

/-- Identifiers of whatever form, if there are any. -/
def idValues : Json → Except Failure (Option (List Json))
  | .null => .ok none
  | x => (Json.orFail x.elements).map some

/-- The plain attributes as they are, fit or not. -/
def plain (l : LiveQuery) : Except Failure PlainAttributes := do
  let ids ← idValues (l.value .ids)
  return {
    ids := ids
    text := l.value .text
    highlights := markedNames (l.value .text) (l.value .highlights)
    size := l.value .size
    start := l.value .start
    allTypes := l.value .mode == .str Mode.allTypes.name }

/-- The body of the query as it is, or why there is none. -/
def searchBody (s : Settings) (l : LiveQuery) : Except Failure SearchBody := do
  let p ← l.plain
  l.query.searchBodyWith s p

/-- The members of the query after the given ones, the last one of a name being the one that counts. -/
def merge (l : LiveQuery) (updates : Members) : Members :=
  updates.foldl (fun ms m => Members.insert (Attribute.wireName m.1) m.2 ms) (l.writeMembers id fun _ x => x)

/--
A partial update: the query is written out, the given members replace those of their names, by either
name, and the whole is read again.
-/
def update (s : Settings) (l : LiveQuery) (updates : Json) : Except Failure LiveQuery := do
  let ms ← Json.orFail updates.members
  let q ← Query.read s.defaultSize .modelType (.obj (l.merge ms))
  return ofQuery q

end LiveQuery

end FacetedSearch
