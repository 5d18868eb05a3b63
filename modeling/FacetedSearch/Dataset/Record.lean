import FacetedSearch.Failure
import FacetedSearch.Validation.Scalar

/-!
# Records

A record is stored under an identifier of the engine, a text, and is read back as its source.  The
record's own identifier, when it has one, is the one that counts; one that has no text cannot be
stored under.

* `Record.ofDocument` — the record that the engine returned.
* `Record.engineId` — the identifier that a record is stored under.
-/

set_option autoImplicit false

namespace FacetedSearch.Record

/-- The members that are given as pairs, the last one of a name being the one that counts. -/
def ofPairs : List (Json × Json) → Checked Members
  | [] => .ok []
  | (key, x) :: pairs =>
    Checked.seq (Checked.map (fun name ms => (name, x) :: ms)
      ((Checked.string key).under (.key key.label))) (ofPairs pairs)

/-- The members of an object, or of a sequence of pairs. -/
def membersOf : Json → Except Failure Members
  | .obj ms => .ok ms
  | x => do
    let pairs ← Json.orFail x.toPairs
    return Members.ofList (← (ofPairs pairs).orFail)

/-- What the engine stored, or nothing. -/
def source (document : Json) : Except Failure Members := do
  let stored ← Json.orFail (document.getD "_source" .null)
  membersOf (stored.orElse (.obj []))

/--
The record that was asked for under an identifier: its source, with the identifier that the engine
reports, or else the one asked for, when the source has none.
-/
def ofDocument (asked document : Json) : Except Failure Members := do
  let ms ← source document
  if Members.has "id" ms then return ms
  else return Members.insert "id" (← Json.orFail (document.getD "_id" asked)) ms

/-- The identifier that a record is stored under: the text of its own, or null if it has none. -/
def engineId (record : Json) : Except Fault Json := do
  match ← record.getD "id" .null with
  | .null => return .null
  | id => id.text.map .str

end FacetedSearch.Record
