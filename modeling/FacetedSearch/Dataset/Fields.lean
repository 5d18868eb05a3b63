import FacetedSearch.Failure
import FacetedSearch.Json.Presented
import FacetedSearch.Validation.Scalar

/-!
# The fields of an index

The engine describes an index by a mapping from its name to a schema.  The properties of the schema
may lie below `mappings`, and there again below the name of the only type of records; newer engines
leave both levels out.

* `FieldInfo` — one field: its name, its type and whatever else the schema says about it.
* `Schema.ofMapping` — the schema, wherever it lies.
* `FieldInfo.ofMapping` — the fields that a mapping lists, in order.
-/

set_option autoImplicit false

namespace FacetedSearch

open Checked

/-- One field of an index. -/
structure FieldInfo where
  id : String
  type : Option String
  extra : Members
  deriving DecidableEq, Repr

namespace Schema

/-- The value below a name; only an object has one. -/
def below (name : String) : Json → Except Fault Json
  | .obj ms =>
    match ms.lookup name with
    | some x => .ok x
    | none => .error .key
  | _ => .error .type

/-- The first of the values of an object. -/
def firstValue (x : Json) : Except Fault Json := do
  match ← x.members with
  | (_, value) :: _ => return value
  | [] => .error .index

/-- Whether a value has exactly one part. -/
def isSingle : Json → Bool
  | .obj ms => ms.length == 1
  | .arr xs => xs.length == 1
  | .str s => s.length == 1
  | _ => false

/-- The value itself if it is an object with properties. -/
def withProperties? : Json → Option Json
  | .obj ms => if Members.has "properties" ms then some (.obj ms) else none
  | _ => none

/-- What lies below `mappings`, if there is such a level. -/
def dropMappings (schema : Json) : Except Fault Json := do
  if ← schema.mentions "mappings" then below "mappings" schema else return schema

/-- What lies below the only type of records, if there is such a level. -/
def dropType (schema : Json) : Except Fault Json := do
  if !(← schema.mentions "properties") && isSingle schema then
    return (withProperties? (← firstValue schema)).getD schema
  else return schema

/-- The schema of the first index of a mapping. -/
def ofMapping (mapping : Json) : Except Fault Json := do
  let schema ← firstValue mapping
  let schema ← dropMappings schema
  dropType schema

end Schema

namespace FieldInfo

/-- One field, from the members that the schema has for it. -/
def read (id : String) (ms : Members) : Checked FieldInfo :=
  (fun type => ⟨id, type, Members.erase "type" (Members.erase "id" ms)⟩)
    <$> defaulted ms "type" (optional string) none

/-- One field; its name is the one that the schema lists it under. -/
def ofProperty (id : String) (definition : Json) : Except Failure FieldInfo := do
  let ms ← Json.orFail definition.members
  (read id ms).orFail

/-- All fields, in order. -/
def ofProperties : Members → Except Failure (List FieldInfo)
  | [] => .ok []
  | (id, definition) :: ms => do
    let field ← ofProperty id definition
    let fields ← ofProperties ms
    return field :: fields

/-- The fields that a mapping lists. -/
def ofMapping (mapping : Json) : Except Failure (List FieldInfo) := do
  if mapping.isTruthy then
    let schema ← Json.orFail (Schema.ofMapping mapping)
    let properties ← Json.orFail (schema.getD "properties" (.obj []))
    ofProperties (← Json.orFail properties.members)
  else .error (.engineFailed (.str "OpenSearch did not return a mapping") .null)

/-- One field as a client sees it. -/
def presented (f : FieldInfo) : Json :=
  .obj ([("id", .str f.id), ("type", (f.type.map Json.str).getD .null)]
    ++ Json.presentedMembers f.extra)

/-- The values of any kind in fields. -/
def anyValues (fs : List FieldInfo) : List Json := fs.flatMap fun f => Members.values f.extra

/-- Fields as a client sees them, if they can be shown. -/
def presentAll (fs : List FieldInfo) : Except Failure Json :=
  Json.shownWith (anyValues fs) (.arr (fs.map presented))

end FieldInfo

end FacetedSearch
