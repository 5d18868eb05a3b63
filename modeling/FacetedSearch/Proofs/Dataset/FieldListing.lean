import FacetedSearch.Proofs.Dataset.Storage

/-!
# Listing the fields of an index

The properties of an index lie at one of three places in what the engine says of it: below
`mappings`, directly below a type of records, or below both.  The same fields are listed wherever
they lie, and whatever the index, its types and its fields are called.

* `FieldInfo.listed` — what is told of a field.
* `FieldInfo.ofProperties_eq` — every property is listed, in order.
* `Schema.Layout` — where the properties can lie.
* `Schema.getD_ofMapping` — the properties are found wherever they lie.
* `Dataset.fetchFields_of_layout` — the fields that are listed.
-/

set_option autoImplicit false

namespace FacetedSearch

open Checked

/-- The engine says which type the property has, or leaves it open. -/
def Schema.Typed (definition : Members) : Prop :=
  ∀ x, definition.lookup "type" = some x → x = .null ∨ ∃ s, x = .str s

namespace FieldInfo

/-- What is told of a field: its name, its type, and everything else that the engine says of it. -/
def listed (name : String) (definition : Members) : FieldInfo where
  id := name
  type := (definition.lookup "type").bind Json.string?
  extra := definition.filter fun m => m.1 ≠ "id" ∧ m.1 ≠ "type"

theorem ofProperty_eq {definition : Members} (h : Schema.Typed definition) (name : String) :
    ofProperty name (.obj definition) = .ok (listed name definition) := by
  have hextra : Members.erase "type" (Members.erase "id" definition) =
      definition.filter fun m => m.1 ≠ "id" ∧ m.1 ≠ "type" := by
    unfold Members.erase
    rw [List.filter_filter]
    refine List.filter_congr fun m _ => ?_
    rw [Bool.eq_iff_iff]
    simp [and_comm]
  have htype : defaulted definition "type" (optional string) none =
      .ok ((definition.lookup "type").bind Json.string?) := by
    unfold defaulted
    cases hx : definition.lookup "type" with
    | none => rfl
    | some x =>
      obtain rfl | ⟨s, rfl⟩ := h x hx
      · rfl
      · rfl
  show (read name definition).orFail = _
  unfold read listed
  rw [htype, hextra]
  rfl

/-- Every property is listed, in order. -/
theorem ofProperties_eq {properties : List (String × Members)}
    (h : ∀ p ∈ properties, Schema.Typed p.2) :
    ofProperties (properties.map fun p => (p.1, .obj p.2)) =
      .ok (properties.map fun p => listed p.1 p.2) := by
  induction properties with
  | nil => rfl
  | cons p properties ih =>
    have hothers := ih fun q hq => h q (List.mem_cons_of_mem p hq)
    rw [List.map_cons, ofProperties, ofProperty_eq (h p List.mem_cons_self), hothers]
    rfl

end FieldInfo

namespace Schema

/-- Where the properties of an index can lie. -/
inductive Layout (properties : Json) : Json → Prop where
  /-- below `mappings` -/
  | mappings {index : String} {schema ms : Members}
      (hschema : schema.lookup "mappings" = some (.obj ms))
      (hms : ms.lookup "properties" = some properties) :
      Layout properties (.obj [(index, .obj schema)])
  /-- below a type of records -/
  | type {type : String} {schema : Members} (hschema : schema.lookup "mappings" = none)
      (hms : schema.lookup "properties" = some properties) :
      Layout properties (.obj [(type, .obj schema)])
  /-- below `mappings`, and there below the only type of records -/
  | mappingsType {index type : String} {schema ms : Members} (htype : type ≠ "properties")
      (hschema : schema.lookup "mappings" = some (.obj [(type, .obj ms)]))
      (hms : ms.lookup "properties" = some properties) :
      Layout properties (.obj [(index, .obj schema)])

theorem mentions_of_lookup {ms : Members} {key : String} {x : Json} (h : ms.lookup key = some x) :
    Json.mentions (.obj ms) key = .ok true := by
  rw [Json.mentions, Members.has, h]
  rfl

theorem mentions_of_absent {ms : Members} {key : String} (h : ms.lookup key = none) :
    Json.mentions (.obj ms) key = .ok false := by
  rw [Json.mentions, Members.has, h]
  rfl

theorem dropMappings_of_lookup {schema : Members} {x : Json}
    (h : schema.lookup "mappings" = some x) : dropMappings (.obj schema) = .ok x := by
  have hbelow : below "mappings" (.obj schema) = .ok x := by
    unfold below
    dsimp only
    rw [h]
  unfold dropMappings
  rw [mentions_of_lookup h]
  exact hbelow

theorem dropMappings_of_absent {schema : Members} (h : schema.lookup "mappings" = none) :
    dropMappings (.obj schema) = .ok (.obj schema) := by
  unfold dropMappings
  rw [mentions_of_absent h]
  rfl

theorem dropType_of_properties {ms : Members} {x : Json} (h : ms.lookup "properties" = some x) :
    dropType (.obj ms) = .ok (.obj ms) := by
  unfold dropType
  rw [mentions_of_lookup h]
  rfl

theorem dropType_single {type : String} {ms : Members} {x : Json} (htype : type ≠ "properties")
    (h : ms.lookup "properties" = some x) : dropType (.obj [(type, .obj ms)]) = .ok (.obj ms) := by
  have habsent : List.lookup "properties" [(type, Json.obj ms)] = none := by
    rw [Members.lookup_cons_ite, if_neg htype.symm]
    rfl
  have hproperties : withProperties? (.obj ms) = some (.obj ms) := by
    rw [withProperties?, Members.has, h]
    rfl
  unfold dropType
  rw [mentions_of_absent habsent]
  show Except.ok ((withProperties? (.obj ms)).getD _) = _
  rw [hproperties]
  rfl

/-- The properties are found wherever they lie. -/
theorem ofMapping_of_layout {properties mapping : Json} (h : Layout properties mapping) :
    ∃ ms : Members,
      ofMapping mapping = .ok (.obj ms) ∧ ms.lookup "properties" = some properties := by
  cases h with
  | @mappings index schema ms hschema hms =>
    -- what lies below has properties, and so it is not looked into for a type
    refine ⟨ms, ?_, hms⟩
    show (dropMappings (.obj schema) >>= dropType) = _
    rw [dropMappings_of_lookup hschema]
    exact dropType_of_properties hms
  | @type type schema hschema hms =>
    refine ⟨schema, ?_, hms⟩
    show (dropMappings (.obj schema) >>= dropType) = _
    rw [dropMappings_of_absent hschema]
    exact dropType_of_properties hms
  | @mappingsType index type schema ms htype hschema hms =>
    refine ⟨ms, ?_, hms⟩
    show (dropMappings (.obj schema) >>= dropType) = _
    rw [dropMappings_of_lookup hschema]
    exact dropType_single htype hms

end Schema

/-- The fields that a mapping lists do not depend on where its properties lie. -/
theorem FieldInfo.ofMapping_of_layout {properties : List (String × Members)}
    (hproperties : ∀ p ∈ properties, Schema.Typed p.2) {mapping : Json}
    (h : Schema.Layout (.obj (properties.map fun p => (p.1, .obj p.2))) mapping) :
    ofMapping mapping = .ok (properties.map fun p => listed p.1 p.2) := by
  obtain ⟨ms, hschema, hms⟩ := Schema.ofMapping_of_layout h
  have htruthy : mapping.isTruthy = true := by
    cases h <;> rfl
  have hget : Json.getD (.obj ms) "properties" (.obj []) =
      .ok (.obj (properties.map fun p => (p.1, .obj p.2))) := by
    show Except.ok ((ms.lookup "properties").getD _) = _
    rw [hms]
    rfl
  unfold ofMapping
  rw [if_pos htruthy, hschema]
  show (Json.orFail (Json.getD (.obj ms) "properties" (.obj [])) >>=
    fun properties => Json.orFail properties.members >>= ofProperties) = _
  rw [hget]
  exact ofProperties_eq hproperties

namespace Dataset

open SessionM

/-- **The same fields are listed wherever the engine has the properties**: one for each property, in
order, with its name, its type and everything else that is said of it. -/
theorem fetchFields_of_layout {properties : List (String × Members)}
    (hproperties : ∀ p ∈ properties, Schema.Typed p.2) {mapping : Json}
    (h : Schema.Layout (.obj (properties.map fun p => (p.1, .obj p.2))) mapping)
    {inner : Meaning} {s t : Session} (hcall : call inner .getMapping s = .ok mapping t) :
    fetchFields inner s = .ok (properties.map fun p => FieldInfo.listed p.1 p.2) t := by
  show EStateM.bind (call inner .getMapping) _ s = _
  unfold EStateM.bind
  rw [hcall]
  dsimp only
  rw [FieldInfo.ofMapping_of_layout hproperties h]
  rfl

/-- The index, its type and its fields are called like the levels between them. -/
theorem fetchFields_of_layout_called_alike :
    [.obj [("properties", .obj [("mappings", .obj [("dynamic", .str "strict"),
        ("properties", .obj [("mappings", .obj [("id", .str "x"), ("type", .str "text")]),
          ("properties", .obj [("index", .bool false)])])])])],
      .obj [("mappings", .obj [
        ("properties", .obj [("mappings", .obj [("id", .str "x"), ("type", .str "text")]),
          ("properties", .obj [("index", .bool false)])])])],
      .obj [("index", .obj [("mappings", .obj [("mappings", .obj [
        ("properties", .obj [("mappings", .obj [("id", .str "x"), ("type", .str "text")]),
          ("properties", .obj [("index", .bool false)])])])])])]].Forall fun mapping : Json =>
      fetchFields (fun _ => pure .null)
          ((Session.start (.ofQuery (Query.blank 10)) false).expecting (.ok mapping)) =
        .ok [⟨"mappings", some "text", []⟩, ⟨"properties", none, [("index", .bool false)]⟩]
          ((Session.start (.ofQuery (Query.blank 10)) false).asked .getMapping) := by
  have htyped : ∀ p ∈ [("mappings", [("id", .str "x"), ("type", .str "text")]),
      ("properties", [("index", .bool false)])], Schema.Typed p.2 := by
    simp [Schema.Typed, Members.lookup_cons_ite]
  refine List.forall_iff_forall_mem.2 fun mapping hmapping => ?_
  refine fetchFields_of_layout htyped ?_ (call_expecting _ _ _ _)
  simp only [List.mem_cons, List.not_mem_nil, or_false] at hmapping
  obtain rfl | rfl | rfl := hmapping
  · exact .mappings rfl rfl
  · exact .type rfl rfl
  · exact .mappingsType (by decide) rfl rfl

end Dataset

end FacetedSearch
