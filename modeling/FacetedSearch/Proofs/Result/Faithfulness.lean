import FacetedSearch.Proofs.Result.Mapping

/-!
# Nothing is lost between the engine and the result

Of a response that maps every hit, every facet, every aggregation and every bucket comes out once and
in its place, and whatever the result has no field for comes through as it was.  A record only gets
the identifier of its hit, when its source has none, and the matches that are marked in it.

* `DocumentOf`, `FacetOf`, `BucketOf`, `AggregationOf` — a part of a result beside the part of the
  response that it comes from.
* `CountIs` — the number of records found, in the forms in which an engine writes it.
* `Faithful` — a result beside a response.
* `Query.mapResponse_faithful` — a response either reports an error, which is passed on as a whole,
  or its result is faithful to it.
-/

set_option autoImplicit false

namespace FacetedSearch

open Engine

/-! ## Records -/

/-- The names that a record has besides those of its source. -/
def addedNames (hit : Json) : List String :=
  (if (counted? "_id" hit).isSome = true ∧ ¬ Members.has "id" (named "_source" hit)
    then ["id"] else [])
  ++ (if (counted? "highlight" hit).isSome = true ∧ ¬ Members.has "highlight" (named "_source" hit)
    then ["highlight"] else [])

/-- A record beside its hit: the source, an identifier being put in where it has none, and the marked
matches. -/
structure DocumentOf (hit : Json) (doc : Members) : Prop where
  source : Named "_source" hit
  names : doc.map Prod.fst = (named "_source" hit).map Prod.fst ++ addedNames hit
  id : doc.lookup "id" = ((named "_source" hit).lookup "id").or (counted? "_id" hit)
  highlight : doc.lookup "highlight" =
    (counted? "highlight" hit).or ((named "_source" hit).lookup "highlight")
  others : Members.without ["id", "highlight"] doc =
    Members.without ["id", "highlight"] (named "_source" hit)

open Members in
theorem documentOf_of_document {hit : Json} {doc : Members}
    (h : Mapping.document hit = .ok (.obj doc)) : DocumentOf hit doc := by
  obtain ⟨hsource, rfl⟩ := Mapping.document_eq_ok h
  have hassigned : (if has "id" (named "_source" hit) then none else counted? "_id" hit).or
      ((named "_source" hit).lookup "id") =
        ((named "_source" hit).lookup "id").or (counted? "_id" hit) := by
    rw [has]
    cases (named "_source" hit).lookup "id" <;> simp
  refine
    { source := hsource
      names := ?_
      id := ?_
      highlight := ?_
      others := ?_ }
  · rw [map_fst_insertGiven, map_fst_insertGiven, has_insertGiven_of_ne (by decide),
      List.append_assoc, addedNames]
    cases has "id" (named "_source" hit) <;> simp
  · rw [lookup_insertGiven, if_neg (by decide), lookup_insertGiven, if_pos rfl, hassigned]
  · rw [lookup_insertGiven, if_pos rfl, lookup_insertGiven, if_neg (by decide)]
  · rw [without_insertGiven (by simp), without_insertGiven (by simp)]

/-! ## Facets -/

/-- The members of a raw facet that a facet has a field for. -/
def facetNames : List String := ["id", "_type", "kind", "total", "other", "missing", "terms"]

/-- A facet beside what the engine sent under its name. -/
structure FacetOf (name : String) (raw : Members) (f : FacetResult) : Prop where
  id : f.id = name
  kind : ((raw.lookup "_type").or (raw.lookup "kind")).getD (.str "terms") = .str f.kind
  total : Checked.defaulted raw "total" Checked.integer 0 = .ok f.total
  other : Checked.defaulted raw "other" Checked.integer 0 = .ok f.other
  missing : Checked.defaulted raw "missing" Checked.integer 0 = .ok f.missing
  terms : (raw.lookup "terms").getD (.arr []) = .arr (f.terms.map .obj)
  extra : f.extra.Sublist raw
  others : Members.without facetNames f.extra = Members.without facetNames raw

theorem Checked.defaulted_insert {α : Type} {key name : String} (h : name ≠ key) (x : Json)
    (ms : Members) (check : Json → Checked α) (absent : α) :
    defaulted (Members.insert key x ms) name check absent = defaulted ms name check absent := by
  unfold defaulted
  rw [Members.lookup_insert, if_neg h]

/-- All that a facet reads is something a facet has a field for. -/
theorem FacetResult.known_subset (ms : Members) : FacetResult.known ms ⊆ facetNames := by
  unfold FacetResult.known facetNames
  split <;> decide

theorem facetOf_of_facet {name : String} {x : Json} {f : FacetResult}
    (h : Mapping.facet name x = .ok f) : ∃ raw, x = .obj raw ∧ FacetOf name raw f := by
  obtain ⟨raw, rfl, hread⟩ := Mapping.facet_eq_ok_iff.1 h
  obtain ⟨hid, hkind, htotal, hother, hmissing, hterms, hextra⟩ :=
    FacetResult.read_eq_ok_iff.1 hread
  rw [Checked.defaulted_insert (by decide)] at htotal hother hmissing hterms
  refine ⟨raw, rfl, ?_⟩
  refine
    { id := ?_
      kind := ?_
      total := htotal
      other := hother
      missing := hmissing
      terms := Checked.defaulted_records_eq_ok hterms
      extra := ?_
      others := ?_ }
  · rcases Checked.defaulted_eq_ok_iff.1 hid with ⟨hnone, -⟩ | ⟨x, hx, hs⟩
    · simp [Members.lookup_insert] at hnone
    · rw [Members.lookup_insert, if_pos rfl] at hx
      cases hx
      cases hs
      rfl
  · have hkind := Checked.aliased_string_eq_ok hkind
    rwa [Members.lookup_insert, if_neg (by decide), Members.lookup_insert, if_neg (by decide)]
      at hkind
  · rw [hextra, Members.without_insert (by simp [FacetResult.known])]
    exact List.filter_sublist
  · rw [hextra, Members.without_without (FacetResult.known_subset _),
      Members.without_insert (by decide)]

/-! ## Aggregations -/

/-- A bucket beside what the engine sent in its place. -/
structure BucketOf (raw : Members) (b : Bucket) : Prop where
  key : b.key = (raw.lookup "key").getD .null
  docCount : Checked.defaulted raw "doc_count" Checked.integer 0 = .ok b.docCount
  others : b.extra = Members.without ["key", "doc_count", "selected"] raw

/-- An aggregation beside what the engine sent under its name. -/
structure AggregationOf (name : String) (raw : Members) (a : AggregationResult) : Prop where
  key : a.key = name
  listed : Listed "buckets" (.obj raw)
  buckets : List.Forall₂ (fun x b => ∃ ms, x = .obj ms ∧ BucketOf ms b)
    (Engine.listed "buckets" (.obj raw)) a.buckets
  others : a.extra = Members.without ["id", "key", "kind", "buckets", "selected"] raw

theorem bucketOf_of_read {raw : Members} {b : Bucket} (h : Bucket.read raw = .ok b)
    (terms : List Json) : BucketOf raw (Mapping.selectIn terms b) := by
  obtain ⟨hkey, hcount, -, hextra⟩ := Bucket.read_eq_ok_iff.1 h
  exact ⟨hkey, hcount, hextra⟩

theorem aggregationOf_of_aggregation {q : Query} {name : String} {x : Json} {a : AggregationResult}
    (h : Mapping.aggregation q name x = .ok a) : ∃ raw, x = .obj raw ∧ AggregationOf name raw a := by
  obtain ⟨raw, rfl, hlisted, -, hbuckets, hkey, -, hextra⟩ := Mapping.aggregation_eq_ok h
  refine ⟨raw, rfl, hkey, hlisted, ?_, hextra⟩
  refine (Mapping.selectBuckets_eq_ok_iff.1 hbuckets).imp ?_
  rintro x b ⟨ms, c, hx, hread, rfl⟩
  exact ⟨ms, hx, bucketOf_of_read hread _⟩

/-! ## Results -/

/-- The number of records found, as an engine writes it: as such, in an object, or not at all. -/
inductive CountIs : Option Json → Int → Prop where
  | absent : CountIs none 0
  | plain (n : Int) : CountIs (some (.int n)) n
  | wrapped {ms : Members} {n : Int} (h : ms.lookup "value" = some (.int n)) :
    CountIs (some (.obj ms)) n

theorem total_eq_of_countIs {hits : Members} {n m : Int}
    (h : CountIs (part? "total" (.obj hits)) n) (hm : Mapping.total (.obj hits) = .ok m) : m = n := by
  have htotal : (Json.obj hits).get? "total" = .ok (part? "total" (.obj hits)) := rfl
  unfold Mapping.total at hm
  rw [htotal] at hm
  generalize part? "total" (.obj hits) = found at h hm
  cases h with
  | absent =>
    cases hm
    rfl
  | plain =>
    have hn : (Json.int n).orElse (.int 0) = .int n := by
      by_cases hzero : n = 0 <;> simp [Json.orElse, Json.isTruthy, hzero]
    change ((Json.int n).orElse (.int 0)).toInteger = .ok m at hm
    rw [hn] at hm
    cases hm
    rfl
  | wrapped hvalue =>
    change Json.toInteger ((List.lookup "value" _).getD (.int 0)) = .ok m at hm
    rw [hvalue] at hm
    cases hm
    rfl

/-- A result beside the response that it comes from: no part is lost, doubled or moved. -/
structure Faithful (response : Json) (r : SearchResult) : Prop where
  sound : ∃ ms, response = .obj ms ∧ ¬ Members.has "error" ms
  hitsNamed : Named "hits" response
  hitsListed : Listed "hits" (.obj (named "hits" response))
  total : ∀ n, CountIs (part? "total" (.obj (named "hits" response))) n → r.total = n
  hits : List.Forall₂ DocumentOf (Engine.hits response) r.hits
  facetsNamed : Named "facets" response
  facets : List.Forall₂
    (fun m f => f.1 = m.1 ∧ ∃ raw, m.2 = .obj raw ∧ FacetOf m.1 raw f.2)
    (named "facets" response) r.facets
  aggregationsNamed : Named "aggregations" response
  aggregations : List.Forall₂
    (fun m a => a.1 = m.1 ∧ ∃ raw, m.2 = .obj raw ∧ AggregationOf m.1 raw a.2)
    (named "aggregations" response) r.aggregations

/-- **A response is mapped faithfully**: one that reports an error fails with the status that it gives
and with all of it, and the result of any other one has every part of the response in its place. -/
theorem Query.mapResponse_faithful (q : Query) (response : Json) :
    (∀ ms, response = .obj ms → Members.has "error" ms →
      q.mapResponse response =
        .error (.queryFailed ((ms.lookup "status").getD (.int 500)) response)) ∧
      ∀ r, q.mapResponse response = .ok r → Faithful response r := by
  constructor
  · rintro ms rfl herror
    exact q.mapResponse_of_error herror
  · intro r hr
    have h := mapResponse_eq_ok hr
    obtain ⟨ms, hms, hno⟩ := h.sound
    exact
      { sound := ⟨ms, hms, by rw [hno]; decide⟩
        hitsNamed := h.hitsNamed
        hitsListed := h.hitsListed
        total := fun n hn => total_eq_of_countIs hn h.total
        hits := h.hits.imp fun _ _ hdoc => documentOf_of_document hdoc
        facetsNamed := h.facetsNamed
        facets := h.facets.imp fun _ _ hf => ⟨hf.1, facetOf_of_facet hf.2⟩
        aggregationsNamed := h.aggregationsNamed
        aggregations := h.aggregations.imp fun _ _ ha => ⟨ha.1, aggregationOf_of_aggregation ha.2⟩ }

theorem Query.mapResponse_faithful_answer :
    let q : Query := { blank 10 with aggregations := [("color", ⟨"color", .terms none⟩)] }
    let failing : Json := .obj [("error", .str "no such index"), ("status", .int 404)]
    let answer : Json := .obj [
      ("hits", .obj [("total", .obj [("value", .int 1)]), ("hits", .arr [
        .obj [("_id", .str "7"), ("_source", .obj [("title", .str "water")])]])]),
      ("facets", .obj [("maker", .obj [("_type", .str "terms"), ("took", .int 3)])]),
      ("aggregations", .obj [("color", .obj [("buckets", .arr [
        .obj [("key", .str "red"), ("doc_count", .int 1), ("score", .int 2)]])])])]
    q.mapResponse failing = .error (.queryFailed (.int 404) failing) ∧
      ∃ r, q.mapResponse answer = .ok r ∧ Faithful answer r := by
  intro q failing answer
  refine ⟨(mapResponse_faithful q failing).1 _ rfl (by decide), _, rfl, ?_⟩
  exact (mapResponse_faithful q answer).2 _ rfl

end FacetedSearch
