import FacetedSearch.Proofs.Number.Value
import FacetedSearch.Proofs.Search.DateFormat
import FacetedSearch.Proofs.Search.Negation
import FacetedSearch.Proofs.Text.Numeral

/-!
# The bounds of ranges

A bound may be any value, and is sent as it is or not at all.  It is sent when it is a number other
than zero, or a text that is a numeral; whether a bound belongs to the range is sent when it is said,
be the bound sent or not.

* `Json.NumericBound` — the values that are sent as bounds.
* `Bounds.SentIn` — what is found in the body of a range.
* `Filter.bounds_sent_iff_numeric` — the bounds that are sent are the numeric ones.
-/

set_option autoImplicit false

namespace FacetedSearch

/-! ## Bounds that are sent -/

/-- The values that are sent as bounds. -/
inductive Json.NumericBound : Json → Prop where
  /-- an integer of any size -/
  | int {n : Int} (nonzero : n ≠ 0) : NumericBound (.int n)
  /-- a floating-point number, or an infinity -/
  | float {x : Double} {n : Number} (number : x.number? = some n) (nonzero : n ≠ .finite 0) :
      NumericBound (.float x)
  /-- a numeral -/
  | text {s : String} (written : Numeral.Written s.toList) : NumericBound (.str s)

theorem Json.isBound_iff {x : Json} : x.isBound = true ↔ x.NumericBound := by
  cases x with
  | int n =>
    rw [isBound, bne_iff_ne]
    exact ⟨.int, fun | .int h => h⟩
  | float x =>
    rw [isBound, Bool.and_eq_true, Bool.not_eq_true', Bool.not_eq_true']
    constructor
    · rintro ⟨hzero, hnumber⟩
      obtain ⟨n, hn⟩ : ∃ n, x.number? = some n := by
        refine Option.ne_none_iff_exists'.1 fun hnone => ?_
        rw [Double.number?_eq_none_iff.1 hnone] at hnumber
        cases hnumber
      refine .float hn ?_
      rintro rfl
      rw [Double.isZero_iff.2 hn] at hzero
      cases hzero
    · rintro (_ | ⟨hn, hnonzero⟩)
      constructor
      · refine Bool.eq_false_iff.2 fun hzero => hnonzero ?_
        exact Option.some.inj (hn.symm.trans (Double.isZero_iff.1 hzero))
      · refine Bool.eq_false_iff.2 fun hnan => ?_
        rw [Double.number?_eq_none_iff.2 hnan] at hn
        cases hn
  | str s =>
    rw [isBound, Numeral.isSome_real?_iff]
    exact ⟨.text, fun | .text h => h⟩
  | null | bool | arr | obj => exact ⟨nofun, nofun⟩

/-! ## What is found in a range -/

namespace Bounds

/-- What is found in the body of a range. -/
structure SentIn (b : Bounds) (body : Members) : Prop where
  lower : ∀ x, body.lookup "from" = some x ↔ x = b.lower ∧ b.lower.NumericBound
  upper : ∀ x, body.lookup "to" = some x ↔ x = b.upper ∧ b.upper.NumericBound
  includeLower : body.lookup "include_lower" = b.includeLower.map .bool
  includeUpper : body.lookup "include_upper" = b.includeUpper.map .bool
  /-- no name stands twice, and nothing but a format is sent beside -/
  names : (body.map Prod.fst).Sublist ["from", "to", "include_lower", "include_upper", "format"]

theorem lookup_sentBound_iff {name : String} {x y : Json} :
    (sentBound name x).lookup name = some y ↔ y = x ∧ x.NumericBound := by
  rw [← Json.isBound_iff]
  unfold sentBound
  split <;> simp [*, eq_comm]

theorem lookup_sentFlag (name : String) (flag : Option Bool) :
    (sentFlag name flag).lookup name = flag.map .bool := by
  cases flag with
  | none => rfl
  | some b => exact List.lookup_cons_self

theorem names_sentBound (name : String) (x : Json) :
    ((sentBound name x).map Prod.fst).Sublist [name] := by
  unfold sentBound
  split
  · exact List.Sublist.refl _
  · exact List.nil_sublist _

theorem names_sentFlag (name : String) (flag : Option Bool) :
    ((sentFlag name flag).map Prod.fst).Sublist [name] := by
  cases flag with
  | none => exact List.nil_sublist _
  | some b => exact List.Sublist.refl _

theorem names_sentFormat (format : Json) :
    ((sentFormat format).map Prod.fst).Sublist ["format"] := by
  unfold sentFormat
  split
  · exact List.Sublist.refl _
  · exact List.nil_sublist _

/-- Bounds are found in what is sent of them, also with a format beside. -/
theorem sentIn_append (b : Bounds) {extra : Members}
    (hextra : (extra.map Prod.fst).Sublist ["format"]) : b.SentIn (b.sent ++ extra) := by
  have hnone {name : String} (hname : name ≠ "format") : extra.lookup name = none := by
    refine Members.lookup_eq_none_iff.2 fun m hm hsame => hname ?_
    rw [← hsame]
    exact List.mem_singleton.1 (hextra.subset (List.mem_map_of_mem hm))
  have hlower {name : String} (h : name ≠ "from") := lookup_sentBound_of_ne h b.lower
  have hupper {name : String} (h : name ≠ "to") := lookup_sentBound_of_ne h b.upper
  have hincludeLower {name : String} (h : name ≠ "include_lower") :=
    lookup_sentFlag_of_ne h b.includeLower
  have hincludeUpper {name : String} (h : name ≠ "include_upper") :=
    lookup_sentFlag_of_ne h b.includeUpper
  unfold sent
  constructor
  · intro x
    simp only [List.lookup_append]
    rw [hupper (by decide), hincludeLower (by decide), hincludeUpper (by decide),
      hnone (by decide)]
    simp only [Option.or_none]
    exact lookup_sentBound_iff
  · intro x
    simp only [List.lookup_append]
    rw [hlower (by decide), hincludeLower (by decide), hincludeUpper (by decide),
      hnone (by decide)]
    simp only [Option.or_none, Option.none_or]
    exact lookup_sentBound_iff
  · simp only [List.lookup_append]
    rw [hlower (by decide), hupper (by decide), hincludeUpper (by decide), hnone (by decide)]
    simp only [Option.or_none, Option.none_or]
    exact lookup_sentFlag _ _
  · simp only [List.lookup_append]
    rw [hlower (by decide), hupper (by decide), hincludeLower (by decide), hnone (by decide)]
    simp only [Option.or_none, Option.none_or]
    exact lookup_sentFlag _ _
  · simp only [List.map_append]
    exact ((((names_sentBound _ _).append (names_sentBound _ _)).append (names_sentFlag _ _)).append
      (names_sentFlag _ _)).append hextra

end Bounds

namespace Filter

/-- **The bounds that are sent are the numeric ones**, each as it is: an integer or a floating-point
number that is not zero, an infinity, or a text that is a numeral.  Whether a bound belongs to the
range is sent exactly when it is said. -/
theorem bounds_sent_iff_numeric (f : Filter) (b : Bounds)
    (hf : f.constraint = .range b ∨ f.constraint = .dateRange b) (format : Json) :
    ∃ body, (f.clause format).toJson = f.enclosed (.obj [("range", .obj [(f.field, .obj body)])]) ∧
      b.SentIn body := by
  rcases hf with hf | hf
  · have hleaf : f.leaf format = .range f.field b.sent := by rw [leaf, hf]
    refine ⟨b.sent, ?_, ?_⟩
    · rw [f.toJson_clause, hleaf, Leaf.toJson]
    · rw [← List.append_nil b.sent]
      exact b.sentIn_append (List.nil_sublist _)
  · have hleaf : f.leaf format = .range f.field (b.sent ++ Bounds.sentFormat format) := by
      rw [leaf, hf]
    refine ⟨b.sent ++ Bounds.sentFormat format, ?_, ?_⟩
    · rw [f.toJson_clause, hleaf, Leaf.toJson]
    · exact b.sentIn_append (Bounds.names_sentFormat format)

/-- A numeral with white space, a sign, an underscore, a point without a fraction, and an exponent in
Arabic digits is a bound; a negative zero is none. -/
theorem bounds_sent_iff_numeric_made :
    let b : Bounds := ⟨.str "\u2003+1_0.e-٣\n", .float (Double.zero true), some false, none⟩
    let f : Filter := ⟨"made", true, .dateRange b⟩
    ∃ body, (f.clause (.str "yyyy")).toJson =
        .obj [("not", .obj [("range", .obj [("made", .obj body)])])] ∧
      body.lookup "from" = some (.str "\u2003+1_0.e-٣\n") ∧ body.lookup "to" = none ∧
      body.lookup "include_lower" = some (.bool false) ∧ body.lookup "include_upper" = none := by
  intro b f
  obtain ⟨body, hbody, hsent⟩ := bounds_sent_iff_numeric f b (.inr rfl) (.str "yyyy")
  have hlower : b.lower.NumericBound := Json.isBound_iff.1 (by decide +kernel)
  have hupper : ¬ b.upper.NumericBound := fun h => by
    have hbound := Json.isBound_iff.2 h
    revert hbound
    decide +kernel
  refine ⟨body, hbody, (hsent.lower _).2 ⟨rfl, hlower⟩, ?_, hsent.includeLower, hsent.includeUpper⟩
  exact Option.eq_none_iff_forall_ne_some.2 fun x hx => hupper ((hsent.upper x).1 hx).2

end Filter

end FacetedSearch
