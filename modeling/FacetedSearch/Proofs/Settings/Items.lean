import FacetedSearch.Proofs.Text.Blank
import FacetedSearch.Proofs.Text.Pieces
import FacetedSearch.Settings.Environment
import Mathlib.Data.List.Forall2

/-!
# Lists that are written with commas

A list in the settings is read leniently: blanks around its items and empty items do not count.  The
texts that are read as given items are those that write them so, and the items that are read are
again such that they can be written.

* `Text.IsItem`, `Text.Spaced` — what an item is, and the pieces among which items stand.
* `Text.items_eq_iff` — the texts that are read as given items.
* `Variable.items_normalized` — the items of a variable.
-/

set_option autoImplicit false

namespace FacetedSearch

namespace Text

variable {cs item : List Char} {list ps : List (List Char)}

/-- Something is written, no comma is in it, and it neither begins nor ends with a blank. -/
structure IsItem (item : List Char) : Prop where
  nonempty : item ≠ []
  unbroken : ',' ∉ item
  bare : Bare isBlank item

/-- Among the pieces the items stand in order, with blanks around them; all other pieces are blank
or empty. -/
inductive Spaced : List (List Char) → List (List Char) → Prop where
  | nil : Spaced [] []
  | gap {list ps : List (List Char)} {piece : List Char} (blank : ∀ c ∈ piece, isBlank c)
      (more : Spaced list ps) : Spaced list (piece :: ps)
  | item {list ps : List (List Char)} {before after : List Char} (item : List Char)
      (leading : ∀ c ∈ before, isBlank c) (trailing : ∀ c ∈ after, isBlank c)
      (more : Spaced list ps) : Spaced (item :: list) ((before ++ item ++ after) :: ps)

/-! ## The items of a text -/

theorem comma_notMem_of_blank (h : ∀ c ∈ cs, isBlank c) : ',' ∉ cs :=
  fun hmem => absurd (h ',' hmem) (by decide)

/-- What is read are items. -/
theorem isItem_of_mem_items (h : item ∈ items cs) : IsItem item := by
  obtain ⟨hmem, hnonempty⟩ := List.mem_filter.1 h
  obtain ⟨piece, hpiece, rfl⟩ := List.mem_map.1 hmem
  refine ⟨by simpa using hnonempty, fun hcomma => ?_, bare_trim isBlank piece⟩
  obtain ⟨before, after, hsplit, -, -⟩ := exists_trim isBlank piece
  have hinside : ',' ∈ before ++ trim isBlank piece ++ after :=
    List.mem_append_left after (List.mem_append_right before hcomma)
  exact notMem_of_mem_pieces hpiece (hsplit ▸ hinside)

/-- What is left of pieces without blanks stands among them. -/
theorem spaced_trimmed (ps : List (List Char)) :
    Spaced ((ps.map (trim isBlank)).filter fun item => !item.isEmpty) ps := by
  induction ps with
  | nil => exact .nil
  | cons piece ps ih =>
    obtain ⟨before, after, hsplit, hbefore, hafter⟩ := exists_trim isBlank piece
    rw [List.map_cons]
    by_cases hempty : trim isBlank piece = []
    · rw [hempty, List.append_nil] at hsplit
      rw [hempty]
      refine .gap (fun c hc => ?_) ih
      rw [hsplit] at hc
      exact (List.mem_append.1 hc).elim (hbefore c) (hafter c)
    · have hkept : (!(trim isBlank piece).isEmpty) = true := by simpa using hempty
      rw [List.filter_cons, if_pos hkept]
      generalize trim isBlank piece = item at hsplit
      rw [hsplit]
      exact .item item hbefore hafter ih

/-- Of pieces among which items stand, these are left. -/
theorem Spaced.trimmed_eq (h : Spaced list ps) (hitems : ∀ item ∈ list, IsItem item) :
    ((ps.map (trim isBlank)).filter fun item => !item.isEmpty) = list := by
  induction h with
  | nil => rfl
  | gap hblank _ ih =>
    rw [List.map_cons, trim_eq_nil hblank]
    exact ih hitems
  | item _ hbefore hafter _ ih =>
    obtain ⟨hitem, hothers⟩ := List.forall_mem_cons.1 hitems
    rw [List.map_cons, trim_append hbefore hafter hitem.bare,
      List.filter_cons_of_pos (by simpa using hitem.nonempty), ih hothers]

/-- Where no item holds a comma, no piece does. -/
theorem Spaced.comma_notMem (h : Spaced list ps) (hitems : ∀ item ∈ list, IsItem item) :
    ∀ piece ∈ ps, ',' ∉ piece := by
  induction h with
  | nil => exact List.forall_mem_nil _
  | gap hblank _ ih =>
    exact List.forall_mem_cons.2 ⟨comma_notMem_of_blank hblank, ih hitems⟩
  | item _ hbefore hafter _ ih =>
    obtain ⟨hitem, hothers⟩ := List.forall_mem_cons.1 hitems
    refine List.forall_mem_cons.2 ⟨?_, ih hothers⟩
    rw [List.mem_append, List.mem_append, not_or, not_or]
    exact ⟨⟨comma_notMem_of_blank hbefore, hitem.unbroken⟩, comma_notMem_of_blank hafter⟩

/-- Items that are joined by commas are read back, whatever blanks are put between them. -/
theorem Spaced.items_intercalate (h : Spaced list ps) (hitems : ∀ item ∈ list, IsItem item) :
    items ([','].intercalate ps) = list := by
  unfold items
  by_cases hnone : ps = []
  · -- no piece at all is joined to the empty text, which is one empty piece
    subst hnone
    cases h
    rfl
  · rw [pieces_intercalate (h.comma_notMem hitems) hnone]
    exact h.trimmed_eq hitems

/-- **A text is read as the items that it writes.** -/
theorem items_eq_iff : items cs = list ↔
    (∀ item ∈ list, IsItem item) ∧
      ∃ ps, Spaced list ps ∧ [','].intercalate ps = cs := by
  constructor
  · rintro rfl
    refine ⟨fun item => isItem_of_mem_items, pieces ',' cs, spaced_trimmed _, ?_⟩
    rw [pieces_eq_splitOn]
    exact List.intercalate_splitOn ','
  · rintro ⟨hitems, ps, hspaced, rfl⟩
    exact hspaced.items_intercalate hitems

end Text

namespace Variable

open Text

theorem map_toList_items (value : String) :
    (items value).map String.toList = Text.items value.toList := by
  simp [items]

/-- **The items of a variable are in normal form.**  None of them is empty, holds a comma or has a
blank at an end; they are what is left, without blanks, of the pieces between the commas that are
not blank; and joined again, with any blanks around them and any blank pieces between them, they are
read as they were. -/
theorem items_normalized (value : String) :
    (∀ item ∈ items value, IsItem item.toList) ∧
    (∃ trimmed, List.Forall₂ (TrimsTo isBlank) (value.toList.splitOn ',') trimmed ∧
      (items value).map String.toList = trimmed.filter fun text => !text.isEmpty) ∧
    ∀ pieces : List String,
      Spaced ((items value).map String.toList) (pieces.map String.toList) →
      items (",".intercalate pieces) = items value := by
  have hitems : ∀ item ∈ (items value).map String.toList, IsItem item :=
    (items_eq_iff.1 (map_toList_items value).symm).1
  refine ⟨List.forall_mem_map.1 hitems, ⟨(pieces ',' value.toList).map (trim isBlank), ?_, ?_⟩,
    fun pieces hspaced => ?_⟩
  · rw [← pieces_eq_splitOn, List.forall₂_map_right_iff, List.forall₂_same]
    exact fun piece _ => trimsTo_iff.2 rfl
  · exact map_toList_items value
  · have htext : [','].intercalate (pieces.map String.toList) = (",".intercalate pieces).toList :=
      (@String.toList_intercalate "," pieces).symm
    have hread := items_eq_iff.2 ⟨hitems, _, hspaced, htext⟩
    rw [← map_toList_items] at hread
    exact List.map_injective_iff.2 (fun _ _ => String.toList_inj.1) hread

/-- Two origins, written with blanks of several kinds and empty pieces. -/
theorem items_normalized_origins :
    let value := " http://a:1 ,, http://b\t"
    items value = ["http://a:1", "http://b"] ∧ IsItem "http://a:1".toList ∧
      items ",\u2003http://a:1,http://b , " = items value := by
  intro value
  obtain ⟨hitems, -, hread⟩ := items_normalized value
  have hvalue : items value = ["http://a:1", "http://b"] := by decide
  refine ⟨hvalue, hitems "http://a:1" (by rw [hvalue]; exact List.mem_cons_self), ?_⟩
  have hnone : ∀ c ∈ ([] : List Char), isBlank c := List.forall_mem_nil _
  have hone {c : Char} (h : isBlank c) : ∀ d ∈ [c], isBlank d := List.forall_mem_singleton.2 h
  refine hread ["", "\u2003http://a:1", "http://b ", " "] ?_
  rw [hvalue]
  refine .gap hnone (.item "http://a:1".toList (hone (by decide)) hnone ?_)
  exact .item "http://b".toList hnone (hone (by decide)) (.gap (hone (by decide)) .nil)

end Variable

end FacetedSearch
