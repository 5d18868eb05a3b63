import FacetedSearch.Text.Pieces
import Mathlib.Data.List.Basic

/-!
# Pieces between separators

Dividing a text at its separators is undone by joining the pieces again, and no piece holds a
separator.  A text is also divided once, at its last separator.

* `Text.pieces_eq_splitOn` — the pieces are those of the library.
* `Text.pieces_append`, `Text.pieces_of_notMem`, `Text.pieces_intercalate` — the pieces of a text.
* `Text.notMem_of_mem_pieces` — pieces hold no separator.
* `Text.cutAtLast_append`, `Text.cutAtLast_of_notMem` — what is around the last separator.
-/

set_option autoImplicit false

namespace FacetedSearch.Text

variable {separator : Char} {cs : List Char}

/-! ## All pieces -/

theorem pieces_eq_splitOn (separator : Char) (cs : List Char) :
    pieces separator cs = cs.splitOn separator := by
  induction cs with
  | nil => rfl
  | cons c cs ih =>
    obtain ⟨piece, rest, hcs⟩ := List.exists_cons_of_ne_nil (List.splitOn_ne_nil separator cs)
    rw [pieces, List.splitOn_cons_eq_if_modifyHead, ih, hcs]
    simp only [beq_iff_eq, List.modifyHead_cons]

theorem pieces_ne_nil (separator : Char) (cs : List Char) : pieces separator cs ≠ [] := by
  rw [pieces_eq_splitOn]
  exact List.splitOn_ne_nil separator cs

/-- The pieces around a separator are those before it and those after it. -/
theorem pieces_append (separator : Char) (xs ys : List Char) :
    pieces separator (xs ++ separator :: ys) = pieces separator xs ++ pieces separator ys := by
  simp only [pieces_eq_splitOn]
  exact List.splitOn_append_cons_self xs ys

theorem pieces_of_notMem (h : separator ∉ cs) : pieces separator cs = [cs] := by
  rw [pieces_eq_splitOn]
  exact List.splitOn_eq_singleton h

/-- What is joined of pieces falls into these pieces. -/
theorem pieces_intercalate {ps : List (List Char)} (hps : ∀ piece ∈ ps, separator ∉ piece)
    (hne : ps ≠ []) : pieces separator ([separator].intercalate ps) = ps := by
  rw [pieces_eq_splitOn]
  exact List.splitOn_intercalate separator hps hne

/-- A text with a separator has several pieces. -/
theorem exists_pieces_of_mem (h : separator ∈ cs) :
    ∃ first second rest, pieces separator cs = first :: second :: rest := by
  obtain ⟨xs, ys, rfl⟩ := List.append_of_mem h
  rw [pieces_append]
  obtain ⟨first, rest, hxs⟩ := List.exists_cons_of_ne_nil (pieces_ne_nil separator xs)
  obtain ⟨second, rest', hys⟩ := List.exists_cons_of_ne_nil (pieces_ne_nil separator ys)
  rw [hxs, hys]
  cases rest with
  | nil => exact ⟨first, second, rest', rfl⟩
  | cons between rest => exact ⟨first, between, rest ++ second :: rest', rfl⟩

/-- No piece holds a separator. -/
theorem notMem_of_mem_pieces {piece : List Char} (h : piece ∈ pieces separator cs) :
    separator ∉ piece := by
  induction cs generalizing piece with
  | nil =>
    obtain rfl := List.mem_singleton.1 h
    exact List.not_mem_nil
  | cons c cs ih =>
    obtain ⟨first, rest, hcs⟩ := List.exists_cons_of_ne_nil (pieces_ne_nil separator cs)
    rw [hcs] at ih
    rw [pieces, hcs] at h
    split at h
    · rcases List.mem_cons.1 h with rfl | h
      · exact List.not_mem_nil
      · exact ih h
    · rename_i hc
      rcases List.mem_cons.1 h with rfl | h
      · -- the first piece goes on with a character that is no separator
        rw [List.mem_cons, not_or]
        exact ⟨Ne.symm hc, ih List.mem_cons_self⟩
      · exact ih (List.mem_cons_of_mem first h)

/-! ## The last separator -/

theorem cutAtLast_of_notMem (h : separator ∉ cs) : cutAtLast separator cs = none := by
  induction cs with
  | nil => rfl
  | cons c cs ih =>
    rw [List.mem_cons, not_or] at h
    rw [cutAtLast, ih h.2]
    exact if_neg (Ne.symm h.1)

/-- A text is cut at a separator that no other follows. -/
theorem cutAtLast_append (before : List Char) {after : List Char} (h : separator ∉ after) :
    cutAtLast separator (before ++ separator :: after) = some (before, after) := by
  induction before with
  | nil =>
    rw [List.nil_append, cutAtLast, cutAtLast_of_notMem h]
    exact if_pos rfl
  | cons c before ih => rw [List.cons_append, cutAtLast, ih]

end FacetedSearch.Text
