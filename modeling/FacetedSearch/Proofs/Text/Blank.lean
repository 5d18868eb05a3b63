import FacetedSearch.Text.Blank
import Mathlib.Data.List.TakeWhile

/-!
# Blanks at the ends of a text

Trimming takes off what stands at both ends of a text and satisfies a predicate.  What is left
neither begins nor ends so, and there is only one way to leave such a text.

* `Text.Bare` — a text that neither begins nor ends with a blank.
* `Text.TrimsTo` — what is left of a text, said without a word about how it is trimmed.
* `Text.exists_trim`, `Text.trim_append` — what trimming takes off.
* `Text.trimsTo_iff` — trimming leaves what it should.
-/

set_option autoImplicit false

namespace FacetedSearch.Text

variable {p : Char → Bool} {before text after cs : List Char}

/-- The text neither begins nor ends with a character that satisfies the predicate. -/
structure Bare (p : Char → Bool) (cs : List Char) : Prop where
  first : ∀ c ∈ cs.head?, ¬ p c
  last : ∀ c ∈ cs.getLast?, ¬ p c

/-- The second text is left of the first without the characters at its ends that satisfy the
predicate. -/
structure TrimsTo (p : Char → Bool) (cs text : List Char) : Prop where
  around : ∃ before after,
    cs = before ++ text ++ after ∧ (∀ c ∈ before, p c) ∧ ∀ c ∈ after, p c
  bare : Bare p text

theorem Bare.of_forall (h : ∀ c ∈ cs, ¬ p c) : Bare p cs where
  first c hc := h c (List.mem_of_mem_head? hc)
  last c hc := h c (List.mem_of_mem_getLast? hc)

theorem Bare.reverse (h : Bare p cs) : Bare p cs.reverse where
  first c hc := h.last c (List.head?_reverse ▸ hc)
  last c hc := h.first c (List.getLast?_reverse ▸ hc)

theorem Bare.dropWhile_eq_self (h : Bare p cs) : cs.dropWhile p = cs := by
  cases cs with
  | nil => rfl
  | cons c cs => exact List.dropWhile_cons_of_neg (h.first c rfl)

/-! ## What trimming takes off -/

/-- Trimming takes off what satisfies the predicate, at both ends. -/
theorem exists_trim (p : Char → Bool) (cs : List Char) :
    ∃ before after, cs = before ++ trim p cs ++ after ∧ (∀ c ∈ before, p c) ∧ ∀ c ∈ after, p c := by
  refine ⟨cs.takeWhile p, ((cs.dropWhile p).reverse.takeWhile p).reverse, ?_, ?_, ?_⟩
  · unfold trim
    rw [List.append_assoc, ← List.reverse_append, List.takeWhile_append_dropWhile,
      List.reverse_reverse, List.takeWhile_append_dropWhile]
  · exact fun c hc => List.mem_takeWhile_imp hc
  · exact fun c hc => List.mem_takeWhile_imp (List.mem_reverse.1 hc)

/-- Trimming takes off no more than what satisfies the predicate. -/
theorem trim_append (hbefore : ∀ c ∈ before, p c) (hafter : ∀ c ∈ after, p c)
    (htext : Bare p text) : trim p (before ++ text ++ after) = text := by
  unfold trim
  rw [List.append_assoc, List.dropWhile_append_of_pos hbefore]
  cases text with
  | nil =>
    rw [List.nil_append, List.dropWhile_eq_nil_iff.2 hafter]
    rfl
  | cons c text =>
    have hafter' : ∀ c ∈ after.reverse, p c := fun c hc => hafter c (List.mem_reverse.1 hc)
    rw [List.cons_append, List.dropWhile_cons_of_neg (htext.first c rfl), ← List.cons_append,
      List.reverse_append, List.dropWhile_append_of_pos hafter', htext.reverse.dropWhile_eq_self,
      List.reverse_reverse]

/-- A text without blanks at its ends is left as it is. -/
theorem Bare.trim_eq_self (h : Bare p cs) : trim p cs = cs := by
  have hkept := @trim_append p [] cs [] nofun nofun h
  rwa [List.nil_append, List.append_nil] at hkept

/-- Of blanks nothing is left. -/
theorem trim_eq_nil (h : ∀ c ∈ cs, p c) : trim p cs = [] := by
  unfold trim
  rw [List.dropWhile_eq_nil_iff.2 h]
  rfl

/-- What trimming leaves has no blank at its ends. -/
theorem bare_trim (p : Char → Bool) (cs : List Char) : Bare p (trim p cs) := by
  -- the end that is trimmed first stays at the front of what is trimmed then
  have hprefix : trim p cs <+: cs.dropWhile p := by
    have hsuffix := List.dropWhile_suffix (l := (cs.dropWhile p).reverse) p
    unfold trim
    rwa [← List.reverse_prefix, List.reverse_reverse] at hsuffix
  have hhead (xs : List Char) {c : Char} (hc : c ∈ (xs.dropWhile p).head?) : ¬ p c := by
    have hnot := List.head?_dropWhile_not p xs
    rw [Option.mem_def.1 hc] at hnot
    simpa using hnot
  constructor
  · intro c hc
    obtain ⟨rest, htrim⟩ := List.head?_eq_some_iff.1 hc
    obtain ⟨others, hothers⟩ := hprefix
    refine hhead cs ?_
    rw [← hothers, htrim]
    rfl
  · intro c hc
    unfold trim at hc
    rw [List.getLast?_reverse] at hc
    exact hhead _ hc

/-- **Trimming leaves what is between the blanks, and nothing else is left so.** -/
theorem trimsTo_iff : TrimsTo p cs text ↔ trim p cs = text := by
  constructor
  · rintro ⟨⟨before, after, rfl, hbefore, hafter⟩, hbare⟩
    exact trim_append hbefore hafter hbare
  · rintro rfl
    exact ⟨exists_trim p cs, bare_trim p cs⟩

end FacetedSearch.Text
