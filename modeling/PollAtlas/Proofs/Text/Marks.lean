import Mathlib.Data.List.Basic
import PollAtlas.Text.Split

/-!
# Marks between texts

Texts that do not hold a mark are told apart by the marks between them: a text ends where the
first mark stands.

* `eq_of_append_mark_eq`: the text before the first mark.
* `flatMap_mark_inj`: the texts behind marks.
* `cutAt_append_mark`, `splitWhere_append_mark`: a text that is cut at a mark.
* `words`, `words_intercalate`: the pieces of a text between spaces.
-/

namespace PollAtlas.Text

/-! ## Texts told apart -/

/-- What stands before the first occurrence of a mark, and what stands behind it. -/
theorem eq_of_append_mark_eq {mark : Char} {xs ys s t : List Char} (hx : mark ∉ xs)
    (hy : mark ∉ ys) (h : xs ++ mark :: s = ys ++ mark :: t) : xs = ys ∧ s = t := by
  induction xs generalizing ys with
  | nil =>
    cases ys with
    | nil => exact ⟨rfl, (List.cons.inj h).2⟩
    | cons y ys => exact absurd ((List.cons.inj h).1 ▸ List.mem_cons_self) hy
  | cons x xs ih =>
    cases ys with
    | nil => exact absurd ((List.cons.inj h).1 ▸ List.mem_cons_self) hx
    | cons y ys =>
      obtain ⟨rfl, htail⟩ := List.cons.inj h
      have hx' : mark ∉ xs := fun hmem => hx (List.mem_cons_of_mem x hmem)
      have hy' : mark ∉ ys := fun hmem => hy (List.mem_cons_of_mem x hmem)
      obtain ⟨rfl, rfl⟩ := ih hx' hy' htail
      exact ⟨rfl, rfl⟩

/-- Texts, each behind a mark, that are written the same. -/
theorem flatMap_mark_inj {mark : Char} {xs ys : List (List Char)} (hxs : ∀ x ∈ xs, mark ∉ x)
    (hys : ∀ y ∈ ys, mark ∉ y) (h : xs.flatMap (mark :: ·) = ys.flatMap (mark :: ·)) :
    xs = ys := by
  -- with one more mark at the end, a mark stands behind every text
  have hclosed : ∀ zs : List (List Char),
      ∃ t, zs.flatMap (mark :: ·) ++ [mark] = mark :: t := by
    intro zs
    cases zs with
    | nil => exact ⟨[], rfl⟩
    | cons z zs => exact ⟨_, rfl⟩
  induction xs generalizing ys with
  | nil =>
    cases ys with
    | nil => rfl
    | cons y ys => cases h
  | cons x xs ih =>
    cases ys with
    | nil => cases h
    | cons y ys =>
      rw [List.forall_mem_cons] at hxs hys
      have htail : x ++ xs.flatMap (mark :: ·) = y ++ ys.flatMap (mark :: ·) := by
        simpa [List.flatMap_cons] using h
      obtain ⟨s, hs⟩ := hclosed xs
      obtain ⟨t, ht⟩ := hclosed ys
      have hmarked : x ++ mark :: s = y ++ mark :: t := by
        rw [← hs, ← ht, ← List.append_assoc, htail, List.append_assoc]
      obtain ⟨rfl, _⟩ := eq_of_append_mark_eq hxs.1 hys.1 hmarked
      rw [ih hxs.2 hys.2 (List.append_cancel_left htail)]

/-! ## Cutting at marks -/

section

variable {p : Char → Bool} {mark : Char} (hmark : p mark = true)

include hmark

/-- A text before its first mark, and all that stands behind it. -/
theorem cutAt_append_mark {cs : List Char} (h : ∀ c ∈ cs, p c = false) (rest : List Char) :
    cutAt p (cs ++ mark :: rest) = (cs, some rest) := by
  induction cs with
  | nil => rw [List.nil_append, cutAt, if_pos hmark]
  | cons c cs ih =>
    rw [List.forall_mem_cons] at h
    rw [List.cons_append, cutAt, h.1, if_neg Bool.false_ne_true, ih h.2]

/-- A mark ends the pieces before it, whatever they are. -/
theorem splitWhere_append_mark (cs rest : List Char) :
    splitWhere p (cs ++ mark :: rest) = splitWhere p cs ++ splitWhere p rest := by
  induction cs with
  | nil => simp only [List.nil_append, splitWhere, hmark, if_true, List.singleton_append]
  | cons c cs ih =>
    rw [List.cons_append, splitWhere, splitWhere, ih]
    by_cases hc : p c = true
    · rw [if_pos hc, if_pos hc, List.cons_append]
    · cases hpieces : splitWhere p cs with
      | nil => exact absurd hpieces (splitWhere_ne_nil p cs)
      | cons first others => rw [if_neg hc, if_neg hc, List.cons_append, List.cons_append]

end

/-! ## Words -/

/-- The pieces of a text between spaces, the empty ones left out. -/
def words (cs : List Char) : List (List Char) :=
  (splitWhere (· == ' ') cs).filter (· ≠ [])

/-- A text that is a single word. -/
def IsWord (cs : List Char) : Prop := cs ≠ [] ∧ ' ' ∉ cs

theorem words_append_space (cs ds : List Char) :
    words (cs ++ ' ' :: ds) = words cs ++ words ds := by
  rw [words, splitWhere_append_mark (p := (· == ' ')) (beq_self_eq_true ' '),
    List.filter_append]
  rfl

theorem IsWord.words_eq {cs : List Char} (h : IsWord cs) : words cs = [cs] := by
  obtain ⟨hne, hspace⟩ := h
  have hsplit : splitWhere (· == ' ') cs = [cs] := by
    apply splitWhere_of_all_not
    intro c hc
    apply beq_false_of_ne
    rintro rfl
    exact hspace hc
  simp [words, hsplit, hne]

/-- Texts with spaces between them have the words of each of them, the empty texts none. -/
theorem words_intercalate (parts : List (List Char)) :
    words ([' '].intercalate parts) = parts.flatMap words := by
  induction parts with
  | nil => rfl
  | cons cs parts ih =>
    cases parts with
    | nil => rw [List.intercalate_singleton, List.flatMap_singleton]
    | cons ds parts =>
      rw [List.intercalate_cons_cons, List.append_assoc, List.singleton_append, words_append_space,
        ih, ← List.flatMap_cons]

theorem words_eq_nil_iff {cs : List Char} : words cs = [] ↔ ∀ c ∈ cs, c = ' ' := by
  induction cs with
  | nil => simp [words, splitWhere]
  | cons c cs ih =>
    rw [List.forall_mem_cons]
    by_cases hc : c = ' '
    · subst hc
      have hspace : words (' ' :: cs) = words cs := words_append_space [] cs
      rw [hspace, ih]
      exact (and_iff_right rfl).symm
    · refine iff_of_false ?_ fun h => hc h.1
      have hmark : (c == ' ') = false := beq_false_of_ne hc
      cases hpieces : splitWhere (· == ' ') cs with
      | nil => exact absurd hpieces (splitWhere_ne_nil _ _)
      | cons first others => simp [words, splitWhere, hmark, hpieces]

end PollAtlas.Text
