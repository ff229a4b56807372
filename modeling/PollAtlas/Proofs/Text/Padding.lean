import Mathlib.Data.List.Basic
import Mathlib.Data.List.TakeWhile
import PollAtlas.Text.Blank

/-!
# Blanks around a text

Trimming takes away blanks at both ends and nothing else. What holds no blanks at all is kept
as it is at the head of a text, and it is all that is left when only blanks stand around it.

* `prefix_trimChars`: what is kept at the head.
* `IsPadded.trim`, `isPadded_trim`: what is left of a padded text, and of every text.
-/

namespace PollAtlas.Text

theorem isBlank_of_isDigit {c : Char} (h : c.isDigit = true) : isBlank c = false := by
  obtain ⟨hlow, hhigh⟩ := Char.isDigit_iff_toNat.mp h
  have hzero : '0'.toNat = 48 := rfl
  have hnine : '9'.toNat = 57 := rfl
  simp only [isBlank, blankRanges, List.any_cons, List.any_nil, Bool.or_false, Bool.or_eq_false_iff,
    Bool.and_eq_false_iff, decide_eq_false_iff_not]
  omega

/-! ## At the head -/

theorem dropWhile_append_of_not_blank {cs : List Char} (h : ∀ c ∈ cs, isBlank c = false)
    (hne : cs ≠ []) (rest : List Char) : (cs ++ rest).dropWhile isBlank = cs ++ rest := by
  apply dropWhile_of_head
  intro c hc
  rw [List.head?_append_of_ne_nil cs hne] at hc
  exact h c (List.mem_of_head? hc)

theorem trimEnd_append {cs : List Char} (h : ∀ c ∈ cs, isBlank c = false) (rest : List Char) :
    trimEnd (cs ++ rest) = cs ++ trimEnd rest := by
  induction cs with
  | nil => rfl
  | cons c cs ih =>
    rw [List.cons_append, trimEnd_cons_of_not_blank _ (h c List.mem_cons_self),
      ih fun d hd => h d (List.mem_cons_of_mem c hd), List.cons_append]

theorem trimChars_append {cs : List Char} (h : ∀ c ∈ cs, isBlank c = false) (hne : cs ≠ [])
    (rest : List Char) : trimChars (cs ++ rest) = cs ++ trimEnd rest := by
  rw [trimChars, dropWhile_append_of_not_blank h hne, trimEnd_append h]

/-- What holds no blanks is kept at the head of a text. -/
theorem prefix_trimChars {cs text : List Char} (h : ∀ c ∈ cs, isBlank c = false)
    (hhead : cs <+: text) : cs <+: trimChars text := by
  obtain ⟨rest, rfl⟩ := hhead
  by_cases hne : cs = []
  · rw [hne]
    exact List.nil_prefix
  · exact ⟨trimEnd rest, (trimChars_append h hne rest).symm⟩

/-! ## On both sides -/

/-- The text is these characters with nothing but blanks around them. -/
def IsPadded (cs : List Char) (text : String) : Prop :=
  ∃ before after, (∀ c ∈ before, isBlank c = true) ∧ (∀ c ∈ after, isBlank c = true) ∧
    text.toList = before ++ cs ++ after

theorem isPadded_self {cs : List Char} {text : String} (h : text.toList = cs) :
    IsPadded cs text :=
  ⟨[], [], by simp, by simp, by simp [h]⟩

theorem trimEnd_of_blank {cs : List Char} (h : ∀ c ∈ cs, isBlank c = true) : trimEnd cs = [] := by
  have hdrop : cs.reverse.dropWhile isBlank = [] :=
    List.dropWhile_eq_nil_iff.mpr fun c hc => h c (List.mem_reverse.mp hc)
  rw [trimEnd, hdrop, List.reverse_nil]

theorem IsPadded.trim {cs : List Char} {text : String} (h : IsPadded cs text)
    (hcs : ∀ c ∈ cs, isBlank c = false) : Text.trim text = String.ofList cs := by
  obtain ⟨before, after, hbefore, hafter, htext⟩ := h
  have hdrop : text.toList.dropWhile isBlank = (cs ++ after).dropWhile isBlank := by
    rw [htext, List.append_assoc, List.dropWhile_append_of_pos hbefore]
  have hchars : trimChars text.toList = cs := by
    rw [trimChars, hdrop]
    by_cases hne : cs = []
    · subst hne
      rw [List.nil_append, List.dropWhile_eq_nil_iff.mpr hafter]
      rfl
    · rw [dropWhile_append_of_not_blank hcs hne, trimEnd_append hcs, trimEnd_of_blank hafter,
        List.append_nil]
  rw [Text.trim, hchars]

theorem exists_trimEnd_append (cs : List Char) :
    ∃ after, (∀ c ∈ after, isBlank c = true) ∧ cs = trimEnd cs ++ after := by
  refine ⟨(cs.reverse.takeWhile isBlank).reverse, ?_, ?_⟩
  · intro c hc
    exact List.mem_takeWhile_imp (List.mem_reverse.mp hc)
  · rw [trimEnd, ← List.reverse_append, List.takeWhile_append_dropWhile, List.reverse_reverse]

/-- Trimming takes away blanks and nothing else. -/
theorem isPadded_trim (text : String) : IsPadded (trim text).toList text := by
  obtain ⟨after, hafter, hdrop⟩ := exists_trimEnd_append (text.toList.dropWhile isBlank)
  refine ⟨text.toList.takeWhile isBlank, after, ?_, hafter, ?_⟩
  · intro c hc
    exact List.mem_takeWhile_imp hc
  · rw [toList_trim, trimChars, List.append_assoc, ← hdrop, List.takeWhile_append_dropWhile]

end PollAtlas.Text
