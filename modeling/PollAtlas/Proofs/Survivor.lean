import Mathlib.Data.List.Basic
import Mathlib.Data.List.Induction

/-!
# What a scan keeps

A scan through a list holds one element at a time and lets the next one replace it or not.
If replacing respects a weak order, the element that is held at the end can be found without
the scan: it replaces everything before it, and nothing after it replaces it.

* `Replacement`: what is asked of the relation.
* `survivor?_eq_some_iff`: the element that is held at the end.
-/

namespace PollAtlas

variable {α : Type}

/-- `R x y` says that `x`, coming after `y`, replaces it. Nothing between two elements in the
order escapes both. -/
structure Replacement (R : α → α → Prop) : Prop where
  trans : ∀ {x y z}, R x y → R y z → R x z
  between : ∀ {x z} (y), R x z → R x y ∨ R y z

/-- The element `r` replaces everything before it, and nothing after it replaces it. -/
def Survives (R : α → α → Prop) (xs : List α) (r : α) : Prop :=
  ∃ before after, xs = before ++ r :: after ∧ (∀ x ∈ before, R r x) ∧ ∀ x ∈ after, ¬ R x r

section

variable (R : α → α → Prop) [DecidableRel R]

/-- The element that is held after the next one. -/
def kept (held : Option α) (x : α) : α :=
  match held with
  | none => x
  | some y => if R x y then x else y

/-- The element that is held at the end of a scan. -/
def survivor? (xs : List α) : Option α := xs.foldl (fun held x => some (kept R held x)) none

end

variable {R : α → α → Prop}

theorem Survives.mem {xs : List α} {r : α} (h : Survives R xs r) : r ∈ xs := by
  obtain ⟨before, after, rfl, _, _⟩ := h
  exact List.mem_append_right _ List.mem_cons_self

theorem not_survives_nil (r : α) : ¬ Survives R [] r := fun h => List.not_mem_nil h.mem

/-- After one more element the survivor is that element, if it replaces all others, or the
survivor so far, if it is not replaced. -/
theorem survives_concat {xs : List α} {x r : α} :
    Survives R (xs ++ [x]) r ↔
      (r = x ∧ ∀ y ∈ xs, R x y) ∨ (Survives R xs r ∧ ¬ R x r) := by
  constructor
  · rintro ⟨before, after, hsplit, hbefore, hafter⟩
    rcases List.eq_nil_or_concat' after with rfl | ⟨after, z, rfl⟩
    · obtain ⟨rfl, hz⟩ := List.append_inj' hsplit rfl
      obtain rfl : x = r := by simpa using hz
      exact Or.inl ⟨rfl, hbefore⟩
    · have hsplit' : xs ++ [x] = (before ++ r :: after) ++ [z] := by simpa using hsplit
      obtain ⟨rfl, hz⟩ := List.append_inj' hsplit' rfl
      obtain rfl : x = z := by simpa using hz
      refine Or.inr ⟨⟨before, after, rfl, hbefore, fun y hy => ?_⟩, ?_⟩
      · exact hafter y (List.mem_append_left _ hy)
      · exact hafter x (List.mem_append_right _ List.mem_cons_self)
  · rintro (⟨rfl, hall⟩ | ⟨⟨before, after, rfl, hbefore, hafter⟩, hx⟩)
    · exact ⟨xs, [], rfl, hall, by simp⟩
    · refine ⟨before, after ++ [x], by simp, hbefore, fun y hy => ?_⟩
      rcases List.mem_append.mp hy with hy | hy
      · exact hafter y hy
      · exact List.mem_singleton.mp hy ▸ hx

/-- What replaces the survivor replaces every element. -/
theorem Survives.replaced (hR : Replacement R) {xs : List α} {r x : α}
    (h : Survives R xs r) (hx : R x r) : ∀ y ∈ xs, R x y := by
  obtain ⟨before, after, rfl, hbefore, hafter⟩ := h
  intro y hy
  rcases List.mem_append.mp hy with hy | hy
  · exact hR.trans hx (hbefore y hy)
  · rcases List.mem_cons.mp hy with rfl | hy
    · exact hx
    · exact (hR.between y hx).resolve_right (hafter y hy)

variable [DecidableRel R]

theorem survivor?_concat (xs : List α) (x : α) :
    survivor? R (xs ++ [x]) = some (kept R (survivor? R xs) x) := by
  rw [survivor?, survivor?, List.foldl_append]
  rfl

/-- One more element changes what a scan through a part of the list holds only if it belongs
to that part. -/
theorem survivor?_filter_concat (p : α → Prop) [DecidablePred p] (xs : List α) (x : α) :
    survivor? R ((xs ++ [x]).filter p) =
      if p x then some (kept R (survivor? R (xs.filter p)) x)
      else survivor? R (xs.filter p) := by
  rw [List.filter_append]
  by_cases hx : p x
  · have hlast : [x].filter (fun y => decide (p y)) = [x] := by simp [hx]
    rw [hlast, survivor?_concat, if_pos hx]
  · have hlast : [x].filter (fun y => decide (p y)) = [] := by simp [hx]
    rw [hlast, List.append_nil, if_neg hx]

theorem survivor?_eq_none_iff {xs : List α} : survivor? R xs = none ↔ xs = [] := by
  rcases List.eq_nil_or_concat' xs with rfl | ⟨xs, x, rfl⟩
  · exact iff_of_true rfl rfl
  · simp [survivor?_concat]

/-- The element that a scan holds at the end is the one that survives. -/
theorem survivor?_eq_some_iff (hR : Replacement R) {xs : List α} {r : α} :
    survivor? R xs = some r ↔ Survives R xs r := by
  induction xs using List.reverseRecOn generalizing r with
  | nil => exact iff_of_false (by simp [survivor?]) (not_survives_nil r)
  | append_singleton xs x ih =>
    rw [survivor?_concat, survives_concat, Option.some.injEq]
    cases hheld : survivor? R xs with
    | none =>
      obtain rfl := survivor?_eq_none_iff.mp hheld
      simp [kept, not_survives_nil, eq_comm]
    | some held =>
      have hsurvives : Survives R xs held := ih.mp hheld
      have hunique : Survives R xs r ↔ held = r := by rw [← ih, hheld, Option.some.injEq]
      rw [hunique]
      by_cases hx : R x held
      · have hall := hsurvives.replaced hR hx
        rw [kept, if_pos hx]
        constructor
        · intro h
          exact Or.inl ⟨h.symm, hall⟩
        · rintro (⟨h, _⟩ | ⟨rfl, h⟩)
          · exact h.symm
          · exact absurd hx h
      · rw [kept, if_neg hx]
        constructor
        · rintro rfl
          exact Or.inr ⟨rfl, hx⟩
        · rintro (⟨_, h⟩ | ⟨h, _⟩)
          · exact absurd (h held hsurvives.mem) hx
          · exact h

end PollAtlas
