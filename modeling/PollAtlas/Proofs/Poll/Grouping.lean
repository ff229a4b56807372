import Mathlib.Data.List.Basic
import PollAtlas.Poll.Detail
import PollAtlas.Proofs.Number.Digits

/-!
# Counts in groups of three

A comma is written behind a digit where the number of digits still to come is a multiple of three.
So no comma falls among up to three digits before groups of three, and one falls behind them. By
induction on the groups the commas of a count stand between its groups, and nowhere else. Its
digits can be grouped, and a text that is grouped leads back to them when the commas are taken away.

* `IsThousands`, `IsGrouped`: the groups of a count, and its text.
* `groupDigits_flatten`: the commas stand between the groups.
* `isGrouped_groupThousands`, `IsGrouped.eq_groupThousands`: the text that a count is written in.
* `sampleText_tells`: a count has no other such text, and shares it with no other count.
-/

namespace PollAtlas.Poll

/-- The first group has one to three digits and the others have three each. -/
inductive IsThousands : List (List Char) → Prop
  | mk {first : List Char} {others : List (List Char)} (hne : first ≠ [])
      (hfirst : first.length ≤ 3) (hothers : ∀ group ∈ others, group.length = 3) :
      IsThousands (first :: others)

/-- The text of a count: its digits, and between commas the groups that they are written in. -/
structure IsGrouped (n : Nat) (text : String) : Prop where
  digits : text.toList.filter (· ≠ ',') = Nat.toDigits 10 n
  groups : IsThousands (text.toList.splitOn ',')

/-! ## Groups -/

theorem IsThousands.of_cons {first group : List Char} {others : List (List Char)}
    (h : IsThousands (first :: group :: others)) : IsThousands (group :: others) := by
  obtain ⟨_, _, hothers⟩ := h
  obtain ⟨hgroup, hothers⟩ := List.forall_mem_cons.mp hothers
  exact .mk (List.ne_nil_of_length_eq_add_one hgroup) (Nat.le_of_eq hgroup) hothers

/-- A digit in front joins the first group, unless this is full. -/
theorem IsThousands.exists_cons {groups : List (List Char)} (h : IsThousands groups) (c : Char) :
    ∃ longer, IsThousands longer ∧ longer.flatten = c :: groups.flatten := by
  obtain @⟨first, others, _, hfirst, hothers⟩ := h
  by_cases hfull : first.length = 3
  · refine ⟨[c] :: first :: others, .mk (by simp) (by simp) ?_, rfl⟩
    exact List.forall_mem_cons.mpr ⟨hfull, hothers⟩
  · refine ⟨(c :: first) :: others, .mk (by simp) ?_ hothers, rfl⟩
    rw [List.length_cons]
    omega

theorem exists_isThousands {cs : List Char} (hne : cs ≠ []) :
    ∃ groups, IsThousands groups ∧ groups.flatten = cs := by
  induction cs with
  | nil => exact absurd rfl hne
  | cons c cs ih =>
    by_cases hcs : cs = []
    · rw [hcs]
      exact ⟨[[c]], .mk (by simp) (by simp) (by simp), rfl⟩
    · obtain ⟨groups, hgroups, rfl⟩ := ih hcs
      exact hgroups.exists_cons c

theorem length_flatten_mod_three {groups : List (List Char)}
    (h : ∀ group ∈ groups, group.length = 3) : groups.flatten.length % 3 = 0 := by
  induction groups with
  | nil => rfl
  | cons group groups ih =>
    obtain ⟨hgroup, hgroups⟩ := List.forall_mem_cons.mp h
    have hrest := ih hgroups
    rw [List.flatten_cons, List.length_append]
    omega

/-! ## Commas -/

/-- Before a multiple of three digits, up to three digits have no comma among them, and one behind
them unless they are the last. -/
theorem groupDigits_append {first rest : List Char} (hne : first ≠ []) (hfirst : first.length ≤ 3)
    (hrest : rest.length % 3 = 0) :
    groupDigits (first ++ rest) =
      if rest = [] then first else first ++ ',' :: groupDigits rest := by
  induction first with
  | nil => exact absurd rfl hne
  | cons c first ih =>
    rw [List.length_cons] at hfirst
    rw [List.cons_append, groupDigits]
    by_cases hlast : first = []
    · rw [hlast, List.nil_append]
      by_cases hnil : rest = []
      · rw [hnil]
        rfl
      · rw [if_pos ⟨hnil, hrest⟩, if_neg hnil, List.singleton_append]
    · -- one or two digits are left of the group, so what follows is no multiple of three
      have hpos := List.length_pos_of_ne_nil hlast
      have hmod : ¬ (first ++ rest ≠ [] ∧ (first ++ rest).length % 3 = 0) := by
        rintro ⟨_, hmod⟩
        rw [List.length_append] at hmod
        omega
      rw [if_neg hmod, ih hlast (by omega)]
      split
      · rfl
      · rfl

/-- The commas stand between the groups. -/
theorem groupDigits_flatten {groups : List (List Char)} (h : IsThousands groups) :
    groupDigits groups.flatten = [','].intercalate groups := by
  induction groups with
  | nil => cases h
  | cons first others ih =>
    cases others with
    | nil =>
      obtain ⟨hne, hfirst, _⟩ := h
      have hgroup : groupDigits (first ++ []) = first := groupDigits_append hne hfirst rfl
      rw [List.append_nil] at hgroup
      rw [List.flatten_singleton, hgroup, List.intercalate_singleton]
    | cons group others =>
      have htail := ih h.of_cons
      obtain ⟨hne, hfirst, hothers⟩ := h
      have hmore : (group :: others).flatten ≠ [] := by
        rw [List.flatten_cons]
        exact List.append_ne_nil_of_left_ne_nil
          (List.ne_nil_of_length_eq_add_one (hothers group List.mem_cons_self)) _
      rw [List.flatten_cons, groupDigits_append hne hfirst (length_flatten_mod_three hothers),
        if_neg hmore, htail, List.intercalate_cons_cons, List.append_assoc, List.singleton_append]

/-! ## Commas taken away -/

theorem not_mem_of_mem_splitOn {c : Char} {cs piece : List Char} (h : piece ∈ cs.splitOn c) :
    c ∉ piece := by
  induction cs generalizing piece with
  | nil =>
    rw [List.splitOn_nil, List.mem_singleton] at h
    rw [h]
    exact List.not_mem_nil
  | cons d cs ih =>
    rw [List.splitOn_cons_eq_if_modifyHead] at h
    split at h
    · rcases List.mem_cons.mp h with rfl | h
      · exact List.not_mem_nil
      · exact ih h
    · rename_i hd
      obtain ⟨first, others, hpieces⟩ := List.exists_cons_of_ne_nil (List.splitOn_ne_nil c cs)
      rw [hpieces] at h ih
      rcases List.mem_cons.mp h with rfl | h
      · refine List.not_mem_cons_of_ne_of_not_mem ?_ (ih List.mem_cons_self)
        rintro rfl
        exact hd (beq_self_eq_true c)
      · exact ih (List.mem_cons_of_mem first h)

theorem filter_intercalate {groups : List (List Char)} (h : ∀ group ∈ groups, ',' ∉ group) :
    ([','].intercalate groups).filter (· ≠ ',') = groups.flatten := by
  induction groups with
  | nil => rfl
  | cons first others ih =>
    obtain ⟨hfirst, hothers⟩ := List.forall_mem_cons.mp h
    have hkept : first.filter (· ≠ ',') = first := by
      refine List.filter_eq_self.mpr fun c hc => ?_
      rw [decide_eq_true_eq]
      rintro rfl
      exact hfirst hc
    cases others with
    | nil => rw [List.intercalate_singleton, hkept, List.flatten_singleton]
    | cons group others =>
      rw [List.intercalate_cons_cons, List.filter_append, List.filter_append, hkept, ih hothers]
      simp

/-! ## Counts -/

theorem IsGrouped.eq_groupThousands {n : Nat} {text : String} (h : IsGrouped n text) :
    text = groupThousands n := by
  obtain ⟨hdigits, hgroups⟩ := h
  have htext : [','].intercalate (text.toList.splitOn ',') = text.toList :=
    List.intercalate_splitOn ','
  have hfree : ∀ group ∈ text.toList.splitOn ',', ',' ∉ group := fun _ => not_mem_of_mem_splitOn
  have hflat : (text.toList.splitOn ',').flatten = Nat.toDigits 10 n := by
    rw [← filter_intercalate hfree, htext, hdigits]
  apply String.toList_injective
  rw [groupThousands, String.toList_ofList, ← hflat, groupDigits_flatten hgroups, htext]

theorem isGrouped_groupThousands (n : Nat) : IsGrouped n (groupThousands n) := by
  obtain ⟨groups, hgroups, hflat⟩ := exists_isThousands (Nat.toDigits_ne_nil (n := n) (b := 10))
  have hfree : ∀ group ∈ groups, ',' ∉ group := by
    intro group hgroup hcomma
    refine (allDigits_toDigits n).not_mem (c := ',') rfl ?_
    rw [← hflat]
    exact List.mem_flatten_of_mem hgroup hcomma
  have htext : (groupThousands n).toList = [','].intercalate groups := by
    rw [groupThousands, String.toList_ofList, ← hflat, groupDigits_flatten hgroups]
  have hne : groups ≠ [] := by
    rintro rfl
    cases hgroups
  constructor
  · rw [htext, filter_intercalate hfree, hflat]
  · rw [htext, List.splitOn_intercalate ',' hfree hne]
    exact hgroups

theorem groupThousands_injective : Function.Injective groupThousands := by
  intro m n h
  have hm := (isGrouped_groupThousands m).digits
  rw [h, (isGrouped_groupThousands n).digits] at hm
  rw [← natOfDigits_toDigits m, ← hm, natOfDigits_toDigits]

/-- A count is written in groups of three, and in no other text of that kind. Different counts are
shown differently. -/
theorem sampleText_tells (n : Nat) :
    (∀ text, IsGrouped n text ↔ text = groupThousands n) ∧
      ∀ m, sampleText (some m) = sampleText (some n) ↔ m = n := by
  refine ⟨fun text => ⟨IsGrouped.eq_groupThousands, ?_⟩, fun m => ⟨fun h => ?_, ?_⟩⟩
  · rintro rfl
    exact isGrouped_groupThousands n
  · have htext : groupThousands m = groupThousands n :=
      (String.append_right_inj _).mp ((String.append_left_inj _).mp h)
    exact groupThousands_injective htext
  · rintro rfl
    rfl

example : groupThousands 18446744073709551615 = "18,446,744,073,709,551,615" := by decide +kernel

end PollAtlas.Poll
