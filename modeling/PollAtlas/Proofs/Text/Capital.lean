import PollAtlas.Text.Capital

/-!
# Capitals of letters beyond ASCII

In ASCII only the letters have capitals, one each. A few characters beyond ASCII become ASCII
letters; beside letters beyond ASCII these are an F, an I or an S, and one of them is in each such
text. So a text in upper case without any of them is the upper case of an ASCII text.

* `capitals_of_ascii`: characters of ASCII.
* `exists_mem_capitals`: what is in the capitals of every other character.
-/

namespace PollAtlas.Text

/-- What holds of ASCII can be checked code by code. -/
theorem forall_ascii {P : Char → Prop} (h : ∀ n < 0x80, P (Char.ofNat n)) {c : Char}
    (hc : c.toNat < 0x80) : P c := by
  have hofNat := h c.toNat hc
  rwa [Char.ofNat_toNat] at hofNat

/-- The letters of ASCII are the first run of letters. -/
theorem capitalShifts_eq : ∃ others, capitalShifts = ⟨⟨0x61, 0x7a⟩, 1, 0x41⟩ :: others ∧
    ∀ shift ∈ others, 0x80 ≤ shift.range.first :=
  ⟨_, rfl, by decide +kernel⟩

theorem beyond_of_mem_capitalGroups : ∀ group ∈ capitalGroups, 0x80 ≤ group.1 := by
  decide +kernel

theorem getD_moved?_of_ascii {c : Char} (h : c.toNat < 0x80) :
    (Shift.moved? ⟨⟨0x61, 0x7a⟩, 1, 0x41⟩ c).getD c = c.toUpper :=
  forall_ascii (P := fun c => (Shift.moved? ⟨⟨0x61, 0x7a⟩, 1, 0x41⟩ c).getD c = c.toUpper)
    (by decide +kernel) h

theorem capitals_of_ascii {c : Char} (h : c.toNat < 0x80) : capitals c = [c.toUpper] := by
  obtain ⟨others, hshifts, hothers⟩ := capitalShifts_eq
  have hgroups : capitalGroups.lookup c.toNat = none := by
    rw [List.lookup_eq_none_iff]
    intro group hgroup
    have hbeyond := beyond_of_mem_capitalGroups group hgroup
    have hne : c.toNat ≠ group.1 := by omega
    simpa using hne
  have hnone : others.findSome? (Shift.moved? · c) = none := by
    rw [List.findSome?_eq_none_iff]
    intro shift hshift
    have hbeyond := hothers shift hshift
    have hcontains : shift.range.contains c = false := by
      simp only [CodeRange.contains, Bool.and_eq_false_iff, decide_eq_false_iff_not]
      omega
    rw [Shift.moved?, hcontains, Bool.false_and, if_neg Bool.false_ne_true]
  have hupper := getD_moved?_of_ascii h
  rw [capitals, hgroups, hshifts, List.findSome?_cons, hnone]
  cases hmoved : Shift.moved? ⟨⟨0x61, 0x7a⟩, 1, 0x41⟩ c with
  | none => rw [← hupper, hmoved]
  | some d => rw [← hupper, hmoved]

/-- A character beyond ASCII, or one of the letters that some of these become. -/
def IsForeign (c : Char) : Prop := 0x80 ≤ c.toNat ∨ c ∈ ['F', 'I', 'S']

instance (c : Char) : Decidable (IsForeign c) := inferInstanceAs (Decidable (_ ∨ _))

theorem toNat_ofNat {n : Nat} (h : n < 0xd800 ∨ 0xdfff < n ∧ n < 0x110000) :
    (Char.ofNat n).toNat = n := by
  have hvalid : n.isValidChar := h
  rw [Char.ofNat, dif_pos hvalid]
  rfl

theorem any_isForeign_of_mem_capitalGroups :
    ∀ group ∈ capitalGroups,
      (group.2.map Char.ofNat).any (fun d => decide (IsForeign d)) = true := by
  decide +kernel

/-- A run of letters is in ASCII, or its capitals are beyond ASCII, or it is one letter that
becomes an I or an S. -/
theorem capitalShifts_cases : ∀ shift ∈ capitalShifts,
    shift.range.last < 0x80 ∨
    (0x80 ≤ shift.target ∧ shift.target + (shift.range.last - shift.range.first) < 0xd800) ∨
    (0xdfff < shift.target ∧
      shift.target + (shift.range.last - shift.range.first) < 0x110000) ∨
    (shift.range.first = shift.range.last ∧ (shift.target = 0x49 ∨ shift.target = 0x53)) := by
  decide +kernel

theorem isForeign_of_moved? {shift : Shift} (hshift : shift ∈ capitalShifts) {c d : Char}
    (hc : 0x80 ≤ c.toNat) (hmoved : shift.moved? c = some d) : IsForeign d := by
  unfold Shift.moved? at hmoved
  split at hmoved
  · rename_i hcontains
    rw [Option.some.injEq] at hmoved
    subst hmoved
    simp only [CodeRange.contains, Bool.and_eq_true, decide_eq_true_eq] at hcontains
    obtain ⟨⟨hfirst, hlast⟩, _⟩ := hcontains
    rcases capitalShifts_cases shift hshift with
      hascii | ⟨hlow, hhigh⟩ | ⟨hlow, hhigh⟩ | ⟨hone, htarget⟩
    · omega
    · refine Or.inl ?_
      rw [toNat_ofNat (by omega)]
      omega
    · refine Or.inl ?_
      rw [toNat_ofNat (by omega)]
      omega
    · have hzero : c.toNat - shift.range.first = 0 := by omega
      refine Or.inr ?_
      rcases htarget with htarget | htarget
      · rw [hzero, htarget]
        decide
      · rw [hzero, htarget]
        decide
  · cases hmoved

/-- Capitals of a character beyond ASCII show that they are. -/
theorem exists_mem_capitals {c : Char} (h : 0x80 ≤ c.toNat) : ∃ d ∈ capitals c, IsForeign d := by
  unfold capitals
  split
  · rename_i codes hcodes
    obtain ⟨before, after, hgroups, _⟩ := List.lookup_eq_some_iff.mp hcodes
    have hany := any_isForeign_of_mem_capitalGroups (c.toNat, codes) (by simp [hgroups])
    simpa only [List.any_eq_true, decide_eq_true_eq] using hany
  · cases hmoved : capitalShifts.findSome? (Shift.moved? · c) with
    | none => exact ⟨c, List.mem_singleton_self c, Or.inl h⟩
    | some d =>
      obtain ⟨shift, hshift, hd⟩ := List.exists_of_findSome?_eq_some hmoved
      exact ⟨d, List.mem_singleton_self d, isForeign_of_moved? hshift h hd⟩

end PollAtlas.Text
