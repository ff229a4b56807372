import Mathlib.Data.List.Infix
import PollAtlas.Region.Code

/-!
# The forms of region codes

What the readers of region codes find, said of the text and not of the reading: the code
of a district is two digits, a dash and three digits, and the digits of a province are the
first two that stand next to each other, wherever a marker stands.

* `isDistrictCode_iff`, `provinceOf?_eq_some_iff`: districts and their provinces.
* `leftmostDigits?_eq_some_iff`, `leftmostDigits?_eq_none_iff`: the digits of a province.
-/

namespace PollAtlas.Region

/-- The polling service's code for the whole province of two digits. -/
def wholeCode (a b : Char) : String := String.ofList [a, b, '-', '0', '0', '0']

theorem ofList_append_wholeProvince (a b : Char) :
    String.ofList [a, b] ++ wholeProvince = wholeCode a b := by
  apply String.toList_injective
  simp [wholeProvince, wholeCode]

/-! ## Districts -/

/-- The code of a district in the province of two digits. -/
def IsDistrict (code : String) (a b : Char) : Prop :=
  a.isDigit = true ∧ b.isDigit = true ∧
    ∃ x y z : Char, x.isDigit = true ∧ y.isDigit = true ∧ z.isDigit = true ∧
      code.toList = [a, b, '-', x, y, z]

theorem isDistrictForm_iff {cs : List Char} :
    isDistrictForm cs = true ↔
      ∃ a b x y z : Char, a.isDigit = true ∧ b.isDigit = true ∧ x.isDigit = true ∧
        y.isDigit = true ∧ z.isDigit = true ∧ cs = [a, b, '-', x, y, z] := by
  constructor
  · intro h
    unfold isDistrictForm at h
    split at h
    · rename_i a b x y z
      simp only [Bool.and_eq_true] at h
      obtain ⟨⟨⟨⟨ha, hb⟩, hx⟩, hy⟩, hz⟩ := h
      exact ⟨a, b, x, y, z, ha, hb, hx, hy, hz, rfl⟩
    · cases h
  · rintro ⟨a, b, x, y, z, ha, hb, hx, hy, hz, rfl⟩
    simp [isDistrictForm, ha, hb, hx, hy, hz]

theorem isDistrictCode_iff {code : String} :
    isDistrictCode code = true ↔ ∃ a b, IsDistrict code a b := by
  rw [isDistrictCode, isDistrictForm_iff]
  constructor
  · rintro ⟨a, b, x, y, z, ha, hb, hx, hy, hz, hcode⟩
    exact ⟨a, b, ha, hb, x, y, z, hx, hy, hz, hcode⟩
  · rintro ⟨a, b, ha, hb, x, y, z, hx, hy, hz, hcode⟩
    exact ⟨a, b, x, y, z, ha, hb, hx, hy, hz, hcode⟩

/-- The province of a code is that of the district which it names. -/
theorem provinceOf?_eq_some_iff {code key : String} :
    provinceOf? code = some key ↔ ∃ a b, IsDistrict code a b ∧ key = wholeCode a b := by
  have hkey : ∀ a b, IsDistrict code a b →
      String.ofList (code.toList.take 2) ++ wholeProvince = wholeCode a b := by
    rintro a b ⟨_, _, x, y, z, _, _, _, hcode⟩
    rw [hcode]
    exact ofList_append_wholeProvince a b
  unfold provinceOf?
  by_cases hdistrict : isDistrictCode code = true
  · rw [if_pos hdistrict, Option.some.injEq]
    constructor
    · rintro rfl
      obtain ⟨a, b, h⟩ := isDistrictCode_iff.mp hdistrict
      exact ⟨a, b, h, hkey a b h⟩
    · rintro ⟨a, b, h, rfl⟩
      exact hkey a b h
  · rw [if_neg hdistrict]
    refine iff_of_false (by simp) ?_
    rintro ⟨a, b, h, _⟩
    exact hdistrict (isDistrictCode_iff.mpr ⟨a, b, h⟩)

/-! ## Digits of a province -/

/-- Two digits stand next to each other. -/
def HasDigitPair (cs : List Char) : Prop :=
  ∃ a b : Char, a.isDigit = true ∧ b.isDigit = true ∧ [a, b] <:+: cs

/-- The first two digits that stand next to each other. -/
def FirstDigitPair (cs : List Char) (a b : Char) : Prop :=
  a.isDigit = true ∧ b.isDigit = true ∧
    ∃ before after, cs = before ++ a :: b :: after ∧ ¬ HasDigitPair (before ++ [a])

theorem not_hasDigitPair_of_short {cs : List Char} (h : cs.length < 2) : ¬ HasDigitPair cs := by
  rintro ⟨a, b, _, _, hinfix⟩
  have := hinfix.length_le
  simp only [List.length_cons, List.length_nil] at this
  omega

theorem FirstDigitPair.hasDigitPair {cs : List Char} {a b : Char} (h : FirstDigitPair cs a b) :
    HasDigitPair cs := by
  obtain ⟨ha, hb, before, after, rfl, _⟩ := h
  exact ⟨a, b, ha, hb, before, after, by simp⟩

theorem hasDigitPair_cons_cons {c d : Char} {rest : List Char} :
    HasDigitPair (c :: d :: rest) ↔
      (c.isDigit = true ∧ d.isDigit = true) ∨ HasDigitPair (d :: rest) := by
  constructor
  · rintro ⟨a, b, ha, hb, hinfix⟩
    rcases List.infix_cons_iff.mp hinfix with hprefix | hinfix
    · obtain ⟨tail, htail⟩ := hprefix
      simp only [List.cons_append, List.nil_append, List.cons.injEq] at htail
      obtain ⟨rfl, rfl, _⟩ := htail
      exact Or.inl ⟨ha, hb⟩
    · exact Or.inr ⟨a, b, ha, hb, hinfix⟩
  · rintro (⟨hc, hd⟩ | ⟨a, b, ha, hb, hinfix⟩)
    · exact ⟨c, d, hc, hd, [], rest, rfl⟩
    · exact ⟨a, b, ha, hb, List.infix_cons hinfix⟩

/-- What stands before the second of two characters begins as the text does. -/
theorem exists_tail_of_split {d a b : Char} {rest before after : List Char}
    (h : d :: rest = before ++ a :: b :: after) : ∃ tail, before ++ [a] = d :: tail := by
  cases before with
  | nil => exact ⟨[], by rw [(List.cons.inj h).1]; rfl⟩
  | cons e before => exact ⟨before ++ [a], by rw [(List.cons.inj h).1]; rfl⟩

theorem firstDigitPair_cons_cons {c d a b : Char} {rest : List Char} :
    FirstDigitPair (c :: d :: rest) a b ↔
      (c.isDigit = true ∧ d.isDigit = true ∧ a = c ∧ b = d) ∨
        (¬ (c.isDigit = true ∧ d.isDigit = true) ∧ FirstDigitPair (d :: rest) a b) := by
  constructor
  · rintro ⟨ha, hb, before, after, hsplit, hnone⟩
    cases before with
    | nil =>
      simp only [List.nil_append, List.cons.injEq] at hsplit
      obtain ⟨rfl, rfl, rfl⟩ := hsplit
      exact Or.inl ⟨ha, hb, rfl, rfl⟩
    | cons e before =>
      simp only [List.cons_append, List.cons.injEq] at hsplit
      obtain ⟨rfl, hsplit⟩ := hsplit
      obtain ⟨tail, htail⟩ := exists_tail_of_split hsplit
      rw [List.cons_append, htail, hasDigitPair_cons_cons, not_or, ← htail] at hnone
      exact Or.inr ⟨hnone.1, ha, hb, before, after, hsplit, hnone.2⟩
  · rintro (⟨hc, hd, rfl, rfl⟩ | ⟨hcd, ha, hb, before, after, hsplit, hnone⟩)
    · exact ⟨hc, hd, [], rest, rfl, not_hasDigitPair_of_short (by simp)⟩
    · refine ⟨ha, hb, c :: before, after, by rw [hsplit]; rfl, ?_⟩
      obtain ⟨tail, htail⟩ := exists_tail_of_split hsplit
      rw [List.cons_append, htail, hasDigitPair_cons_cons, not_or, ← htail]
      exact ⟨hcd, hnone⟩

theorem digitsAtHead?_of_digits {a b : Char} {tail : List Char}
    (h : (a.isDigit && b.isDigit) = true) : digitsAtHead? (a :: b :: tail) = some (a, b) := by
  unfold digitsAtHead?
  split
  · rename_i heq
    obtain rfl : a = 'K' := (List.cons.inj heq).1
    cases h
  · rename_i heq
    obtain ⟨rfl, rfl, rfl⟩ : a = _ ∧ b = _ ∧ tail = _ := by simpa using heq
    rw [if_pos h]
  · rename_i hshort
    exact absurd rfl (hshort a b tail)

/-- One step of the reading. A marker is passed over character by character, since none of
its characters is a digit. -/
theorem leftmostDigits?_cons_cons (c d : Char) (rest : List Char) :
    leftmostDigits? (c :: d :: rest) =
      if c.isDigit && d.isDigit then some (c, d) else leftmostDigits? (d :: rest) := by
  rw [leftmostDigits?]
  unfold digitsAtHead?
  split
  · rename_i a b tail heq
    obtain ⟨rfl, rfl, rfl⟩ : c = 'K' ∧ d = 'R' ∧ rest = '-' :: a :: b :: tail := by
      simpa using heq
    have hpassed : leftmostDigits? ('R' :: '-' :: a :: b :: tail) =
        leftmostDigits? (a :: b :: tail) := rfl
    by_cases hab : (a.isDigit && b.isDigit) = true
    · rw [if_pos hab, hpassed, leftmostDigits?, digitsAtHead?_of_digits hab]
      rfl
    · rw [if_neg hab]
      rfl
  · rename_i a b tail _ heq
    obtain ⟨rfl, rfl, rfl⟩ : c = a ∧ d = b ∧ rest = tail := by simpa using heq
    split <;> rfl
  · rename_i h
    exact absurd rfl (h c d rest)

theorem leftmostDigits?_of_short {cs : List Char} (h : cs.length < 2) :
    leftmostDigits? cs = none := by
  match cs, h with
  | [], _ => rfl
  | [c], _ => simp [leftmostDigits?, digitsAtHead?]

/-- The digits that are found are the first two that stand next to each other. -/
theorem leftmostDigits?_eq_some_iff {a b : Char} :
    ∀ {cs : List Char}, leftmostDigits? cs = some (a, b) ↔ FirstDigitPair cs a b
  | [] => iff_of_false (by simp [leftmostDigits?])
      fun h => not_hasDigitPair_of_short (by simp) h.hasDigitPair
  | [c] => iff_of_false (by simp [leftmostDigits?_of_short])
      fun h => not_hasDigitPair_of_short (by simp) h.hasDigitPair
  | c :: d :: rest => by
    rw [leftmostDigits?_cons_cons, firstDigitPair_cons_cons, ← leftmostDigits?_eq_some_iff]
    by_cases hcd : c.isDigit = true ∧ d.isDigit = true
    · rw [if_pos (by simpa using hcd)]
      simp [hcd, eq_comm]
    · rw [if_neg (by simpa using hcd)]
      constructor
      · intro h
        exact Or.inr ⟨hcd, h⟩
      · rintro (⟨hc, hd, _⟩ | ⟨_, h⟩)
        · exact absurd ⟨hc, hd⟩ hcd
        · exact h

theorem leftmostDigits?_eq_none_iff :
    ∀ {cs : List Char}, leftmostDigits? cs = none ↔ ¬ HasDigitPair cs
  | [] => iff_of_true rfl (not_hasDigitPair_of_short (by simp))
  | [c] => iff_of_true (leftmostDigits?_of_short (by simp)) (not_hasDigitPair_of_short (by simp))
  | c :: d :: rest => by
    rw [leftmostDigits?_cons_cons, hasDigitPair_cons_cons, not_or, ← leftmostDigits?_eq_none_iff]
    by_cases hcd : c.isDigit = true ∧ d.isDigit = true
    · rw [if_pos (by simpa using hcd)]
      simp [hcd]
    · rw [if_neg (by simpa using hcd)]
      exact (and_iff_right hcd).symm

/-- The province that a text names is that of its first two adjacent digits. -/
theorem apiCode?_eq_some_iff {text key : String} :
    apiCode? text = some key ↔ ∃ a b, FirstDigitPair text.toList a b ∧ key = wholeCode a b := by
  simp only [apiCode?, provinceDigits?, Option.map_map, Option.map_eq_some_iff, Prod.exists,
    leftmostDigits?_eq_some_iff, Function.comp_apply, ofList_append_wholeProvince,
    eq_comm (b := key)]

end PollAtlas.Region
