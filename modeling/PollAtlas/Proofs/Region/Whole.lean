import PollAtlas.Proofs.Region.Forms
import PollAtlas.Proofs.Text.Padding

/-!
# Whole provinces

A whole province has three forms: behind the marker of the map, by its digits alone, and as the
polling service knows it. The first two are forms of their own, which no district has. None of
the three holds a blank.

* `IsWholeProvince`: a text in one of the first two forms.
* `IsWholeProvince.firstDigitPair`: the digits that are found in it.
* `trim_wholeCode`: the code of the polling service has no blanks around it.
-/

namespace PollAtlas.Region

/-- A whole province, behind the marker of the map or by its digits alone. -/
def IsWholeProvince (text : String) (a b : Char) : Prop :=
  a.isDigit = true ∧ b.isDigit = true ∧
    (text.toList = ['K', 'R', '-', a, b] ∨ text.toList = [a, b])

theorem IsWholeProvince.firstDigitPair {text : String} {a b : Char}
    (h : IsWholeProvince text a b) : FirstDigitPair text.toList a b := by
  obtain ⟨ha, hb, htext⟩ := h
  rw [← leftmostDigits?_eq_some_iff]
  rcases htext with htext | htext
  · rw [htext]
    exact provinceDigits?_of_marker ha hb []
  · rw [htext, leftmostDigits?_cons_cons, ha, hb]
    rfl

theorem IsWholeProvince.isDistrictCode {text : String} {a b : Char}
    (h : IsWholeProvince text a b) : isDistrictCode text = false := by
  obtain ⟨_, _, htext⟩ := h
  rw [Bool.eq_false_iff, ne_eq, isDistrictCode_iff]
  rintro ⟨c, d, _, _, x, y, z, _, _, _, hdistrict⟩
  have hlength := congrArg List.length hdistrict
  rcases htext with htext | htext
  · rw [htext] at hlength
    cases hlength
  · rw [htext] at hlength
    cases hlength

/-! ## Codes without blanks -/

/-- The three forms of the code of a whole province: on the map, alone, and as a key. -/
def wholeForms (a b : Char) : List (List Char) :=
  [['K', 'R', '-', a, b], [a, b], [a, b, '-', '0', '0', '0']]

theorem not_blank_of_mem_wholeForms {a b : Char} (ha : a.isDigit = true) (hb : b.isDigit = true)
    {form : List Char} (hform : form ∈ wholeForms a b) : ∀ c ∈ form, Text.isBlank c = false := by
  have ha' := Text.isBlank_of_isDigit ha
  have hb' := Text.isBlank_of_isDigit hb
  have hsigns : Text.isBlank 'K' = false ∧ Text.isBlank 'R' = false ∧
      Text.isBlank '-' = false ∧ Text.isBlank '0' = false := by decide
  simp only [wholeForms, List.mem_cons, List.not_mem_nil, or_false] at hform
  rcases hform with rfl | rfl | rfl
  · simp [ha', hb', hsigns]
  · simp [ha', hb']
  · simp [ha', hb', hsigns]

theorem isDistrict_wholeCode {a b : Char} (ha : a.isDigit = true) (hb : b.isDigit = true) :
    IsDistrict (wholeCode a b) a b :=
  ⟨ha, hb, '0', '0', '0', rfl, rfl, rfl, String.toList_ofList⟩

theorem IsDistrict.eq_of_wholeCode {a b c d : Char} (h : IsDistrict (wholeCode c d) a b) :
    c = a ∧ d = b := by
  obtain ⟨_, _, x, y, z, _, _, _, hchars⟩ := h
  rw [wholeCode, String.toList_ofList] at hchars
  simp only [List.cons.injEq] at hchars
  exact ⟨hchars.1, hchars.2.1⟩

theorem trim_wholeCode {a b : Char} (ha : a.isDigit = true) (hb : b.isDigit = true) :
    Text.trim (wholeCode a b) = wholeCode a b := by
  have hform : [a, b, '-', '0', '0', '0'] ∈ wholeForms a b := by simp [wholeForms]
  have hblank := not_blank_of_mem_wholeForms ha hb hform
  exact (Text.isPadded_self (String.toList_ofList)).trim hblank

end PollAtlas.Region
