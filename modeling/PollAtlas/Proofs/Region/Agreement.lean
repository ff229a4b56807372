import PollAtlas.Proofs.Region.Canonical
import PollAtlas.Proofs.Region.Param

/-!
# Where the readers of region codes agree

A text is read in four ways: for the region that it asks for, for the first two digits in it, as
the code of a district, and as a spelling of a code. The readers have little in common. The first
counts bytes behind a marker, the second searches, the third knows one form only, and the fourth
drops spaces and takes small letters. On the two forms of a whole province that are rewritten all
four know the province, and they say the same of the text and of the code that it becomes.

* `FirstDigitPair.of_isPadded`: blanks around a text do not change the digits that are found.
* `isSpelling_whole`, `isSpelling_wholeCode`: a whole province is spelled in each of its forms.
* `Param.Agrees`, `Param.ofText_agrees`: what the readers say of a text that is not blank.
-/

namespace PollAtlas.Region

variable {a b : Char} {text : String}

/-! ## Digits among blanks -/

theorem hasDigitPair_cons_of_not_digit {c : Char} (hc : c.isDigit = false) (cs : List Char) :
    HasDigitPair (c :: cs) ↔ HasDigitPair cs := by
  cases cs with
  | nil =>
    exact iff_of_false (not_hasDigitPair_of_short (by simp)) (not_hasDigitPair_of_short (by simp))
  | cons d rest => simp [hasDigitPair_cons_cons, hc]

theorem isDigit_of_isBlank {c : Char} (h : Text.isBlank c = true) : c.isDigit = false := by
  rw [Bool.eq_false_iff]
  intro hdigit
  rw [Text.isBlank_of_isDigit hdigit] at h
  cases h

theorem hasDigitPair_append_of_blank {before : List Char}
    (h : ∀ c ∈ before, Text.isBlank c = true) (cs : List Char) :
    HasDigitPair (before ++ cs) ↔ HasDigitPair cs := by
  induction before with
  | nil => rfl
  | cons c before ih =>
    obtain ⟨hc, hbefore⟩ := List.forall_mem_cons.mp h
    rw [List.cons_append, hasDigitPair_cons_of_not_digit (isDigit_of_isBlank hc), ih hbefore]

/-- The digits that are found in a text are found with blanks around it. -/
theorem FirstDigitPair.of_isPadded {cs : List Char} (h : FirstDigitPair cs a b)
    (hpadded : Text.IsPadded cs text) : FirstDigitPair text.toList a b := by
  obtain ⟨ha, hb, left, right, rfl, hnone⟩ := h
  obtain ⟨before, after, hbefore, _, htext⟩ := hpadded
  refine ⟨ha, hb, before ++ left, right ++ after, by simp [htext], ?_⟩
  rwa [List.append_assoc, hasDigitPair_append_of_blank hbefore]

/-! ## Spellings of a whole province -/

theorem packed_of_not_blank {cs : List Char} (h : ∀ c ∈ cs, Text.isBlank c = false) :
    packed cs = cs := by
  refine List.filter_eq_self.mpr fun c hc => ?_
  rw [decide_eq_true_eq]
  rintro rfl
  exact absurd (h ' ' hc) (by decide)

/-- The digits of a whole province, with the marker of the map or without it. -/
theorem isSpelling_whole (h : IsWholeProvince text a b) :
    IsSpelling (packed text.toList) (renumbered a b ++ ['-', '0', '0', '0']) := by
  obtain ⟨ha, hb, htext⟩ := h
  have hdigits : AllDigits [a, b] := by simp [AllDigits, ha, hb]
  have hform : text.toList ∈ wholeForms a b := by
    rcases htext with htext | htext
    · simp [wholeForms, htext]
    · simp [wholeForms, htext]
  rw [packed_of_not_blank (not_blank_of_mem_wholeForms ha hb hform)]
  rcases htext with htext | htext
  · exact ⟨['K', 'R', '-'], [a, b], htext,
      .dashed (Or.inl rfl) (Or.inl rfl) (Or.inl rfl), .province hdigits⟩
  · exact ⟨[], [a, b], htext, .missing, .province hdigits⟩

theorem isSpelling_wholeCode (ha : a.isDigit = true) (hb : b.isDigit = true) :
    IsSpelling (packed (wholeCode a b).toList) (renumbered a b ++ ['-', '0', '0', '0']) := by
  have hform : (wholeCode a b).toList ∈ wholeForms a b := by simp [wholeForms, wholeCode]
  have hdigits : AllDigits [a, b, '0', '0', '0'] := by
    simp only [AllDigits, List.forall_mem_cons]
    exact ⟨ha, hb, rfl, rfl, rfl, List.forall_mem_nil _⟩
  rw [packed_of_not_blank (not_blank_of_mem_wholeForms ha hb hform)]
  exact ⟨[], [a, b, '-', '0', '0', '0'], String.toList_ofList, .missing,
    .district hdigits (Or.inl rfl)⟩

/-- The code that a whole province becomes has the canonical form of the text. -/
theorem canonical_of_whole (h : IsWholeProvince (Text.trim text) a b) :
    ∃ canonical, (Canonical.ofText text).canonical = some canonical ∧
      (Canonical.ofText (wholeCode a b)).canonical = some canonical := by
  have hwhole := isSpelling_wholeCode h.1 h.2.1
  rw [← trim_wholeCode h.1 h.2.1] at hwhole
  rw [Canonical.ofText_of_isSpelling (isSpelling_whole h), Canonical.ofText_of_isSpelling hwhole]
  exact ⟨_, rfl, rfl⟩

/-! ## The four readers -/

namespace Param

/-- What the readers say of a text and of the code that it asks for. -/
structure Agrees (text code : String) : Prop where
  normalized : (ofText (some text)).normalized = some code
  corrected_iff : (ofText (some text)).corrected = true ↔ code ≠ Text.trim text
  /-- Only a whole province, behind its marker or by its digits alone, is rewritten. -/
  ne_iff : code ≠ Text.trim text ↔ ∃ a b, IsWholeProvince (Text.trim text) a b
  apiCode : (ofText (some text)).corrected = true → apiCode? text = some code
  province : (ofText (some text)).corrected = true → provinceOf? code = some code
  canonical : (ofText (some text)).corrected = true →
    ∃ canonical, (Canonical.ofText text).canonical = some canonical ∧
      (Canonical.ofText code).canonical = some canonical
  /-- The code is passed on as it is. -/
  again : ofText (some code) = ⟨code, some code, false⟩

/-- A text that is not blank asks for a code, and the readers agree on it. -/
theorem ofText_agrees (h : Text.trim text ≠ "") : ∃ code, Agrees text code := by
  by_cases hwhole : ∃ a b, IsWholeProvince (Text.trim text) a b
  · obtain ⟨a, b, hab⟩ := hwhole
    have heq := ofText_of_whole hab
    have hnormalized : (ofText (some text)).normalized = some (wholeCode a b) := by rw [heq]
    have hcorrected : (ofText (some text)).corrected = true := by rw [heq]
    have hne : wholeCode a b ≠ Text.trim text := fun hcode =>
      not_isWholeProvince_wholeCode (hcode ▸ hab)
    have hdigits := hab.firstDigitPair.of_isPadded (Text.isPadded_trim text)
    exact ⟨wholeCode a b, {
      normalized := hnormalized
      corrected_iff := iff_of_true hcorrected hne
      ne_iff := iff_of_true hne ⟨a, b, hab⟩
      apiCode := fun _ => apiCode?_eq_some_iff.mpr ⟨a, b, hdigits, rfl⟩
      province := fun _ =>
        provinceOf?_eq_some_iff.mpr ⟨a, b, isDistrict_wholeCode hab.1 hab.2.1, rfl⟩
      canonical := fun _ => canonical_of_whole hab
      again := ofText_of_normalized hnormalized }⟩
  · have heq := ofText_of_not_whole h hwhole
    have hnormalized : (ofText (some text)).normalized = some (Text.trim text) := by rw [heq]
    have hcorrected : ¬ (ofText (some text)).corrected = true := by simp [heq]
    have hkept : ¬ Text.trim text ≠ Text.trim text := fun hne => hne rfl
    exact ⟨Text.trim text, {
      normalized := hnormalized
      corrected_iff := iff_of_false hcorrected hkept
      ne_iff := iff_of_false hkept hwhole
      apiCode := fun hc => absurd hc hcorrected
      province := fun hc => absurd hc hcorrected
      canonical := fun hc => absurd hc hcorrected
      again := ofText_of_normalized hnormalized }⟩

/-- A retired province is asked for under its own digits and has the code of its successor. -/
theorem ofText_agrees_retired :
    Text.trim " KR-32\u3000" ≠ "" ∧ Agrees " KR-32\u3000" "32-000" ∧
      (Canonical.ofText " KR-32\u3000").canonical = some "42-000" := by
  have hne : Text.trim " KR-32\u3000" ≠ "" := by decide
  have hcode : (ofText (some " KR-32\u3000")).normalized = some "32-000" := by decide +kernel
  obtain ⟨code, hagrees⟩ := ofText_agrees hne
  obtain rfl : code = "32-000" := Option.some.inj (hagrees.normalized.symm.trans hcode)
  exact ⟨hne, hagrees, by decide +kernel⟩

end Param

end PollAtlas.Region
