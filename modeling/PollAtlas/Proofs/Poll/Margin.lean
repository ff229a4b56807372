import PollAtlas.Poll.Detail
import PollAtlas.Proofs.Number.Grammar

/-!
# The line of a margin

A margin is published as a number or as a text, and the text may be that of a number again. Both
are shown alike as long as the number is finite. One that is not counts as missing where it is
given as such, but the text of one is read without asking for the range: a line may say that the
margin is infinite, or that it is no number.

* `pointsText_injective`: a line tells the number that it shows, infinite or not.
* `marginText_showsNumbers`: which margins have the line that their number should have.
* `not_marginText_text_eq_points`: the text `nan` has not.
-/

namespace PollAtlas.Poll

/-! ## Lines -/

/-- The line tells which double is shown. -/
theorem pointsText_injective : Function.Injective pointsText := by
  intro x y h
  have hplain : x.plainText = y.plainText :=
    (String.append_right_inj _).mp ((String.append_left_inj _).mp h)
  have htext : x.text .plain = y.text .plain := String.ofList_injective hplain
  have hread := congrArg Double.parse? htext
  rw [Double.parse?_text_plain, Double.parse?_text_plain] at hread
  exact Option.some.inj hread

theorem pointsText_ne_missing (x : Double) : pointsText x ≠ missingMargin := by
  intro h
  have hchars := congrArg String.toList h
  simp [pointsText, missingMargin] at hchars

/-- A number out of range is not shown where it is given as such. -/
theorem marginText_points_eq_iff (x : Double) :
    marginText (some (.points x)) = pointsText x ↔ x.isFinite = true := by
  rw [marginText]
  split
  · rename_i hx
    exact iff_of_true rfl hx
  · rename_i hx
    exact iff_of_false (pointsText_ne_missing x).symm hx

/-! ## Texts -/

/-- The number that a margin stands for; blanks around a text do not count. -/
inductive Margin.StandsFor : Margin → Double → Prop
  | points (x : Double) : StandsFor (.points x) x
  | text {s : String} {negative : Bool} {m : Magnitude}
      (h : IsNumeral (Text.trim s).toList negative m) : StandsFor (.text s) (m.toDouble negative)

/-- The text stands for a number. -/
def IsNumeric (s : String) : Prop := ∃ x, Margin.StandsFor (.text s) x

theorem numberOfText?_eq_some_iff {s : String} {x : Double} :
    numberOfText? s = some x ↔ Margin.StandsFor (.text s) x := by
  rw [numberOfText?, ← Text.toList_trim, Double.parse?_eq_some_iff]
  constructor
  · rintro ⟨negative, m, h, rfl⟩
    exact .text h
  · intro h
    cases h with
    | text h => exact ⟨_, _, h, rfl⟩

theorem marginText_of_standsFor {s : String} {x : Double} (h : Margin.StandsFor (.text s) x) :
    marginText (some (.text s)) = pointsText x := by
  have hread := numberOfText?_eq_some_iff.mpr h
  rw [numberOfText?, ← Text.toList_trim] at hread
  have hne : Text.trim s ≠ "" := by
    intro hempty
    rw [hempty] at hread
    cases hread
  simp only [marginText, Text.content?, if_neg hne, hread]

theorem marginText_of_not_isNumeric {s : String} (h : ¬ IsNumeric s) :
    marginText (some (.text s)) =
      if Text.trim s = "" then missingMargin else "오차 " ++ Text.trim s := by
  have hread : Double.parse? (Text.trim s).toList = none := by
    rw [Text.toList_trim, Option.eq_none_iff_forall_ne_some]
    intro x hx
    exact h ⟨x, numberOfText?_eq_some_iff.mp hx⟩
  rw [marginText, Text.content?]
  split_ifs
  · rfl
  · simp only [hread]

/-! ## Numbers out of range -/

/-- The line that a margin should have: its number where it is finite, its text where it stands
for no number, and else that nothing is known. -/
inductive IsProperLine (margin : Option Margin) : String → Prop
  | number {given : Margin} {x : Double} (hmargin : margin = some given) (h : given.StandsFor x)
      (hx : x.isFinite = true) : IsProperLine margin (pointsText x)
  | words {s : String} (hmargin : margin = some (.text s)) (hs : ¬ IsNumeric s)
      (hne : Text.trim s ≠ "") : IsProperLine margin ("오차 " ++ Text.trim s)
  | missing (hnumber : ∀ given x, margin = some given → given.StandsFor x → x.isFinite = false)
      (hwords : ∀ s, margin = some (.text s) → IsNumeric s ∨ Text.trim s = "") :
      IsProperLine margin missingMargin

/-- The margin is the text of a number that is out of the range of doubles, of an infinite one,
or of the word for no number. -/
def IsOutOfRange (margin : Option Margin) : Prop :=
  ∃ s negative m, margin = some (.text s) ∧ IsNumeral (Text.trim s).toList negative m ∧ ¬ m.InRange

theorem isProperLine_marginText {margin : Option Margin} (h : ¬ IsOutOfRange margin) :
    IsProperLine margin (marginText margin) := by
  rcases margin with _ | x | s
  · refine .missing ?_ nofun
    intro given x hgiven
    cases hgiven
  · rw [marginText]
    split
    · rename_i hx
      exact .number rfl (.points x) hx
    · rename_i hx
      refine .missing ?_ nofun
      intro given y hgiven hstands
      cases hgiven
      cases hstands
      exact Bool.eq_false_iff.mpr hx
  · by_cases hs : IsNumeric s
    · obtain ⟨_, hstands⟩ := hs
      rw [marginText_of_standsFor hstands]
      cases hstands with
      | @text _ negative m hm =>
        refine .number rfl (.text hm) ((m.isFinite_toDouble negative).mpr ?_)
        by_contra hrange
        exact h ⟨s, negative, m, rfl, hm, hrange⟩
    · rw [marginText_of_not_isNumeric hs]
      split
      · rename_i hblank
        refine .missing ?_ ?_
        · rintro _ x ⟨⟩ hstands
          exact absurd ⟨x, hstands⟩ hs
        · rintro _ ⟨⟩
          exact Or.inr hblank
      · rename_i hne
        exact .words rfl hs hne

theorem IsOutOfRange.not_isProperLine {margin : Option Margin} (h : IsOutOfRange margin) :
    ¬ IsProperLine margin (marginText margin) := by
  obtain ⟨s, negative, m, rfl, hm, hrange⟩ := h
  have hstands := Margin.StandsFor.text hm
  rw [marginText_of_standsFor hstands]
  intro hproper
  generalize hline : pointsText (m.toDouble negative) = line at hproper
  cases hproper with
  | number hmargin h hx =>
    rw [← pointsText_injective hline, m.isFinite_toDouble] at hx
    exact hrange hx
  | words hmargin hs hne =>
    cases hmargin
    exact hs ⟨_, hstands⟩
  | missing hnumber hwords => exact pointsText_ne_missing _ hline

/-- A text of a number has the line of that number as long as the number is in range; one out of
range is shown where it is written, and counts as missing where it is given as such. The line of
a margin is the proper one unless the margin is a text of that kind. -/
theorem marginText_showsNumbers (margin : Option Margin) :
    (∀ s negative m, margin = some (.text s) → IsNumeral (Text.trim s).toList negative m →
      marginText margin = pointsText (m.toDouble negative) ∧
        (marginText margin = marginText (some (.points (m.toDouble negative))) ↔ m.InRange)) ∧
      (IsProperLine margin (marginText margin) ↔ ¬ IsOutOfRange margin) := by
  refine ⟨?_, fun hproper hout => hout.not_isProperLine hproper, isProperLine_marginText⟩
  rintro s negative m rfl h
  have hline := marginText_of_standsFor (.text h)
  refine ⟨hline, ?_⟩
  rw [hline, eq_comm, marginText_points_eq_iff]
  exact m.isFinite_toDouble negative

/-- A padded decimal with an exponent is in range, so its line is that of its number. -/
theorem marginText_showsNumbers_padded :
    marginText (some (.text " +3.1e0 ")) =
      marginText (some (.points (Decimal.toDouble false ⟨31, -1⟩))) := by
  have hexponent : IsExponent ['e', '0'] 0 :=
    .present (Or.inl rfl) (.mk .absent (by decide) (by decide))
  have hdecimal : IsDecimal (['3'] ++ '.' :: (['1'] ++ ['e', '0'])) ⟨31, 0 - 1⟩ :=
    .point (by decide) (by decide) (by decide) hexponent
  have hnumeral : IsNumeral (Text.trim " +3.1e0 ").toList false (.decimal ⟨31, -1⟩) :=
    .mk .plus (.decimal hdecimal)
  have hrange : Decimal.InRange ⟨31, -1⟩ := by decide +kernel
  exact ((marginText_showsNumbers _).1 _ _ _ rfl hnumeral).2.mpr hrange

/-- Without the range the lines differ at the word for no number. -/
theorem not_marginText_text_eq_points :
    ¬ ∀ s x, numberOfText? s = some x →
      marginText (some (.text s)) = marginText (some (.points x)) := by
  intro h
  have hline := h "nan" .nan rfl
  revert hline
  decide

end PollAtlas.Poll
