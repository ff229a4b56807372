import PollAtlas.Proofs.Poll.Chronology
import PollAtlas.Proofs.Text.ByteOrder

/-!
# Dates written in full

A text that begins with four digits, two and two, with dashes between them, is shown as the day
that the ten characters stand for, or as missing if the calendar has no such day. What follows
them is not read. The year is shown in its own four digits, the month and the day without zeros in
front. As each of the ten characters is one byte, their bytes are ordered as the days are.

* `Date.FullDigits.IsReal`, `Date.FullDigits.shown`: the day of ten characters, and its text.
* `Date.FullDigits.chars_lt_iff`: the order of the ten characters.
* `dateText_inFull`: what is shown, and in which order.
-/

namespace PollAtlas.Poll

namespace Date.FullDigits

variable {f g : FullDigits} {d e : Date} {text : String}

/-- The calendar has the day that the digits name. -/
def IsReal (f : FullDigits) : Prop :=
  IsDay (natOfDigits f.year) (natOfDigits f.month) (natOfDigits f.day)

/-- The digits of the year as they are, and the numbers of the month and the day. -/
def shown (f : FullDigits) : String :=
  s!"{String.ofList f.year}년 {natOfDigits f.month}월 {natOfDigits f.day}일"

theorem ofText?_eq_date? (h : f.chars <+: (Text.trim text).toList) : ofText? text = f.date? := by
  rw [Text.toList_trim] at h
  exact ofText?_of_trimmed h

theorem exists_date?_iff : (∃ d, f.date? = some d) ↔ f.IsReal := by
  rw [IsReal, isDay_iff, date?, ofNumbers?]
  split
  · rename_i h
    exact iff_of_true ⟨_, rfl⟩ h
  · rename_i h
    exact iff_of_false (by simp) h

theorem yearText_natOfDigits (f : FullDigits) :
    yearText (natOfDigits f.year) = String.ofList f.year := by
  have hlimit := natOfDigits_lt_pow f.digits_year
  have hpad := leftpad_natOfDigits f.digits_year
    (List.ne_nil_of_length_eq_add_one f.length_year)
  rw [f.length_year] at hlimit hpad
  apply String.toList_injective
  rw [toList_yearText, if_neg (by omega), if_neg (by omega), yearDigits, Int.natAbs_natCast, hpad,
    String.toList_ofList]

theorem korean_of_date? (h : f.date? = some d) : d.korean = f.shown := by
  obtain ⟨hyear, hmonth, hday⟩ := numbers_of_date? h
  rw [korean, hyear, hmonth, hday, yearText_natOfDigits, shown]

/-! ## Order -/

theorem chars_eq_of_date? (hf : f.date? = some d) (hg : g.date? = some d) : f.chars = g.chars := by
  obtain ⟨hfyear, hfmonth, hfday⟩ := numbers_of_date? hf
  obtain ⟨hgyear, hgmonth, hgday⟩ := numbers_of_date? hg
  have hyear : f.year = g.year :=
    eq_of_natOfDigits_eq (f.length_year.trans g.length_year.symm) f.digits_year g.digits_year
      (by omega)
  have hmonth : f.month = g.month :=
    eq_of_natOfDigits_eq (f.length_month.trans g.length_month.symm) f.digits_month g.digits_month
      (by omega)
  have hday : f.day = g.day :=
    eq_of_natOfDigits_eq (f.length_day.trans g.length_day.symm) f.digits_day g.digits_day (by omega)
  rw [chars, chars, hyear, hmonth, hday]

theorem chars_lt_of_before (hf : f.date? = some d) (hg : g.date? = some e) (h : d.Before e) :
    f.chars < g.chars := by
  have hlt := append_lt_of_before hf hg h [] []
  rwa [List.append_nil, List.append_nil] at hlt

/-- The ten characters are ordered as the days are. -/
theorem chars_lt_iff (hf : f.date? = some d) (hg : g.date? = some e) :
    f.chars < g.chars ↔ d.Before e := by
  refine ⟨fun h => ?_, chars_lt_of_before hf hg⟩
  rcases before_or_eq_or_before d e with hbefore | rfl | hafter
  · exact hbefore
  · rw [chars_eq_of_date? hf hg] at h
    exact absurd h (List.lt_irrefl _)
  · exact absurd (chars_lt_of_before hg hf hafter) (List.lt_asymm h)

/-- The ten characters are the first ten bytes of a text that begins with them. -/
theorem take_bytes (h : f.chars <+: (Text.trim text).toList) :
    (Text.bytes (Text.trim text)).take textSize = Text.bytes (String.ofList f.chars) := by
  rw [← f.length_chars]
  exact Text.take_bytes_of_prefix (fun _ hc => utf8Size_of_mem hc) h

end Date.FullDigits

/-- A text that begins with a date in full, blanks before it aside, shows the day of these ten
characters if there is such a day, and that it is missing otherwise. Of two such texts that show a
day, the first ten bytes are ordered as the days are. -/
theorem dateText_inFull {f : Date.FullDigits} {text : String}
    (h : f.chars <+: (Text.trim text).toList) :
    (f.IsReal → dateText (some text) = f.shown) ∧
      (¬ f.IsReal → dateText (some text) = "-") ∧
        ∀ (g : Date.FullDigits) (other : String), g.chars <+: (Text.trim other).toList →
          ∀ d e : Date, dateText (some text) = d.korean → dateText (some other) = e.korean →
            ((Text.bytes (Text.trim text)).take 10 < (Text.bytes (Text.trim other)).take 10 ↔
              d.dayNumber < e.dayNumber) := by
  refine ⟨?_, ?_, ?_⟩
  · intro hreal
    obtain ⟨d, hd⟩ := Date.FullDigits.exists_date?_iff.mpr hreal
    rw [← Date.FullDigits.korean_of_date? hd, dateText_eq_korean_iff, Option.bind_some,
      Date.FullDigits.ofText?_eq_date? h, hd]
  · intro hnone
    have hmissing : f.date? = none := by
      rw [Option.eq_none_iff_forall_ne_some]
      intro d hd
      exact hnone (Date.FullDigits.exists_date?_iff.mp ⟨d, hd⟩)
    rw [dateText, Option.bind_some, Date.FullDigits.ofText?_eq_date? h, hmissing, missingText]
  · intro g other hother d e hd he
    rw [dateText_eq_korean_iff, Option.bind_some] at hd he
    rw [Date.FullDigits.ofText?_eq_date? h] at hd
    rw [Date.FullDigits.ofText?_eq_date? hother] at he
    have htake : (Text.bytes (Text.trim text)).take 10 = _ := Date.FullDigits.take_bytes h
    have htake' : (Text.bytes (Text.trim other)).take 10 = _ := Date.FullDigits.take_bytes hother
    rw [htake, htake', Text.bytes_lt_iff, String.lt_iff, String.toList_ofList,
      String.toList_ofList, Date.FullDigits.chars_lt_iff hd he, Date.dayNumber_lt_iff]

/-- The leap day of a century that has one. -/
def leapDay : Date.FullDigits :=
  ⟨['2', '0', '0', '0'], ['0', '2'], ['2', '9'], by decide, by decide, by decide, rfl, rfl, rfl⟩

/-- The leap day of a century that has none. -/
def missingLeapDay : Date.FullDigits :=
  ⟨['1', '9', '0', '0'], ['0', '2'], ['2', '9'], by decide, by decide, by decide, rfl, rfl, rfl⟩

def lastDay : Date.FullDigits :=
  ⟨['1', '9', '9', '9'], ['1', '2'], ['3', '1'], by decide, by decide, by decide, rfl, rfl, rfl⟩

/-- Blanks before a date and characters behind it make no difference, wherever they end in bytes. -/
theorem dateText_inFull_leapDay :
    dateText (some "　2000-02-29오전") = "2000년 2월 29일" ∧
      dateText (some "1900-02-29") = "-" ∧
      ((Text.bytes (Text.trim "1999-12-31T23:59")).take 10 <
          (Text.bytes (Text.trim "　2000-02-29오전")).take 10 ↔
        (⟨1999, 12, 31, by decide⟩ : Date).dayNumber <
          (⟨2000, 2, 29, by decide⟩ : Date).dayNumber) := by
  have hleap : leapDay.chars <+: (Text.trim "　2000-02-29오전").toList := by decide +kernel
  have hmissing : missingLeapDay.chars <+: (Text.trim "1900-02-29").toList := by decide +kernel
  have hlast : lastDay.chars <+: (Text.trim "1999-12-31T23:59").toList := by decide +kernel
  have hreal : leapDay.IsReal := .leapDay (by decide)
  have hnone : ¬ missingLeapDay.IsReal := by
    rw [Date.FullDigits.IsReal, Date.isDay_iff]
    decide
  refine ⟨(dateText_inFull hleap).1 hreal, (dateText_inFull hmissing).2.1 hnone, ?_⟩
  exact (dateText_inFull hlast).2.2 leapDay _ hleap _ _ (by decide +kernel) (by decide +kernel)

end PollAtlas.Poll
