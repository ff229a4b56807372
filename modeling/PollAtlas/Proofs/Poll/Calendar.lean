import Mathlib.Data.List.Basic
import PollAtlas.Poll.Detail
import PollAtlas.Proofs.Number.Digits
import PollAtlas.Proofs.Text.Marks
import PollAtlas.Proofs.Text.Padding

/-!
# Dates in texts

A date written in full has four digits for the year and two each for the month and the day. At
the head of a text it is read whatever follows it, and since every part has a fixed width the
order of such texts is the order of their dates. In the other direction the day that is shown
can be told from the text: the parts stand between characters that none of them holds.

* `FullDigits`, `FullDigits.date?`: dates written in full.
* `FullDigits.ofText?_of_trimmed`, `FullDigits.ofText?_of_prefix`: how they are read.
* `FullDigits.append_lt_of_before`: how they are ordered.
* `dateText_eq_korean_iff`: a text shows a day just if it is read as that day.
-/

namespace PollAtlas.Poll

namespace Date

/-- The order of the calendar. -/
def Before (d e : Date) : Prop :=
  d.year < e.year ∨
    d.year = e.year ∧ (d.month < e.month ∨ d.month = e.month ∧ d.day < e.day)

/-! ## Numbers at the head of a text -/

theorem scanNumber_append {most : Nat} {digits rest : List Char} (hdigits : AllDigits digits)
    (hne : digits ≠ []) (hlength : digits.length ≤ most)
    (hrest : ∀ c, rest.head? = some c → c.isDigit = false) :
    scanNumber most (digits ++ rest) = some (natOfDigits digits, rest) := by
  have hblank : (digits ++ rest).dropWhile Text.isBlank = digits ++ rest :=
    Text.dropWhile_append_of_not_blank (fun c hc => Text.isBlank_of_isDigit (hdigits c hc)) hne rest
  have hstop : rest.takeWhile Char.isDigit = [] := by
    cases rest with
    | nil => rfl
    | cons c rest => rw [List.takeWhile_cons_of_neg]; simp [hrest c rfl]
  have htake : ((digits ++ rest).takeWhile Char.isDigit).take most = digits := by
    rw [List.takeWhile_append_of_pos hdigits, hstop, List.append_nil,
      List.take_of_length_le hlength]
  have hsome : digits.isEmpty = false := by simpa using hne
  simp only [scanNumber, hblank, htake, hsome, Bool.false_eq_true, if_false, List.drop_left]

theorem scanYear_append {digits rest : List Char} (hdigits : AllDigits digits)
    (hne : digits ≠ []) (hlength : digits.length ≤ 4)
    (hrest : ∀ c, rest.head? = some c → c.isDigit = false) :
    scanYear (digits ++ rest) = some ((natOfDigits digits : Int), rest) := by
  obtain ⟨c, cs, rfl⟩ := List.exists_cons_of_ne_nil hne
  have hc : c.isDigit = true := hdigits c List.mem_cons_self
  have hblank : (c :: cs ++ rest).dropWhile Text.isBlank = c :: (cs ++ rest) := by
    rw [List.cons_append, List.dropWhile_cons_of_neg]
    simp [Text.isBlank_of_isDigit hc]
  have hscan := scanNumber_append hdigits hne hlength hrest
  unfold scanYear
  rw [hblank]
  -- a digit is neither of the two signs
  split
  · rename_i heq
    obtain ⟨rfl, _⟩ := List.cons.inj heq
    cases hc
  · rename_i heq
    obtain ⟨rfl, _⟩ := List.cons.inj heq
    cases hc
  · rw [← List.cons_append, hscan]
    rfl

theorem leadingBytes?_append {cs : List Char} (h : ∀ c ∈ cs, c.utf8Size = 1) (rest : List Char) :
    leadingBytes? cs.length (cs ++ rest) = some cs := by
  induction cs with
  | nil => simp [leadingBytes?]
  | cons c cs ih =>
    have hc := h c List.mem_cons_self
    rw [List.cons_append, List.length_cons, leadingBytes?, hc, if_pos (by omega),
      Nat.add_sub_cancel, ih fun d hd => h d (List.mem_cons_of_mem c hd)]
    rfl

/-! ## Dates written in full -/

/-- The digits of a date written in full. -/
structure FullDigits where
  year : List Char
  month : List Char
  day : List Char
  digits_year : AllDigits year
  digits_month : AllDigits month
  digits_day : AllDigits day
  length_year : year.length = 4
  length_month : month.length = 2
  length_day : day.length = 2

namespace FullDigits

/-- The date with its dashes. -/
def chars (f : FullDigits) : List Char := f.year ++ '-' :: (f.month ++ '-' :: f.day)

/-- The day that the digits stand for, if there is such a day. -/
def date? (f : FullDigits) : Option Date :=
  ofNumbers? (natOfDigits f.year) (natOfDigits f.month) (natOfDigits f.day)

theorem length_chars (f : FullDigits) : f.chars.length = textSize := by
  simp [chars, f.length_year, f.length_month, f.length_day, textSize]

theorem mem_chars {f : FullDigits} {c : Char} (h : c ∈ f.chars) : c.isDigit = true ∨ c = '-' := by
  simp only [chars, List.mem_append, List.mem_cons] at h
  rcases h with h | rfl | h | rfl | h
  · exact Or.inl (f.digits_year c h)
  · exact Or.inr rfl
  · exact Or.inl (f.digits_month c h)
  · exact Or.inr rfl
  · exact Or.inl (f.digits_day c h)

theorem isBlank_of_mem {f : FullDigits} {c : Char} (h : c ∈ f.chars) :
    Text.isBlank c = false := by
  rcases mem_chars h with hdigit | rfl
  · exact Text.isBlank_of_isDigit hdigit
  · decide

theorem utf8Size_of_mem {f : FullDigits} {c : Char} (h : c ∈ f.chars) : c.utf8Size = 1 := by
  rcases mem_chars h with hdigit | rfl
  · obtain ⟨_, hhigh⟩ := Char.isDigit_iff_toNat.mp hdigit
    have hnine : '9'.toNat = 57 := rfl
    have hsmall : c.val.toNat ≤ 127 := by
      show c.toNat ≤ 127
      omega
    exact Char.utf8Size_eq_one_iff.mpr hsmall
  · decide

theorem parse?_chars (f : FullDigits) : parse? f.chars = f.date? := by
  have hyear : scanYear f.chars =
      some ((natOfDigits f.year : Int), '-' :: (f.month ++ '-' :: f.day)) := by
    refine scanYear_append f.digits_year ?_ (Nat.le_of_eq f.length_year) ?_
    · exact List.ne_nil_of_length_eq_add_one f.length_year
    · rintro c hc
      cases hc
      rfl
  have hmonth : scanNumber 2 (f.month ++ '-' :: f.day) =
      some (natOfDigits f.month, '-' :: f.day) := by
    refine scanNumber_append f.digits_month ?_ (Nat.le_of_eq f.length_month) ?_
    · exact List.ne_nil_of_length_eq_add_one f.length_month
    · rintro c hc
      cases hc
      rfl
  have hday : scanNumber 2 f.day = some (natOfDigits f.day, []) := by
    have h : scanNumber 2 (f.day ++ []) = some (natOfDigits f.day, []) := by
      refine scanNumber_append f.digits_day ?_ (Nat.le_of_eq f.length_day) ?_
      · exact List.ne_nil_of_length_eq_add_one f.length_day
      · rintro c hc
        cases hc
    rwa [List.append_nil] at h
  simp only [parse?, hyear, hmonth, hday, scanDash, Option.bind_eq_bind, Option.bind_some,
    List.isEmpty_nil, if_true, date?]

/-- A date written in full at the head of a trimmed text is what is read, whatever follows. -/
theorem ofText?_of_trimmed {f : FullDigits} {text : String}
    (h : f.chars <+: Text.trimChars text.toList) : ofText? text = f.date? := by
  obtain ⟨rest, hrest⟩ := h
  have hsize : leadingBytes? textSize (Text.trimChars text.toList) = some f.chars := by
    rw [← hrest, ← f.length_chars]
    exact leadingBytes?_append (fun c hc => utf8Size_of_mem hc) rest
  rw [ofText?, hsize, Option.bind_some, parse?_chars]

theorem ofText?_of_prefix {f : FullDigits} {text : String} (h : f.chars <+: text.toList) :
    ofText? text = f.date? :=
  ofText?_of_trimmed (Text.prefix_trimChars (fun _ hc => isBlank_of_mem hc) h)

/-! ## Order -/

theorem numbers_of_date? {f : FullDigits} {d : Date} (h : f.date? = some d) :
    d.year = natOfDigits f.year ∧ d.month = natOfDigits f.month ∧ d.day = natOfDigits f.day := by
  unfold date? ofNumbers? at h
  split at h
  · cases h
    exact ⟨rfl, rfl, rfl⟩
  · cases h

/-- Texts that begin with dates written in full are ordered as the dates are. -/
theorem append_lt_of_before {f g : FullDigits} {d e : Date} (hf : f.date? = some d)
    (hg : g.date? = some e) (h : d.Before e) (s t : List Char) :
    f.chars ++ s < g.chars ++ t := by
  obtain ⟨hfyear, hfmonth, hfday⟩ := numbers_of_date? hf
  obtain ⟨hgyear, hgmonth, hgday⟩ := numbers_of_date? hg
  have hyears : f.year.length = g.year.length := f.length_year.trans g.length_year.symm
  have hmonths : f.month.length = g.month.length := f.length_month.trans g.length_month.symm
  have hdays : f.day.length = g.day.length := f.length_day.trans g.length_day.symm
  simp only [chars, List.append_assoc, List.cons_append]
  rcases h with hyear | ⟨hyear, hmonth | ⟨hmonth, hday⟩⟩
  · exact append_lt_of_natOfDigits_lt hyears f.digits_year g.digits_year (by omega) _ _
  · have hsame : f.year = g.year :=
      eq_of_natOfDigits_eq hyears f.digits_year g.digits_year (by omega)
    rw [hsame]
    refine List.append_left_lt (List.cons_lt_cons_self.mpr ?_)
    exact append_lt_of_natOfDigits_lt hmonths f.digits_month g.digits_month (by omega) _ _
  · have hsame : f.year = g.year :=
      eq_of_natOfDigits_eq hyears f.digits_year g.digits_year (by omega)
    have hsame' : f.month = g.month :=
      eq_of_natOfDigits_eq hmonths f.digits_month g.digits_month (by omega)
    rw [hsame, hsame']
    refine List.append_left_lt (List.cons_lt_cons_self.mpr ?_)
    refine List.append_left_lt (List.cons_lt_cons_self.mpr ?_)
    exact append_lt_of_natOfDigits_lt hdays f.digits_day g.digits_day (by omega) _ _

end FullDigits

/-! ## Days that are shown -/

/-- The digits of a shown year. -/
def yearDigits (year : Int) : List Char := List.leftpad 4 '0' (Nat.toDigits 10 year.natAbs)

theorem allDigits_yearDigits (year : Int) : AllDigits (yearDigits year) :=
  allDigits_leftpad 4 year.natAbs

theorem natOfDigits_yearDigits (year : Int) : natOfDigits (yearDigits year) = year.natAbs := by
  rw [yearDigits, natOfDigits_leftpad, natOfDigits_toDigits]

theorem toList_yearText (year : Int) :
    (yearText year).toList =
      if year < 0 then '-' :: yearDigits year
      else if 9999 < year then '+' :: yearDigits year
      else yearDigits year := by
  unfold yearText
  dsimp only
  split
  · simp [yearDigits]
  · split
    · simp [yearDigits]
    · simp [yearDigits]

/-- The year that a shown year stands for. -/
def shownYear : List Char → Int
  | '-' :: cs => -(natOfDigits cs : Int)
  | '+' :: cs => natOfDigits cs
  | cs => natOfDigits cs

theorem shownYear_digits {cs : List Char} (h : AllDigits cs) : shownYear cs = natOfDigits cs := by
  unfold shownYear
  split
  · exact absurd (h '-' List.mem_cons_self) (by decide)
  · exact absurd (h '+' List.mem_cons_self) (by decide)
  · rfl

theorem shownYear_yearText (year : Int) : shownYear (yearText year).toList = year := by
  have hnumber := natOfDigits_yearDigits year
  rw [toList_yearText]
  split
  · show -(natOfDigits (yearDigits year) : Int) = year
    omega
  · split
    · show (natOfDigits (yearDigits year) : Int) = year
      omega
    · rw [shownYear_digits (allDigits_yearDigits year)]
      omega

/-- Only digits and signs stand before the first syllable. -/
theorem not_mem_yearText {c : Char} (hdigit : c.isDigit = false) (hminus : c ≠ '-')
    (hplus : c ≠ '+') (year : Int) : c ∉ (yearText year).toList := by
  have hdigits : c ∉ yearDigits year := (allDigits_yearDigits year).not_mem hdigit
  rw [toList_yearText]
  split
  · exact List.not_mem_cons_of_ne_of_not_mem hminus hdigits
  · split
    · exact List.not_mem_cons_of_ne_of_not_mem hplus hdigits
    · exact hdigits

theorem toList_korean (d : Date) :
    d.korean.toList = (yearText d.year).toList ++ '년' :: (' ' ::
      (Nat.toDigits 10 d.month ++ '월' :: (' ' :: (Nat.toDigits 10 d.day ++ ['일'])))) := by
  simp [korean, String.toList_append, toString]

theorem korean_injective {d e : Date} (h : d.korean = e.korean) : d = e := by
  have hchars := congrArg String.toList h
  rw [toList_korean, toList_korean] at hchars
  have hmark : ∀ year, '년' ∉ (yearText year).toList :=
    not_mem_yearText (by decide) (by decide) (by decide)
  have hmark' : ∀ n, '월' ∉ Nat.toDigits 10 n :=
    fun n => (allDigits_toDigits n).not_mem (by decide)
  obtain ⟨hyear, hchars⟩ := Text.eq_of_append_mark_eq (hmark d.year) (hmark e.year) hchars
  obtain ⟨hmonth, hchars⟩ :=
    Text.eq_of_append_mark_eq (hmark' d.month) (hmark' e.month) (List.cons.inj hchars).2
  have hday := List.append_cancel_right (List.cons.inj hchars).2
  have hyears : d.year = e.year := by
    rw [← shownYear_yearText d.year, hyear, shownYear_yearText]
  have hmonths : d.month = e.month := by
    rw [← natOfDigits_toDigits d.month, hmonth, natOfDigits_toDigits]
  have hdays : d.day = e.day := by
    rw [← natOfDigits_toDigits d.day, hday, natOfDigits_toDigits]
  cases d
  cases e
  cases hyears
  cases hmonths
  cases hdays
  rfl

theorem korean_ne_missingText (d : Date) : d.korean ≠ missingText := by
  intro h
  have hmem : '년' ∈ d.korean.toList := by
    rw [toList_korean]
    exact List.mem_append_right _ List.mem_cons_self
  rw [h] at hmem
  revert hmem
  decide

end Date

/-- The text shown for a survey is that of a day just if this day is read. -/
theorem dateText_eq_korean_iff {text : Option String} {d : Date} :
    dateText text = d.korean ↔ text.bind Date.ofText? = some d := by
  unfold dateText
  constructor
  · intro h
    split at h
    · rename_i e he
      rw [he, Date.korean_injective h]
    · exact absurd h.symm (Date.korean_ne_missingText d)
  · intro h
    rw [h]

end PollAtlas.Poll
