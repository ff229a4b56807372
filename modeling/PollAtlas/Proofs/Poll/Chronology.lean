import PollAtlas.Proofs.Poll.Calendar

/-!
# The order of days

The rules of the Gregorian calendar say which days there are, and with that how many days have
passed before any given one. A month begins after all days of the months before it and a year
after all its months, so of two days the one with the smaller year, month and day has the smaller
number of days before it.

* `IsLeap`, `Date.IsDay`: the rules of the calendar.
* `Date.isDay_iff`: the days that dates are made of.
* `Date.dayNumber`: the days since the beginning of the year 0.
* `Date.dayNumber_lt_iff`: days are ordered by year, month and day.
-/

namespace PollAtlas.Poll

/-- Every fourth year is a leap year, of the centuries only every fourth. -/
def IsLeap (year : Int) : Prop := 4 ∣ year ∧ (100 ∣ year → 400 ∣ year)

instance (year : Int) : Decidable (IsLeap year) := inferInstanceAs (Decidable (_ ∧ _))

theorem isLeapYear_iff {year : Int} : isLeapYear year = true ↔ IsLeap year := by
  simp only [isLeapYear, IsLeap, ne_eq, decide_not, Bool.and_eq_true, Bool.or_eq_true,
    Bool.not_eq_true', decide_eq_true_eq, decide_eq_false_iff_not]
  omega

namespace Date

/-- The calendar has this day of this month in this year. -/
inductive IsDay (year : Int) : Nat → Nat → Prop
  | long {month day : Nat} (hmonth : month ∈ [1, 3, 5, 7, 8, 10, 12]) (hfirst : 1 ≤ day)
      (hlast : day ≤ 31) : IsDay year month day
  | short {month day : Nat} (hmonth : month ∈ [4, 6, 9, 11]) (hfirst : 1 ≤ day)
      (hlast : day ≤ 30) : IsDay year month day
  | february {day : Nat} (hfirst : 1 ≤ day) (hlast : day ≤ 28) : IsDay year 2 day
  | leapDay (hleap : IsLeap year) : IsDay year 2 29

theorem daysInMonth_february (year : Int) :
    daysInMonth year 2 = if isLeapYear year then 29 else 28 := rfl

theorem IsDay.exists_day {year : Int} {month day : Nat} (h : IsDay year month day) :
    1 ≤ day ∧ day ≤ daysInMonth year month := by
  cases h with
  | long hmonth hfirst hlast =>
    refine ⟨hfirst, ?_⟩
    simp only [List.mem_cons, List.not_mem_nil, or_false] at hmonth
    rcases hmonth with rfl | rfl | rfl | rfl | rfl | rfl | rfl
    all_goals exact hlast
  | short hmonth hfirst hlast =>
    refine ⟨hfirst, ?_⟩
    simp only [List.mem_cons, List.not_mem_nil, or_false] at hmonth
    rcases hmonth with rfl | rfl | rfl | rfl
    all_goals exact hlast
  | february hfirst hlast =>
    refine ⟨hfirst, ?_⟩
    rw [daysInMonth_february]
    split
    · omega
    · exact hlast
  | leapDay hleap =>
    rw [daysInMonth_february, if_pos (isLeapYear_iff.mpr hleap)]
    decide

theorem isDay_of_exists_day {year : Int} {month day : Nat}
    (h : 1 ≤ day ∧ day ≤ daysInMonth year month) : IsDay year month day := by
  obtain ⟨hfirst, hlast⟩ := h
  unfold daysInMonth at hlast
  split at hlast
  case h_12 =>
    split at hlast
    · rename_i hleap
      by_cases hday : day = 29
      · rw [hday]
        exact .leapDay (isLeapYear_iff.mp hleap)
      · exact .february hfirst (by omega)
    · exact .february hfirst hlast
  case h_13 => omega
  case h_8 | h_9 | h_10 | h_11 => exact .short (by decide) hfirst hlast
  all_goals exact .long (by decide) hfirst hlast

/-- The numbers of a date are those of a day of the calendar. -/
theorem isDay_iff {year : Int} {month day : Nat} :
    IsDay year month day ↔ 1 ≤ day ∧ day ≤ daysInMonth year month :=
  ⟨IsDay.exists_day, isDay_of_exists_day⟩

/-! ## Counting days -/

/-- The days of a year before a month. -/
def daysBeforeMonth (year : Int) : Nat → Nat
  | 0 => 0
  | month + 1 => daysBeforeMonth year month + daysInMonth year month

/-- The days from the beginning of the year 0 to that of another year. -/
def daysBeforeYear (year : Int) : Int :=
  365 * year + (year + 3) / 4 - (year + 99) / 100 + (year + 399) / 400

theorem daysBeforeMonth_succ (year : Int) (month : Nat) :
    daysBeforeMonth year (month + 1) = daysBeforeMonth year month + daysInMonth year month := rfl

theorem daysBeforeMonth_le (year : Int) {month later : Nat} (h : month ≤ later) :
    daysBeforeMonth year month ≤ daysBeforeMonth year later := by
  induction h with
  | refl => exact Nat.le_refl _
  | step _ ih => exact Nat.le_trans ih (Nat.le_add_right _ _)

/-- A year is over after its twelve months. -/
theorem daysBeforeYear_succ (year : Int) :
    daysBeforeYear (year + 1) = daysBeforeYear year + daysBeforeMonth year 13 := by
  have hmonths : daysBeforeMonth year 13 = 337 + daysInMonth year 2 := by
    simp only [daysBeforeMonth, daysInMonth]
    omega
  rw [hmonths, daysInMonth_february, daysBeforeYear, daysBeforeYear]
  by_cases hleap : IsLeap year
  · rw [if_pos (isLeapYear_iff.mpr hleap)]
    unfold IsLeap at hleap
    omega
  · rw [if_neg (mt isLeapYear_iff.mp hleap)]
    unfold IsLeap at hleap
    omega

theorem daysBeforeYear_le {year later : Int} (h : year ≤ later) :
    daysBeforeYear year ≤ daysBeforeYear later := by
  rcases Int.le_iff_eq_or_lt.mp h with rfl | hlt
  · exact Int.le_refl _
  · unfold daysBeforeYear
    omega

/-- The number of a day, that of the first of January of the year 0 being 1. -/
def dayNumber (d : Date) : Int := daysBeforeYear d.year + daysBeforeMonth d.year d.month + d.day

theorem daysInMonth_of_lt {month : Nat} (h : 12 < month) (year : Int) :
    daysInMonth year month = 0 := by
  unfold daysInMonth
  split
  case h_13 => rfl
  all_goals omega

theorem month_le (d : Date) : d.month ≤ 12 := by
  obtain ⟨hfirst, hlast⟩ := d.exists_day
  by_contra hmonth
  rw [daysInMonth_of_lt (Nat.not_le.mp hmonth)] at hlast
  omega

/-- A month is not over before its last day. -/
theorem dayNumber_le_month (d : Date) :
    d.dayNumber ≤ daysBeforeYear d.year + daysBeforeMonth d.year (d.month + 1) := by
  have hlast := d.exists_day.2
  rw [dayNumber, daysBeforeMonth_succ]
  omega

theorem dayNumber_le_year (d : Date) : d.dayNumber ≤ daysBeforeYear (d.year + 1) := by
  have hmonth := d.dayNumber_le_month
  have hmonths : daysBeforeMonth d.year (d.month + 1) ≤ daysBeforeMonth d.year 13 :=
    daysBeforeMonth_le d.year (Nat.succ_le_succ d.month_le)
  rw [daysBeforeYear_succ]
  omega

theorem lt_dayNumber (d : Date) :
    daysBeforeYear d.year + daysBeforeMonth d.year d.month < d.dayNumber := by
  have hfirst := d.exists_day.1
  rw [dayNumber]
  omega

/-- The earlier day has fewer days before it. -/
theorem Before.dayNumber_lt {d e : Date} (h : d.Before e) : d.dayNumber < e.dayNumber := by
  have hnext := e.lt_dayNumber
  rcases h with hyear | ⟨hyear, hmonth | ⟨hmonth, hday⟩⟩
  · have hle := d.dayNumber_le_year
    have hyears : daysBeforeYear (d.year + 1) ≤ daysBeforeYear e.year :=
      daysBeforeYear_le (Int.add_one_le_of_lt hyear)
    omega
  · have hle := d.dayNumber_le_month
    have hmonths : daysBeforeMonth e.year (d.month + 1) ≤ daysBeforeMonth e.year e.month :=
      daysBeforeMonth_le e.year (Nat.succ_le_of_lt hmonth)
    rw [hyear] at hle
    omega
  · rw [dayNumber, dayNumber, hyear, hmonth]
    omega

theorem before_or_eq_or_before (d e : Date) : d.Before e ∨ d = e ∨ e.Before d := by
  obtain ⟨dyear, dmonth, dday, _⟩ := d
  obtain ⟨eyear, emonth, eday, _⟩ := e
  simp only [Before, mk.injEq]
  omega

/-- Days are counted in the order of year, month and day. -/
theorem dayNumber_lt_iff {d e : Date} : d.dayNumber < e.dayNumber ↔ d.Before e := by
  refine ⟨fun h => ?_, Before.dayNumber_lt⟩
  rcases before_or_eq_or_before d e with hbefore | rfl | hafter
  · exact hbefore
  · exact absurd h (Int.lt_irrefl _)
  · exact absurd h (Int.lt_asymm hafter.dayNumber_lt)

end Date

end PollAtlas.Poll
