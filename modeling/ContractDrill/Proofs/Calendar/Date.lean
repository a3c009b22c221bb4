import ContractDrill.Calendar.Date
import Mathlib.Data.Nat.Find
import Mathlib.Order.Monotone.Basic

/-!
# Dates of day numbers

`Date.ofDayNumber` goes back from the number of a day to its date: the year is the last that begins
by that day, and the month is the last of the year that does.  Its dates are in the calendar
(`isValid_ofDayNumber`), and their numbers are those they come from (`dayNumber_ofDayNumber`).
-/

namespace ContractDrill

/-- The date is in the calendar. -/
structure Date.IsValid (date : Date) : Prop where
  year_pos : 0 < date.year
  month_pos : 0 < date.month
  month_le : date.month ≤ 12
  day_pos : 0 < date.day
  day_le : date.day ≤ daysInMonth date.year date.month

/-! ### Years -/

/-- The days of a year. -/
def daysInYear (year : Nat) : Nat :=
  if isLeapYear year then 366 else 365

/-- A year ends where the next one begins. -/
theorem daysBeforeYear_succ {year : Nat} (h : 0 < year) :
    daysBeforeYear (year + 1) = daysBeforeYear year + daysInYear year := by
  simp only [daysBeforeYear, Nat.add_sub_cancel]
  by_cases hleap : isLeapYear year = true
  · rw [daysInYear, if_pos hleap]
    simp only [isLeapYear, Bool.and_eq_true, Bool.or_eq_true, decide_eq_true_eq] at hleap
    -- Of the multiples of 4, 100 and 400 one more of the first is passed, or one more of each.
    obtain ⟨h4, h100 | h400⟩ := hleap
    · omega
    · omega
  · rw [daysInYear, if_neg hleap]
    simp only [isLeapYear, Bool.and_eq_true, Bool.or_eq_true, decide_eq_true_eq, not_and_or,
      not_or, Decidable.not_not] at hleap
    rcases hleap with h4 | ⟨h100, h400⟩
    · have hfour : year / 4 = (year - 1) / 4 := by omega
      have hhundred : year / 100 = (year - 1) / 100 := by omega
      -- No multiple of 4 is passed.
      have hfourth : year / 400 = (year - 1) / 400 := by omega
      omega
    · omega

theorem daysBeforeYear_mono {a b : Nat} (h : a ≤ b) : daysBeforeYear a ≤ daysBeforeYear b := by
  refine monotone_nat_of_le_succ (fun year => ?_) h
  rcases Nat.eq_zero_or_pos year with rfl | hpos
  · exact Nat.le_refl 0
  · rw [daysBeforeYear_succ hpos]
    exact Nat.le_add_right _ _

/-- The year of a day: the last that begins by then. -/
def yearOfDay (n : Nat) : Nat :=
  Nat.findGreatest (fun year => daysBeforeYear year ≤ n) (n / 365 + 1)

theorem yearOfDay_pos (n : Nat) : 0 < yearOfDay n :=
  Nat.le_findGreatest (Nat.le_add_left 1 _) (Nat.zero_le n)

theorem daysBeforeYear_yearOfDay_le (n : Nat) : daysBeforeYear (yearOfDay n) ≤ n :=
  Nat.findGreatest_spec (P := fun year => daysBeforeYear year ≤ n) (Nat.le_add_left 1 _)
    (Nat.zero_le n)

/-- A day comes before the year behind its own. -/
theorem lt_daysBeforeYear_yearOfDay_succ (n : Nat) : n < daysBeforeYear (yearOfDay n + 1) := by
  by_contra hle
  rw [Nat.not_lt] at hle
  have hbound : yearOfDay n + 1 ≤ n / 365 + 1 := by
    simp only [daysBeforeYear] at hle
    omega
  have hgreatest : yearOfDay n + 1 ≤ yearOfDay n := Nat.le_findGreatest hbound hle
  omega

theorem yearOfDay_lt {n year : Nat} (h : n < daysBeforeYear year) : yearOfDay n < year := by
  by_contra hle
  have hmono := daysBeforeYear_mono (Nat.le_of_not_lt hle)
  have hbegins := daysBeforeYear_yearOfDay_le n
  omega

/-! ### Months -/

/-- The months make up the year. -/
theorem daysOfFirstMonths_twelve (year : Nat) : daysOfFirstMonths year 12 = daysInYear year := by
  cases h : isLeapYear year <;> simp [daysOfFirstMonths, daysInMonth, daysInYear, h]

theorem daysBeforeMonth_succ {year month : Nat} (h : 0 < month) :
    daysBeforeMonth year (month + 1) = daysBeforeMonth year month + daysInMonth year month := by
  obtain ⟨past, rfl⟩ := Nat.exists_eq_add_of_lt h
  simp only [daysBeforeMonth, Nat.zero_add, Nat.add_sub_cancel]
  rfl

/-- The month of a day of a year, counted from 0: the last that begins by then. -/
def monthOfDay (year n : Nat) : Nat :=
  Nat.findGreatest (fun month => daysBeforeMonth year month ≤ n) 12

theorem monthOfDay_pos (year n : Nat) : 0 < monthOfDay year n :=
  Nat.le_findGreatest (Nat.le_add_left 1 _) (Nat.zero_le n)

theorem monthOfDay_le (year n : Nat) : monthOfDay year n ≤ 12 :=
  Nat.findGreatest_le 12

theorem daysBeforeMonth_monthOfDay_le (year n : Nat) :
    daysBeforeMonth year (monthOfDay year n) ≤ n :=
  Nat.findGreatest_spec (P := fun month => daysBeforeMonth year month ≤ n) (Nat.le_add_left 1 _)
    (Nat.zero_le n)

/-- A day of a year comes before the month behind its own. -/
theorem lt_daysBeforeMonth_monthOfDay_succ (year : Nat) {n : Nat} (h : n < daysInYear year) :
    n < daysBeforeMonth year (monthOfDay year n + 1) := by
  rcases Nat.lt_or_ge (monthOfDay year n) 12 with hlt | hge
  · by_contra hle
    have hgreatest : monthOfDay year n + 1 ≤ monthOfDay year n :=
      Nat.le_findGreatest hlt (Nat.le_of_not_lt hle)
    omega
  · have htwelve : monthOfDay year n = 12 := Nat.le_antisymm (monthOfDay_le year n) hge
    rw [htwelve]
    show n < daysOfFirstMonths year 12
    rwa [daysOfFirstMonths_twelve]

/-! ### Dates -/

namespace Date

/-- The date of a day. -/
def ofDayNumber (n : Nat) : Date :=
  let year := yearOfDay n
  let day := n - daysBeforeYear year
  let month := monthOfDay year day
  ⟨year, month, day - daysBeforeMonth year month + 1⟩

theorem dayNumber_ofDayNumber (n : Nat) : (ofDayNumber n).dayNumber = n := by
  have hyear := daysBeforeYear_yearOfDay_le n
  have hmonth := daysBeforeMonth_monthOfDay_le (yearOfDay n) (n - daysBeforeYear (yearOfDay n))
  simp only [ofDayNumber, dayNumber]
  omega

theorem isValid_ofDayNumber (n : Nat) : (ofDayNumber n).IsValid where
  year_pos := yearOfDay_pos n
  month_pos := monthOfDay_pos _ _
  month_le := monthOfDay_le _ _
  day_pos := Nat.succ_pos _
  day_le := by
    -- The day lies between the beginning and the end of its year, and of its month in it.
    have hbegins := daysBeforeYear_yearOfDay_le n
    have hyear := lt_daysBeforeYear_yearOfDay_succ n
    rw [daysBeforeYear_succ (yearOfDay_pos n)] at hyear
    have hmonth' := daysBeforeMonth_monthOfDay_le (yearOfDay n) (n - daysBeforeYear (yearOfDay n))
    have hmonth := lt_daysBeforeMonth_monthOfDay_succ (yearOfDay n)
      (n := n - daysBeforeYear (yearOfDay n)) (by omega)
    rw [daysBeforeMonth_succ (monthOfDay_pos _ _)] at hmonth
    show n - daysBeforeYear (yearOfDay n) - _ + 1 ≤ _
    simp only [ofDayNumber]
    omega

end Date

end ContractDrill
