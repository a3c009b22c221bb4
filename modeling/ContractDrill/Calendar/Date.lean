/-!
# Calendar dates

Dates of the Gregorian calendar, extended to all years from 1 on, and the days between them.
-/

namespace ContractDrill

/-- Whether a year has a 29th of February. -/
def isLeapYear (year : Nat) : Bool :=
  year % 4 = 0 && (year % 100 ≠ 0 || year % 400 = 0)

/-- The days of a month. -/
def daysInMonth (year month : Nat) : Nat :=
  if month = 2 then if isLeapYear year then 29 else 28
  else if month ∈ [4, 6, 9, 11] then 30
  else 31

/-- The days from the first of January of year 1 to that of `year`. -/
def daysBeforeYear (year : Nat) : Nat :=
  let past := year - 1
  365 * past + past / 4 - past / 100 + past / 400

/-- The days of the first months of a year, as many as `count`. -/
def daysOfFirstMonths (year : Nat) : (count : Nat) → Nat
  | 0 => 0
  | count + 1 => daysOfFirstMonths year count + daysInMonth year (count + 1)

/-- The days from the first of January to the first of `month`. -/
def daysBeforeMonth (year month : Nat) : Nat :=
  daysOfFirstMonths year (month - 1)

/-- A day of the calendar. -/
structure Date where
  year : Nat
  month : Nat
  day : Nat
  deriving DecidableEq

namespace Date

/-- The days from the first of January of year 1. -/
def dayNumber (date : Date) : Nat :=
  daysBeforeYear date.year + daysBeforeMonth date.year date.month + (date.day - 1)

/-- The first of January 1970. -/
def epoch : Date := ⟨1970, 1, 1⟩

/-- The days from the first of January 1970, negative before it. -/
def daysFromEpoch (date : Date) : Int :=
  date.dayNumber - epoch.dayNumber

end Date

end ContractDrill
