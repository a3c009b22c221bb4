import ContractDrill.Proofs.Calendar.Date
import Mathlib.Data.Prod.Lex
import Mathlib.Data.Set.Card
import Mathlib.Order.Interval.Finset.Nat

/-!
# Counting days

`Date.dayNumber` is computed from the numbers of leap years and from the lengths of months.  That
it numbers the days of the calendar one by one is stated here without such sums: a later date of the
calendar has a greater number (`dayNumber_lt_of_fields_lt`), and there are as many dates between two
dates as their numbers differ by (`ncard_between`).

So `Date.daysFromEpoch` is the signed count of the days from the first of January 1970
(`daysFromEpoch_eq_daysTo`).

A date comes before the end of its month, which comes before the end of its year; the order of the
numbers follows from these two, by cases on the first field in which two dates differ.  That later
dates have greater numbers is enough for the converse, since dates are in a row (`same_order`).
-/

namespace ContractDrill

/-- If two values are in the order of their keys, their keys are in the order of the values. -/
theorem same_order {α β : Type} [LinearOrder α] [Preorder β] {key key' : α} {value value' : β}
    (hlt : key < key' → value < value') (heq : key = key' → value = value')
    (hgt : key' < key → value' < value) :
    (value < value' ↔ key < key') ∧ (value = value' ↔ key = key') := by
  rcases lt_trichotomy key key' with h | h | h
  · exact ⟨iff_of_true (hlt h) h, iff_of_false (hlt h).ne h.ne⟩
  · exact ⟨iff_of_false (heq h).not_lt h.not_lt, iff_of_true (heq h) h⟩
  · exact ⟨iff_of_false (hgt h).not_gt h.not_gt, iff_of_false (hgt h).ne' h.ne'⟩

/-! ### Ends of months and years -/

theorem daysBeforeMonth_mono (year : ℕ) {a b : ℕ} (h : a ≤ b) :
    daysBeforeMonth year a ≤ daysBeforeMonth year b := by
  refine monotone_nat_of_le_succ (fun month => ?_) h
  rcases Nat.eq_zero_or_pos month with rfl | hpos
  · exact Nat.le_refl 0
  · rw [daysBeforeMonth_succ hpos]
    exact Nat.le_add_right _ _

/-- Every month, and the end of the last one, is in the year. -/
theorem daysBeforeMonth_le_daysInYear (year : ℕ) {month : ℕ} (h : month ≤ 13) :
    daysBeforeMonth year month ≤ daysInYear year := by
  rw [← daysOfFirstMonths_twelve year]
  exact daysBeforeMonth_mono year h

namespace Date

variable {a b date : Date}

/-- The number of the day within its year, from 0. -/
def dayOfYear (date : Date) : ℕ :=
  daysBeforeMonth date.year date.month + (date.day - 1)

theorem dayNumber_eq (date : Date) :
    date.dayNumber = daysBeforeYear date.year + date.dayOfYear :=
  Nat.add_assoc _ _ _

/-- A date comes before the end of its month. -/
theorem IsValid.dayOfYear_lt (h : date.IsValid) :
    date.dayOfYear < daysBeforeMonth date.year (date.month + 1) := by
  rw [daysBeforeMonth_succ h.month_pos]
  have hpos := h.day_pos
  have hle := h.day_le
  unfold dayOfYear
  omega

/-- A date comes before the end of its year. -/
theorem IsValid.dayNumber_lt (h : date.IsValid) :
    date.dayNumber < daysBeforeYear (date.year + 1) := by
  rw [daysBeforeYear_succ h.year_pos, dayNumber_eq]
  have hmonth := daysBeforeMonth_le_daysInYear date.year (Nat.succ_le_succ h.month_le)
  exact Nat.add_lt_add_left (h.dayOfYear_lt.trans_le hmonth) _

/-! ### The order of dates -/

/-- Dates in the order of the calendar: by year, month and day. -/
def fields (date : Date) : ℕ ×ₗ ℕ ×ₗ ℕ :=
  toLex (date.year, toLex (date.month, date.day))

theorem fields_inj : a.fields = b.fields ↔ a = b := by
  obtain ⟨year, month, day⟩ := a
  obtain ⟨year', month', day'⟩ := b
  simp [fields]

/-- Dates are compared by year, then by month, then by day. -/
theorem fields_lt_iff : a.fields < b.fields ↔
    a.year < b.year ∨ a.year = b.year ∧
      (a.month < b.month ∨ a.month = b.month ∧ a.day < b.day) := by
  unfold fields
  rw [Prod.Lex.toLex_lt_toLex, Prod.Lex.toLex_lt_toLex]

/-- A later date has a greater number. -/
theorem dayNumber_lt_of_fields_lt (ha : a.IsValid) (h : a.fields < b.fields) :
    a.dayNumber < b.dayNumber := by
  -- By the first field in which the dates differ: the end of the year or month of `a` comes before
  -- the beginning of that of `b`.
  rcases fields_lt_iff.mp h with hyear | ⟨hyear, hmonth | ⟨hmonth, hday⟩⟩
  · calc a.dayNumber < daysBeforeYear (a.year + 1) := ha.dayNumber_lt
      _ ≤ daysBeforeYear b.year := daysBeforeYear_mono hyear
      _ ≤ b.dayNumber := by
        rw [dayNumber_eq]
        exact Nat.le_add_right _ _
  · have hlt : a.dayOfYear < b.dayOfYear := by
      calc a.dayOfYear < daysBeforeMonth a.year (a.month + 1) := ha.dayOfYear_lt
        _ ≤ daysBeforeMonth a.year b.month := daysBeforeMonth_mono _ hmonth
        _ = daysBeforeMonth b.year b.month := by rw [hyear]
        _ ≤ b.dayOfYear := Nat.le_add_right _ _
    rw [dayNumber_eq, dayNumber_eq, hyear]
    exact Nat.add_lt_add_left hlt _
  · have hpos := ha.day_pos
    unfold dayNumber
    rw [hyear, hmonth]
    omega

theorem dayNumber_lt_iff (ha : a.IsValid) (hb : b.IsValid) :
    a.dayNumber < b.dayNumber ↔ a.fields < b.fields :=
  (same_order (dayNumber_lt_of_fields_lt ha) (fun h => congrArg dayNumber (fields_inj.mp h))
    (dayNumber_lt_of_fields_lt hb)).1

theorem dayNumber_inj (ha : a.IsValid) (hb : b.IsValid) :
    a.dayNumber = b.dayNumber ↔ a = b :=
  (same_order (dayNumber_lt_of_fields_lt ha) (fun h => congrArg dayNumber (fields_inj.mp h))
    (dayNumber_lt_of_fields_lt hb)).2.trans fields_inj

/-! ### Counts of dates -/

/-- The dates of the calendar from `a` on that come before `b`. -/
def between (a b : Date) : Set Date :=
  {date | date.IsValid ∧ a.fields ≤ date.fields ∧ date.fields < b.fields}

/-- The dates between two dates are those whose numbers are between theirs. -/
theorem image_dayNumber_between (ha : a.IsValid) (hb : b.IsValid) :
    dayNumber '' between a b = Set.Ico a.dayNumber b.dayNumber := by
  ext n
  constructor
  · rintro ⟨date, ⟨hdate, hfrom, hto⟩, rfl⟩
    refine ⟨?_, dayNumber_lt_of_fields_lt hdate hto⟩
    by_contra hlt
    exact absurd ((dayNumber_lt_iff hdate ha).mp (not_le.mp hlt)) hfrom.not_gt
  · rintro ⟨hfrom, hto⟩
    -- Every number is that of a date.
    have hvalid := isValid_ofDayNumber n
    have hnumber := dayNumber_ofDayNumber n
    refine ⟨ofDayNumber n, ⟨hvalid, ?_, ?_⟩, hnumber⟩
    · by_contra hlt
      have hlt' := dayNumber_lt_of_fields_lt hvalid (not_le.mp hlt)
      omega
    · rw [← dayNumber_lt_iff hvalid hb]
      omega

/-- There are as many dates between two dates as their numbers differ by. -/
theorem ncard_between (ha : a.IsValid) (hb : b.IsValid) :
    (between a b).ncard = b.dayNumber - a.dayNumber := by
  have hinj : Set.InjOn dayNumber (between a b) := fun _ hx _ hy => (dayNumber_inj hx.1 hy.1).mp
  rw [← hinj.ncard_image, image_dayNumber_between ha hb, ← Finset.coe_Ico,
    Set.ncard_coe_finset, Nat.card_Ico]

/-- How many days of the calendar lie between two dates; negative if the second comes first. -/
noncomputable def daysTo (a b : Date) : ℤ :=
  (between a b).ncard - (between b a).ncard

theorem daysTo_eq (ha : a.IsValid) (hb : b.IsValid) :
    a.daysTo b = (b.dayNumber : ℤ) - a.dayNumber := by
  unfold daysTo
  rw [ncard_between ha hb, ncard_between hb ha]
  omega

theorem isValid_epoch : epoch.IsValid := ⟨by decide, by decide, by decide, by decide, by decide⟩

/-- The days from 1970 are counted one by one. -/
theorem daysFromEpoch_eq_daysTo (h : date.IsValid) : date.daysFromEpoch = epoch.daysTo date :=
  (daysTo_eq isValid_epoch h).symm

end Date

end ContractDrill
