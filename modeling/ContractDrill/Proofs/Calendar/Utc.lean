import ContractDrill.Proofs.Calendar.DayCount
import ContractDrill.Proofs.Calendar.Timestamp
import Mathlib.Algebra.Order.Floor.Ring
import Mathlib.Data.Rat.Floor
import Mathlib.Tactic.FieldSimp
import Mathlib.Tactic.Linarith
import Mathlib.Tactic.Ring

/-!
# Timestamps in UTC

A `UtcTimestamp` is a time of the calendar in full length with any digits behind the second, and its
text ends with a `Z`.  The text is read as the days counted from 1970, the time of the day, and the
digits filled up with zeros or cut to nanoseconds.  As long as nothing is cut, the order of these
numbers is the order of time: by year, month, day, hour, minute, second and fraction of a second
(`read_exactly`).

The parts are put together by two facts: seconds come in the order of the fields of their moments
(`Moment.seconds_lt_iff`), since days do, and a fraction stays below a second
(`nanosecondsOf_lt`).
-/

namespace ContractDrill

/-! ### The order of moments -/

namespace Moment

variable {a b moment : Moment}

/-- Moments in the order of time. -/
def fields (moment : Moment) : (ℕ ×ₗ ℕ ×ₗ ℕ) ×ₗ ℕ ×ₗ ℕ ×ₗ ℕ :=
  toLex (moment.date.fields, toLex (moment.hour, toLex (moment.minute, moment.second)))

/-- Moments are compared by date, then by hour, then by minute, then by second. -/
theorem fields_lt_iff : a.fields < b.fields ↔
    a.date.fields < b.date.fields ∨ a.date = b.date ∧
      (a.hour < b.hour ∨ a.hour = b.hour ∧
        (a.minute < b.minute ∨ a.minute = b.minute ∧ a.second < b.second)) := by
  unfold fields
  rw [Prod.Lex.toLex_lt_toLex, Prod.Lex.toLex_lt_toLex, Prod.Lex.toLex_lt_toLex, Date.fields_inj]

theorem fields_inj : a.fields = b.fields ↔ a = b := by
  obtain ⟨date, hour, minute, second⟩ := a
  obtain ⟨date', hour', minute', second'⟩ := b
  simp [fields, Date.fields_inj]

/-- The seconds from 1970 by the calendar: its days are counted. -/
noncomputable def countedSeconds (moment : Moment) : ℤ :=
  86400 * Date.epoch.daysTo moment.date + 3600 * moment.hour + 60 * moment.minute + moment.second

/-- The seconds of a moment count its days from 1970 and the time of its day. -/
theorem seconds_eq_countedSeconds (h : moment.date.IsValid) :
    moment.seconds = moment.countedSeconds := by
  unfold seconds countedSeconds
  rw [Date.daysFromEpoch_eq_daysTo h]

theorem seconds_lt_of_fields_lt (ha : a.IsValid) (h : a.fields < b.fields) :
    a.seconds < b.seconds := by
  obtain ⟨hdate, -, hhour, hminute, hsecond⟩ := ha
  unfold seconds Date.daysFromEpoch
  rcases fields_lt_iff.mp h with hlt | ⟨heq, htime⟩
  · have hdays := Date.dayNumber_lt_of_fields_lt hdate hlt
    omega
  · rw [heq]
    omega

theorem seconds_lt_iff (ha : a.IsValid) (hb : b.IsValid) :
    a.seconds < b.seconds ↔ a.fields < b.fields :=
  (same_order (seconds_lt_of_fields_lt ha) (fun h => congrArg seconds (fields_inj.mp h))
    (seconds_lt_of_fields_lt hb)).1

end Moment

namespace Timestamp

/-! ### Fractions of a second -/

variable {fraction : List Char}

/-- The fraction of a second that digits behind the point stand for. -/
def secondsOf (fraction : List Char) : ℚ :=
  digitsToNat fraction / 10 ^ fraction.length

/-- Digits behind the point, cut to nine or filled up with zeros, as nanoseconds. -/
def nanosecondsOf (fraction : List Char) : ℕ :=
  digitsToNat (fraction.take 9) * 10 ^ (9 - fraction.length)

/-- What is read of a fraction is its first nine digits, filled up with zeros. -/
theorem nineDigits_eq (fraction : List Char) :
    nineDigits fraction = fraction.take 9 ++ List.replicate (9 - fraction.length) '0' := by
  unfold nineDigits
  rw [List.take_append, List.take_replicate]
  congr 2
  omega

/-- Filling up with zeros multiplies by a power of ten. -/
theorem digitsToNat_nineDigits (fraction : List Char) :
    digitsToNat (nineDigits fraction) = nanosecondsOf fraction := by
  rw [nineDigits_eq, digitsToNat_append_zeros]
  rfl

theorem nanosecondsOf_lt (h : ∀ c ∈ fraction, c.isDigit = true) :
    nanosecondsOf fraction < 10 ^ 9 := by
  rw [← digitsToNat_nineDigits, ← length_nineDigits fraction]
  exact digitsToNat_lt fun _ => isDigit_of_mem_nineDigits h

/-- Nothing is cut from nine digits. -/
theorem nanosecondsOf_eq (h : fraction.length ≤ 9) :
    (nanosecondsOf fraction : ℚ) = secondsOf fraction * 10 ^ 9 := by
  obtain ⟨k, hk⟩ := Nat.exists_eq_add_of_le h
  unfold nanosecondsOf secondsOf
  rw [List.take_of_length_le h, hk, Nat.add_sub_cancel_left, pow_add]
  push_cast
  field_simp

/-- What is cut is less than a nanosecond. -/
theorem nanosecondsOf_eq_floor (h : ∀ c ∈ fraction, c.isDigit = true) :
    (nanosecondsOf fraction : ℤ) = ⌊secondsOf fraction * 10 ^ 9⌋ := by
  symm
  rw [Int.floor_eq_iff]
  rcases Nat.le_total fraction.length 9 with hle | hge
  · rw [← nanosecondsOf_eq hle]
    push_cast
    exact ⟨le_rfl, lt_add_one _⟩
  -- The digits behind the ninth stand for less than a nanosecond, and they are what is cut.
  · have hsplit := digitsToNat_append (fraction.take 9) (fraction.drop 9)
    have hlt : digitsToNat (fraction.drop 9) < 10 ^ (fraction.drop 9).length :=
      digitsToNat_lt fun c hc => h c (List.mem_of_mem_drop hc)
    obtain ⟨k, hk⟩ := Nat.exists_eq_add_of_le hge
    rw [List.take_append_drop, List.length_drop, hk, Nat.add_sub_cancel_left] at hsplit
    rw [List.length_drop, hk, Nat.add_sub_cancel_left] at hlt
    have hvalue : secondsOf fraction * 10 ^ 9 =
        digitsToNat (fraction.take 9) + digitsToNat (fraction.drop 9) / 10 ^ k := by
      unfold secondsOf
      rw [hsplit, hk, pow_add]
      push_cast
      field_simp
    have hcut : (digitsToNat (fraction.drop 9) : ℚ) / 10 ^ k < 1 := by
      rw [div_lt_one (by positivity)]
      exact_mod_cast hlt
    have hnonneg : (0 : ℚ) ≤ digitsToNat (fraction.drop 9) / 10 ^ k := by positivity
    have hnanoseconds : nanosecondsOf fraction = digitsToNat (fraction.take 9) := by
      unfold nanosecondsOf
      rw [Nat.sub_eq_zero_of_le hge, pow_zero, mul_one]
    rw [hvalue, hnanoseconds]
    push_cast
    exact ⟨by linarith, by linarith⟩

/-! ### Texts -/

/-- Digits behind their point, if there are any. -/
def pointed (fraction : List Char) : List Char :=
  if fraction = [] then [] else '.' :: fraction

/-- A moment and the digits behind it end with a digit. -/
theorem isDigit_of_mem_getLast? {moment : Moment} {mark c : Char}
    (h : ∀ c ∈ fraction, c.isDigit = true)
    (hc : c ∈ (moment.charsAround mark ++ pointed fraction).getLast?) : c.isDigit = true := by
  unfold pointed at hc
  split at hc
  case isTrue =>
    -- Without a fraction the text ends in the two digits of the second.
    have hlast : moment.charsAround mark =
        (paddedDigits 4 moment.date.year ++ '-' :: (paddedDigits 2 moment.date.month ++
          '-' :: (paddedDigits 2 moment.date.day ++ mark :: (paddedDigits 2 moment.hour ++
            ':' :: (paddedDigits 2 moment.minute ++ [':']))))) ++
          paddedDigits 2 moment.second := by
      simp [Moment.charsAround]
    have hne : paddedDigits 2 moment.second ≠ [] :=
      List.ne_nil_of_length_pos (by rw [length_paddedDigits]; decide)
    rw [List.append_nil, hlast, List.getLast?_append_of_ne_nil _ hne] at hc
    exact isDigit_of_mem_paddedDigits (List.mem_of_mem_getLast? hc)
  case isFalse hne =>
    rw [List.getLast?_append_of_ne_nil _ (List.cons_ne_nil _ _),
      List.getLast?_cons_of_ne_nil hne] at hc
    exact h c (List.mem_of_mem_getLast? hc)

/-- A moment in front, and only digits behind its point. -/
theorem read_of_digits {moment : Moment} {mark : Char} (hmark : mark ∈ ['T', 't'])
    (h : ∀ c ∈ fraction, c.isDigit = true) {text : String}
    (htext : trimEndBy (· = 'Z') text.toList = moment.charsAround mark ++ pointed fraction) :
    read text = do
      let moment ← readMoment (moment.charsAround mark)
      return moment.seconds * 1000000000 + nanosecondsOf fraction := by
  have hbase : ∀ c ∈ moment.charsAround mark, c ≠ '.' := fun _ =>
    Moment.ne_point_of_mem_charsAround hmark
  unfold pointed at htext
  split at htext
  case isTrue hnil =>
    rw [List.append_nil] at htext
    have hzero : nanosecondsOf fraction = 0 := by
      rw [hnil]
      rfl
    rw [read_of_forall_ne_point hbase htext, hzero]
    simp only [Nat.cast_zero, Int.add_zero]
  case isFalse =>
    rw [read_of_point hbase htext, readFraction_of_isDigit h, digitsToNat_nineDigits]
    rfl

end Timestamp

/-! ### Timestamps in UTC -/

/-- A time of the calendar in UTC with any digits behind the second. -/
structure UtcTimestamp where
  moment : Moment
  fraction : List Char
  isValid : moment.IsValid
  isDigit : ∀ c ∈ fraction, c.isDigit = true

namespace UtcTimestamp

open Timestamp

variable (a b : UtcTimestamp)

/-- The text of the timestamp; without digits behind the second there is no point. -/
def text : String :=
  String.ofList (a.moment.charsAround 'T' ++ pointed a.fraction ++ ['Z'])

/-- The nanoseconds from 1970, as the calendar counts them. -/
noncomputable def nanoseconds : ℤ :=
  a.moment.countedSeconds * 10 ^ 9 + nanosecondsOf a.fraction

/-- When the timestamp is, in the order of time. -/
def instant : ((ℕ ×ₗ ℕ ×ₗ ℕ) ×ₗ ℕ ×ₗ ℕ ×ₗ ℕ) ×ₗ ℚ :=
  toLex (a.moment.fields, secondsOf a.fraction)

theorem nanoseconds_eq : a.nanoseconds = a.moment.seconds * 10 ^ 9 + nanosecondsOf a.fraction := by
  unfold nanoseconds
  rw [Moment.seconds_eq_countedSeconds a.isValid.date]

/-- A timestamp in UTC is read as its nanoseconds. -/
theorem read_text : read a.text = .ok a.nanoseconds := by
  have htrim : trimEndBy (· = 'Z') a.text.toList =
      a.moment.charsAround 'T' ++ pointed a.fraction := by
    unfold text
    rw [String.toList_ofList]
    exact trimEndBy_concat (by decide) fun c hc =>
      decide_eq_false (ne_of_isDigit (isDigit_of_mem_getLast? a.isDigit hc) (by decide))
  rw [read_of_digits (by simp) a.isDigit htrim, readMoment_of_isValid a.isValid (by simp),
    nanoseconds_eq]
  rfl

example : read "1969-12-31T23:59:59.9Z" = .ok (-100000000) := by decide +kernel

variable {a b}

theorem nanoseconds_lt_of_instant_lt (ha : a.fraction.length ≤ 9) (hb : b.fraction.length ≤ 9)
    (h : a.instant < b.instant) : a.nanoseconds < b.nanoseconds := by
  rw [nanoseconds_eq, nanoseconds_eq]
  have hfraction := nanosecondsOf_lt a.isDigit
  -- A fraction does not make up for a second.
  rcases Prod.Lex.toLex_lt_toLex.mp h with hlt | ⟨heq, hlt⟩
  · have hseconds := (Moment.seconds_lt_iff a.isValid b.isValid).mpr hlt
    omega
  · have hscaled : (nanosecondsOf a.fraction : ℚ) < nanosecondsOf b.fraction := by
      rw [nanosecondsOf_eq ha, nanosecondsOf_eq hb]
      exact mul_lt_mul_of_pos_right hlt (by norm_num)
    rw [Moment.fields_inj.mp heq]
    exact Int.add_lt_add_left (by exact_mod_cast hscaled) _

theorem nanoseconds_eq_of_instant_eq (ha : a.fraction.length ≤ 9) (hb : b.fraction.length ≤ 9)
    (h : a.instant = b.instant) : a.nanoseconds = b.nanoseconds := by
  obtain ⟨hmoment, hfraction⟩ := Prod.mk.inj (toLex.injective h)
  have hscaled : (nanosecondsOf a.fraction : ℚ) = nanosecondsOf b.fraction := by
    rw [nanosecondsOf_eq ha, nanosecondsOf_eq hb, hfraction]
  rw [nanoseconds_eq, nanoseconds_eq, Moment.fields_inj.mp hmoment, Nat.cast_inj.mp hscaled]

/-- The text is read exactly; and unless digits are cut, the numbers are in the order of time. -/
theorem read_exactly (a : UtcTimestamp) :
    read a.text = .ok a.nanoseconds ∧
      ∀ b : UtcTimestamp, a.fraction.length ≤ 9 → b.fraction.length ≤ 9 →
        (a.nanoseconds < b.nanoseconds ↔ a.instant < b.instant) ∧
        (a.nanoseconds = b.nanoseconds ↔ a.instant = b.instant) := by
  refine ⟨a.read_text, fun b ha hb => ?_⟩
  exact same_order (nanoseconds_lt_of_instant_lt ha hb) (nanoseconds_eq_of_instant_eq ha hb)
    (nanoseconds_lt_of_instant_lt hb ha)

/-- A tenth of a second before 1970. -/
def endOf1969 : UtcTimestamp where
  moment := ⟨⟨1969, 12, 31⟩, 23, 59, 59⟩
  fraction := ['9']
  isValid := by decide
  isDigit := List.all_eq_true.mp (by decide)

/-- The first day of March 2000, a leap year. -/
def march2000 : UtcTimestamp where
  moment := ⟨⟨2000, 3, 1⟩, 0, 0, 0⟩
  fraction := []
  isValid := by decide
  isDigit := List.all_eq_true.mp (by decide)

theorem read_exactly_endOf1969 :
    endOf1969.text = "1969-12-31T23:59:59.9Z" ∧ march2000.text = "2000-03-01T00:00:00Z" ∧
      read endOf1969.text = .ok endOf1969.nanoseconds ∧
      (endOf1969.nanoseconds < march2000.nanoseconds ↔ endOf1969.instant < march2000.instant) ∧
      (endOf1969.nanoseconds = march2000.nanoseconds ↔ endOf1969.instant = march2000.instant) :=
  ⟨by decide +kernel, by decide +kernel, (read_exactly endOf1969).1,
    (read_exactly endOf1969).2 march2000 (by decide) (by decide)⟩

end UtcTimestamp

end ContractDrill
