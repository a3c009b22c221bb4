import ContractDrill.Calendar.Timestamp
import ContractDrill.Proofs.Calendar.Date
import ContractDrill.Proofs.Text.Numeral
import ContractDrill.Proofs.Text.Trimming
import Mathlib.Tactic.MkIffOfInductiveProp

/-!
# Reading timestamps back

`Timestamp.write` writes an instant as a node does, with all fields in full length and nine digits
behind the point, and `Timestamp.read` gives back the instant, to the nanosecond (`read_write`).

A field in full length can be read in one way only, or in several of which the full one is the
preferred (`head?_readings_…`); so the preferred reading of a moment takes its whole text, whatever
follows it (`head?_readings_charsAround`), and `readMoment` takes the text if nothing follows
(`readMoment_charsAround`).
-/

namespace ContractDrill

/-! ### Fields -/

namespace DigitClass

theorem digit_digitChar : ∀ d < 10, digit (Nat.digitChar d) = some d := by decide

theorem asciiDigit?_digitChar : ∀ d < 10, asciiDigit? (Nat.digitChar d) = some d := by decide

theorem between_eq_some {low high d : Nat} (hlow : low ≤ d) (hhigh : d ≤ high) (hd : d < 10) :
    between low high (Nat.digitChar d) = some d := by
  unfold between
  rw [asciiDigit?_digitChar d hd, Option.filter_some, if_pos]
  rw [Bool.and_eq_true, decide_eq_true_eq, decide_eq_true_eq]
  exact ⟨hlow, hhigh⟩

theorem between_eq_none {low high d : Nat} (hout : d < low ∨ high < d) (hd : d < 10) :
    between low high (Nat.digitChar d) = none := by
  unfold between
  rw [asciiDigit?_digitChar d hd, Option.filter_some, if_neg]
  rw [Bool.and_eq_true, decide_eq_true_eq, decide_eq_true_eq]
  omega

end DigitClass

namespace Field

open DigitClass

section

variable {tens units : DigitClass} {a b : Nat} {forms : Field} {rest : List Char}

/-- A form whose first digit may not be `a` is passed over. -/
theorem head?_readings_of_none (form : List DigitClass) (h : tens (Nat.digitChar a) = none) :
    (readings ((tens :: form) :: forms) (Nat.digitChar a :: rest)).head? =
      (readings forms (Nat.digitChar a :: rest)).head? := by
  have hread : DigitClass.read 0 (tens :: form) (Nat.digitChar a :: rest) = none := by
    rw [DigitClass.read, h]
    rfl
  simp only [readings, List.filterMap_cons, hread]

/-- A form with the digits `a` and `b` is taken. -/
theorem head?_readings_of_some (htens : tens (Nat.digitChar a) = some a)
    (hunits : units (Nat.digitChar b) = some b) :
    (readings ([tens, units] :: forms) (Nat.digitChar a :: Nat.digitChar b :: rest)).head? =
      some (10 * a + b, rest) := by
  have hread : DigitClass.read 0 [tens, units] (Nat.digitChar a :: Nat.digitChar b :: rest) =
      some (10 * a + b, rest) := by
    simp [DigitClass.read, htens, hunits]
  simp only [readings, List.filterMap_cons, hread, List.head?_cons]

end

/-- The two digits of a number below a hundred. -/
theorem exists_paddedDigits_two {n : Nat} (h : n < 100) :
    ∃ a b, a < 10 ∧ b < 10 ∧ n = 10 * a + b ∧
      paddedDigits 2 n = [Nat.digitChar a, Nat.digitChar b] := by
  refine ⟨n / 10, n % 10, by omega, by omega, by omega, ?_⟩
  show [Nat.digitChar (n / 10 % 10), Nat.digitChar (n % 10)] = _
  rw [Nat.mod_eq_of_lt (show n / 10 < 10 by omega)]

/-- The preferred reading of a month of two digits is the month, whatever follows. -/
theorem head?_readings_month {n : Nat} (hpos : 0 < n) (hle : n ≤ 12) (rest : List Char) :
    (month.readings (paddedDigits 2 n ++ rest)).head? = some (n, rest) := by
  obtain ⟨a, b, ha, hb, rfl, hdigits⟩ := exists_paddedDigits_two (show n < 100 by omega)
  rw [hdigits]
  -- The forms are tried in the order of the field, October to December first.
  by_cases hten : a = 1
  · exact head?_readings_of_some (between_eq_some (by omega) (by omega) ha)
      (between_eq_some (by omega) (by omega) hb)
  · refine (head?_readings_of_none _ (between_eq_none (by omega) ha)).trans ?_
    exact head?_readings_of_some (between_eq_some (by omega) (by omega) ha)
      (between_eq_some (by omega) (by omega) hb)

theorem head?_readings_day {n : Nat} (hpos : 0 < n) (hle : n ≤ 31) (rest : List Char) :
    (day.readings (paddedDigits 2 n ++ rest)).head? = some (n, rest) := by
  obtain ⟨a, b, ha, hb, rfl, hdigits⟩ := exists_paddedDigits_two (show n < 100 by omega)
  rw [hdigits]
  by_cases hthirty : a = 3
  · exact head?_readings_of_some (between_eq_some (by omega) (by omega) ha)
      (between_eq_some (by omega) (by omega) hb)
  refine (head?_readings_of_none _ (between_eq_none (by omega) ha)).trans ?_
  by_cases hten : 1 ≤ a
  · exact head?_readings_of_some (between_eq_some hten (by omega) ha) (digit_digitChar b hb)
  · refine (head?_readings_of_none _ (between_eq_none (by omega) ha)).trans ?_
    exact head?_readings_of_some (between_eq_some (by omega) (by omega) ha)
      (between_eq_some (by omega) (by omega) hb)

theorem head?_readings_hour {n : Nat} (h : n < 24) (rest : List Char) :
    (hour.readings (paddedDigits 2 n ++ rest)).head? = some (n, rest) := by
  obtain ⟨a, b, ha, hb, rfl, hdigits⟩ := exists_paddedDigits_two (show n < 100 by omega)
  rw [hdigits]
  by_cases htwenty : a = 2
  · exact head?_readings_of_some (between_eq_some (by omega) (by omega) ha)
      (between_eq_some (by omega) (by omega) hb)
  · refine (head?_readings_of_none _ (between_eq_none (by omega) ha)).trans ?_
    exact head?_readings_of_some (between_eq_some (by omega) (by omega) ha) (digit_digitChar b hb)

theorem head?_readings_minute {n : Nat} (h : n < 60) (rest : List Char) :
    (minute.readings (paddedDigits 2 n ++ rest)).head? = some (n, rest) := by
  obtain ⟨a, b, ha, hb, rfl, hdigits⟩ := exists_paddedDigits_two (show n < 100 by omega)
  rw [hdigits]
  exact head?_readings_of_some (between_eq_some (by omega) (by omega) ha) (digit_digitChar b hb)

/-- The second may be a leap second. -/
theorem head?_readings_second {n : Nat} (h : n < 62) (rest : List Char) :
    (second.readings (paddedDigits 2 n ++ rest)).head? = some (n, rest) := by
  obtain ⟨a, b, ha, hb, rfl, hdigits⟩ := exists_paddedDigits_two (show n < 100 by omega)
  rw [hdigits]
  by_cases hsixty : a = 6
  · exact head?_readings_of_some (between_eq_some (by omega) (by omega) ha)
      (between_eq_some (by omega) (by omega) hb)
  · refine (head?_readings_of_none _ (between_eq_none (by omega) ha)).trans ?_
    exact head?_readings_of_some (between_eq_some (by omega) (by omega) ha) (digit_digitChar b hb)

theorem head?_readings_year {n : Nat} (h : n < 10000) (rest : List Char) :
    (year.readings (paddedDigits 4 n ++ rest)).head? = some (n, rest) := by
  have hread : DigitClass.read 0 [digit, digit, digit, digit] (paddedDigits 4 n ++ rest) =
      some (n, rest) := by
    have hvalue : 10 * (10 * (10 * (n / 10 / 10 / 10 % 10) + n / 10 / 10 % 10) + n / 10 % 10) +
        n % 10 = n := by
      omega
    simp [paddedDigits, DigitClass.read, digit_digitChar _ (Nat.mod_lt _ (by decide : 10 > 0)),
      hvalue]
  simp only [year, readings, List.filterMap_cons, hread, List.head?_cons]

end Field

/-! ### Moments -/

namespace Moment

/-- The moment is on the calendar and on the clock, in a year of four digits. -/
structure IsValid (moment : Moment) : Prop where
  date : moment.date.IsValid
  year_lt : moment.date.year < 10000
  hour_lt : moment.hour < 24
  minute_lt : moment.minute < 60
  second_lt : moment.second < 60

/-- The fields of the moment are those of a date and a time, possibly in year 0 and possibly at a
leap second. -/
@[mk_iff]
structure InRange (moment : Moment) : Prop where
  year_lt : moment.date.year < 10000
  month_pos : 0 < moment.date.month
  month_le : moment.date.month ≤ 12
  day_pos : 0 < moment.date.day
  day_le : moment.date.day ≤ daysInMonth moment.date.year moment.date.month
  hour_lt : moment.hour < 24
  minute_lt : moment.minute < 60
  second_le : moment.second ≤ 60

/-- A moment in range is valid if its year is not 0 and its second no leap second. -/
theorem isValid_iff {moment : Moment} :
    moment.IsValid ↔ moment.InRange ∧ 0 < moment.date.year ∧ moment.second < 60 := by
  constructor
  · rintro ⟨⟨hyear, hmonth, hmonth', hday, hday'⟩, hyear', hhour, hminute, hsecond⟩
    exact ⟨⟨hyear', hmonth, hmonth', hday, hday', hhour, hminute, hsecond.le⟩, hyear, hsecond⟩
  · rintro ⟨h, hyear, hsecond⟩
    exact ⟨⟨hyear, h.month_pos, h.month_le, h.day_pos, h.day_le⟩, h.year_lt, h.hour_lt,
      h.minute_lt, hsecond⟩

instance (moment : Moment) : Decidable moment.InRange :=
  decidable_of_iff' _ (inRange_iff moment)

instance (moment : Moment) : Decidable moment.IsValid :=
  decidable_of_iff' _ isValid_iff

/-- The text of a moment, with all fields in full length and `mark` between date and time. -/
def charsAround (mark : Char) (moment : Moment) : List Char :=
  paddedDigits 4 moment.date.year ++ '-' :: (paddedDigits 2 moment.date.month ++
    '-' :: (paddedDigits 2 moment.date.day ++ mark :: (paddedDigits 2 moment.hour ++
      ':' :: (paddedDigits 2 moment.minute ++ ':' :: paddedDigits 2 moment.second))))

/-- The preferred reading of two parts is made of the preferred readings of both. -/
theorem head?_flatMap_of_head? {α β : Type} {list : List α} {f : α → List β} {a : α} {b : β}
    (hlist : list.head? = some a) (hf : (f a).head? = some b) :
    (list.flatMap f).head? = some b := by
  obtain ⟨rest, rfl⟩ := List.head?_eq_some_iff.mp hlist
  rw [List.flatMap_cons, List.head?_append, hf]
  rfl

/-- If a field and what follows have a preferred reading, so have the two together. -/
theorem head?_behind {α : Type} {marks s t : List Char} {mark : Char} {field : Field} {n : Nat}
    {rest : Nat → List Char → List α} {a : α} (hmark : mark ∈ marks)
    (hfield : (field.readings s).head? = some (n, t)) (hrest : (rest n t).head? = some a) :
    (behind marks field rest (mark :: s)).head? = some a := by
  rw [behind, if_pos hmark]
  exact head?_flatMap_of_head? hfield hrest

theorem InRange.day_le_thirtyOne {moment : Moment} (h : moment.InRange) :
    moment.date.day ≤ 31 := by
  have hle : daysInMonth moment.date.year moment.date.month ≤ 31 := by
    unfold daysInMonth
    split
    · split <;> decide
    · split <;> decide
  exact Nat.le_trans h.day_le hle

/-- The preferred reading of the text of a moment is the moment, whatever follows the text. -/
theorem head?_readings_charsAround {moment : Moment} (h : moment.InRange) {mark : Char}
    (hmark : mark ∈ ['T', 't']) (rest : List Char) :
    (readings (moment.charsAround mark ++ rest)).head? = some (moment, rest) := by
  simp only [charsAround, List.append_assoc, List.cons_append]
  refine head?_flatMap_of_head? (Field.head?_readings_year h.year_lt _) ?_
  refine head?_behind (by simp) (Field.head?_readings_month h.month_pos h.month_le _) ?_
  refine head?_behind (by simp) (Field.head?_readings_day h.day_pos h.day_le_thirtyOne _) ?_
  refine head?_behind hmark (Field.head?_readings_hour h.hour_lt _) ?_
  refine head?_behind (by simp) (Field.head?_readings_minute h.minute_lt _) ?_
  exact head?_behind (by simp)
    (Field.head?_readings_second (Nat.lt_of_le_of_lt h.second_le (by decide)) rest) rfl

theorem ne_point_of_mem_charsAround {moment : Moment} {mark c : Char} (hmark : mark ∈ ['T', 't'])
    (h : c ∈ moment.charsAround mark) : c ≠ '.' := by
  simp only [charsAround, List.mem_append, List.mem_cons] at h
  have hdigit {size n : Nat} (hc : c ∈ paddedDigits size n) : c ≠ '.' :=
    ne_of_isDigit (isDigit_of_mem_paddedDigits hc) (by decide)
  rcases h with h | rfl | h | rfl | h | rfl | h | rfl | h | rfl | h
  case inr.inr.inr.inr.inr.inl =>
    rintro rfl
    revert hmark
    decide
  all_goals first | exact hdigit h | decide

end Moment

namespace Timestamp

/-- The text of a moment is read as that moment, if nothing follows and it is a time of the
calendar. -/
theorem readMoment_charsAround {moment : Moment} (h : moment.InRange) {mark : Char}
    (hmark : mark ∈ ['T', 't']) (rest : List Char) :
    readMoment (moment.charsAround mark ++ rest) =
      if rest ≠ [] then .error (.leftOver (String.ofList rest))
      else if moment.date.year = 0 then .error .yearZero
      else if 59 < moment.second then .error .leapSecond
      else .ok moment := by
  unfold readMoment
  rw [Moment.head?_readings_charsAround h hmark]
  dsimp only
  rw [if_neg (Nat.not_lt.mpr h.day_le)]

/-- A valid moment is read back, with either mark between its date and its time. -/
theorem readMoment_of_isValid {moment : Moment} (h : moment.IsValid) {mark : Char}
    (hmark : mark ∈ ['T', 't']) : readMoment (moment.charsAround mark) = .ok moment := by
  obtain ⟨hrange, hyear, hsecond⟩ := Moment.isValid_iff.mp h
  rw [← List.append_nil (moment.charsAround mark), readMoment_charsAround hrange hmark,
    if_neg (not_not_intro rfl), if_neg (Nat.ne_of_gt hyear), if_neg (by omega)]

/-! ### Fractions -/

theorem isDigit_of_mem_nineDigits {fraction : List Char} (h : ∀ c ∈ fraction, c.isDigit = true)
    {c : Char} (hc : c ∈ nineDigits fraction) : c.isDigit = true := by
  rcases List.mem_append.mp (List.mem_of_mem_take hc) with hc | hc
  · exact h c hc
  · rw [List.eq_of_mem_replicate hc]
    decide

theorem length_nineDigits (fraction : List Char) : (nineDigits fraction).length = 9 := by
  simp [nineDigits]

/-- Digits behind the point are filled up with zeros, or cut, to nanoseconds. -/
theorem readFraction_of_isDigit {fraction : List Char} (h : ∀ c ∈ fraction, c.isDigit = true) :
    readFraction fraction = .ok (digitsToNat (nineDigits fraction)) := by
  have hlength := length_nineDigits fraction
  have hne : nineDigits fraction ≠ [] := by
    intro hnil
    rw [hnil] at hlength
    cases hlength
  unfold readFraction
  rw [readInteger_of_isDigit hne (fun c => isDigit_of_mem_nineDigits h) (by rw [hlength]; decide)]

/-! ### Whole texts -/

theorem bind_eq_ok_iff {ε α β : Type} {x : Except ε α} {f : α → Except ε β} {b : β} :
    x >>= f = .ok b ↔ ∃ a, x = .ok a ∧ f a = .ok b := by
  cases x <;> simp [bind, Except.bind]

/-- A text is split at its first point. -/
theorem read_of_point {base fraction : List Char} (hbase : ∀ c ∈ base, c ≠ '.') {text : String}
    (htext : trimEndBy (· = 'Z') text.toList = base ++ '.' :: fraction) :
    read text = do
      let moment ← readMoment base
      let nanoseconds ← readFraction fraction
      return moment.seconds * 1000000000 + nanoseconds := by
  have htake : (base ++ '.' :: fraction).takeWhile (· ≠ '.') = base := by
    rw [List.takeWhile_append_of_pos fun c hc => decide_eq_true (hbase c hc),
      List.takeWhile_cons_of_neg (by decide), List.append_nil]
  have hdrop : (base ++ '.' :: fraction).drop (base.length + 1) = fraction := by
    rw [List.drop_append]
    simp
  unfold read
  rw [htext]
  simp only [htake, hdrop]

/-- Without a point, no nanoseconds are added. -/
theorem read_of_forall_ne_point {base : List Char} (hbase : ∀ c ∈ base, c ≠ '.') {text : String}
    (htext : trimEndBy (· = 'Z') text.toList = base) :
    read text = do
      let moment ← readMoment base
      return moment.seconds * 1000000000 := by
  have htake : base.takeWhile (· ≠ '.') = base :=
    List.takeWhile_eq_self_iff.mpr fun c hc => decide_eq_true (hbase c hc)
  have hzero : readFraction [] = .ok 0 := by decide
  unfold read
  rw [htext]
  simp only [htake, List.drop_eq_nil_of_le (Nat.le_succ base.length), hzero]
  cases readMoment base with
  | error error => rfl
  | ok moment =>
    show Except.ok _ = Except.ok _
    rw [Int.add_zero]

/-- A timestamp with all fields in full length, any digits behind the point, and a `Z`. -/
theorem read_of_moment {moment : Moment} (h : moment.IsValid) {fraction : List Char}
    (hfraction : ∀ c ∈ fraction, c.isDigit = true) {text : String}
    (htext : text.toList = moment.charsAround 'T' ++ '.' :: fraction ++ ['Z']) :
    read text = .ok (moment.seconds * 1000000000 + digitsToNat (nineDigits fraction)) := by
  have hmark : 'T' ∈ ['T', 't'] := by simp
  -- A digit stands in front of the `Z`, so no more than that is trimmed.
  have htrim : trimEndBy (· = 'Z') text.toList = moment.charsAround 'T' ++ '.' :: fraction := by
    rw [htext]
    refine trimEndBy_concat (by decide) fun c hc => ?_
    rw [List.getLast?_append_of_ne_nil _ (List.cons_ne_nil _ _)] at hc
    rcases List.mem_cons.mp (List.mem_of_mem_getLast? hc) with rfl | hc
    · decide
    · exact decide_eq_false (ne_of_isDigit (hfraction c hc) (by decide))
  rw [read_of_point (fun _ => Moment.ne_point_of_mem_charsAround hmark) htrim,
    readMoment_of_isValid h hmark, readFraction_of_isDigit hfraction]
  rfl

end Timestamp

/-! ### Instants -/

/-- The moment that lies `seconds` behind the start of 1970. -/
def Moment.ofSeconds (seconds : Int) : Moment where
  date := .ofDayNumber (seconds / 86400 + Date.epoch.dayNumber).toNat
  hour := (seconds % 86400).toNat / 3600
  minute := (seconds % 86400).toNat / 60 % 60
  second := (seconds % 86400).toNat % 60

namespace Timestamp

/-- The instant lies in the years 1 to 9999; it is in nanoseconds from 1970. -/
def InCalendar (instant : Int) : Prop :=
  0 ≤ instant / 86400000000000 + Date.epoch.dayNumber ∧
    instant / 86400000000000 + Date.epoch.dayNumber < daysBeforeYear 10000

/-- The timestamp of an instant. -/
def write (instant : Int) : String :=
  String.ofList ((Moment.ofSeconds (instant / 1000000000)).charsAround 'T' ++
    '.' :: paddedDigits 9 (instant % 1000000000).toNat ++ ['Z'])

theorem seconds_ofSeconds {seconds : Int} (h : 0 ≤ seconds / 86400 + Date.epoch.dayNumber) :
    (Moment.ofSeconds seconds).seconds = seconds := by
  simp only [Moment.ofSeconds, Moment.seconds, Date.daysFromEpoch, Date.dayNumber_ofDayNumber]
  omega

/-- The moment of an instant on the calendar is valid. -/
theorem isValid_ofSeconds {seconds : Int} (h : 0 ≤ seconds / 86400 + Date.epoch.dayNumber)
    (hyear : seconds / 86400 + Date.epoch.dayNumber < daysBeforeYear 10000) :
    (Moment.ofSeconds seconds).IsValid where
  date := Date.isValid_ofDayNumber _
  year_lt := yearOfDay_lt (by omega)
  hour_lt := by
    show (seconds % 86400).toNat / 3600 < 24
    omega
  minute_lt := Nat.mod_lt _ (by decide)
  second_lt := Nat.mod_lt _ (by decide)

/-- The timestamp of an instant is read as that instant. -/
theorem read_write {instant : Int} (h : InCalendar instant) :
    read (write instant) = .ok instant := by
  obtain ⟨hfirst, hlast⟩ := h
  -- The bounds of the instant are bounds of its day.
  have hdays : instant / 1000000000 / 86400 = instant / 86400000000000 := by omega
  rw [← hdays] at hfirst hlast
  have hdigits : ∀ c ∈ paddedDigits 9 (instant % 1000000000).toNat, c.isDigit = true :=
    fun _ => isDigit_of_mem_paddedDigits
  have hnine : nineDigits (paddedDigits 9 (instant % 1000000000).toNat) =
      paddedDigits 9 (instant % 1000000000).toNat :=
    List.take_left' (length_paddedDigits 9 _)
  unfold write
  rw [read_of_moment (isValid_ofSeconds hfirst hlast) hdigits (String.toList_ofList),
    seconds_ofSeconds hfirst, hnine, digitsToNat_paddedDigits (by omega)]
  congr 1
  omega

end Timestamp

end ContractDrill
