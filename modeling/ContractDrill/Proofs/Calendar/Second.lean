import ContractDrill.Proofs.Calendar.Timestamp
import Mathlib.Data.List.Forall2

/-!
# The second of a timestamp

Of any text that is read as a timestamp, the part in front of the first point is a moment that is on
the calendar and on the clock (`isValid_of_readMoment`), and the rest moves the instant by less than
a second.  It moves it on, except if a minus sign leads the nine characters behind the point; then
it moves the instant back by less than a tenth of a second, to the second before
(`exists_second_of_read`).

The moment is bounded field by field: a field bounds the digits of each of its forms
(`Field.Within`), and with them the numbers that are read (`Field.Within.bounds`).  The bounds of
the nanoseconds are those of an integer of nine characters (`bounds_of_readInteger`).
-/

namespace ContractDrill

/-! ### Bounds of fields -/

namespace DigitClass

/-- The digits of the class are within bounds. -/
def Within (digits : DigitClass) (bounds : Nat × Nat) : Prop :=
  ∀ c d, digits c = some d → bounds.1 ≤ d ∧ d ≤ bounds.2

theorem within_between (low high : Nat) : (between low high).Within (low, high) := by
  intro c d h
  obtain ⟨-, hbounds⟩ := Option.filter_eq_some_iff.mp h
  simpa using hbounds

theorem within_digit : digit.Within (0, 9) :=
  fun _ _ h => ⟨Nat.zero_le _, Nat.le_of_lt_succ (lt_ten_of_digitValue? h)⟩

/-- A space counts as the digit 0. -/
theorem within_space : space.Within (0, 0) := by
  intro c d h
  unfold space at h
  split at h
  · cases h
    decide
  · cases h

/-- The least and the greatest number that digits within bounds write behind others. -/
def extremes (low high : Nat) (bounds : List (Nat × Nat)) : Nat × Nat :=
  (bounds.foldl (fun n bound => 10 * n + bound.1) low,
    bounds.foldl (fun n bound => 10 * n + bound.2) high)

/-- What is read of a form lies between its least and its greatest digits, read on from bounds of
what was read before. -/
theorem extremes_of_read {form : List DigitClass} {bounds : List (Nat × Nat)}
    (h : List.Forall₂ Within form bounds) {value low high n : Nat} (hlow : low ≤ value)
    (hhigh : value ≤ high) {s t : List Char} (hread : DigitClass.read value form s = some (n, t)) :
    (extremes low high bounds).1 ≤ n ∧ n ≤ (extremes low high bounds).2 := by
  -- The value so far is one of the bounds, so the induction is on the digits to come.
  induction h generalizing value low high s with
  | nil =>
    obtain ⟨rfl, -⟩ := Prod.mk.inj (Option.some.inj hread)
    exact ⟨hlow, hhigh⟩
  | cons hdigit _ ih =>
    cases s with
    | nil => cases hread
    | cons c rest =>
      obtain ⟨d, hd, hrest⟩ := Option.bind_eq_some_iff.mp hread
      obtain ⟨hmin, hmax⟩ := hdigit c d hd
      exact ih (Nat.add_le_add (Nat.mul_le_mul_left _ hlow) hmin)
        (Nat.add_le_add (Nat.mul_le_mul_left _ hhigh) hmax) hrest

end DigitClass

namespace Field

open DigitClass

/-- All forms of the field write numbers from `low` to `high`. -/
def Within (field : Field) (low high : Nat) : Prop :=
  ∀ form ∈ field, ∃ bounds, List.Forall₂ DigitClass.Within form bounds ∧
    low ≤ (DigitClass.extremes 0 0 bounds).1 ∧ (DigitClass.extremes 0 0 bounds).2 ≤ high

/-- A number that is read of a field lies within the bounds of the field. -/
theorem Within.bounds {field : Field} {low high : Nat} (h : field.Within low high) {n : Nat}
    {s t : List Char} (hread : (n, t) ∈ field.readings s) : low ≤ n ∧ n ≤ high := by
  obtain ⟨form, hform, hvalue⟩ := List.mem_filterMap.mp hread
  obtain ⟨bounds, hbounds, hlow, hhigh⟩ := h form hform
  obtain ⟨hmin, hmax⟩ := extremes_of_read hbounds (le_refl 0) (le_refl 0) hvalue
  exact ⟨hlow.trans hmin, hmax.trans hhigh⟩

theorem within_nil (low high : Nat) : Within [] low high :=
  fun _ hform => absurd hform List.not_mem_nil

theorem Within.cons {form : List DigitClass} {field : Field} {bounds : List (Nat × Nat)}
    {low high : Nat} (hform : List.Forall₂ DigitClass.Within form bounds)
    (hlow : low ≤ (DigitClass.extremes 0 0 bounds).1)
    (hhigh : (DigitClass.extremes 0 0 bounds).2 ≤ high) (h : field.Within low high) :
    Within (form :: field) low high :=
  List.forall_mem_cons.mpr ⟨⟨bounds, hform, hlow, hhigh⟩, h⟩

theorem within_year : year.Within 0 9999 := by
  refine .cons (.cons within_digit (.cons within_digit (.cons within_digit
    (.cons within_digit .nil)))) ?_ ?_ (within_nil 0 9999)
  · decide
  · decide

/-- A form of two digits. -/
theorem forall₂_pair {tens units : DigitClass} {bounds bounds' : Nat × Nat}
    (htens : tens.Within bounds) (hunits : units.Within bounds') :
    List.Forall₂ DigitClass.Within [tens, units] [bounds, bounds'] :=
  .cons htens (.cons hunits .nil)

theorem within_month : month.Within 1 12 := by
  have htens := forall₂_pair (within_between 1 1) (within_between 0 2)
  have hzero := forall₂_pair (within_between 0 0) (within_between 1 9)
  have hsingle := List.Forall₂.cons (within_between 1 9) .nil
  exact .cons htens (by decide) (by decide) <| .cons hzero (by decide) (by decide) <|
    .cons hsingle (by decide) (by decide) <| within_nil 1 12

theorem within_day : day.Within 1 31 := by
  have hthirty := forall₂_pair (within_between 3 3) (within_between 0 1)
  have htens := forall₂_pair (within_between 1 2) within_digit
  have hzero := forall₂_pair (within_between 0 0) (within_between 1 9)
  have hsingle := List.Forall₂.cons (within_between 1 9) .nil
  have hspace := forall₂_pair within_space (within_between 1 9)
  exact .cons hthirty (by decide) (by decide) <| .cons htens (by decide) (by decide) <|
    .cons hzero (by decide) (by decide) <| .cons hsingle (by decide) (by decide) <|
    .cons hspace (by decide) (by decide) <| within_nil 1 31

theorem within_hour : hour.Within 0 23 := by
  have htwenty := forall₂_pair (within_between 2 2) (within_between 0 3)
  have htens := forall₂_pair (within_between 0 1) within_digit
  have hsingle := List.Forall₂.cons within_digit .nil
  exact .cons htwenty (by decide) (by decide) <| .cons htens (by decide) (by decide) <|
    .cons hsingle (by decide) (by decide) <| within_nil 0 23

theorem within_minute : minute.Within 0 59 := by
  have htens := forall₂_pair (within_between 0 5) within_digit
  have hsingle := List.Forall₂.cons within_digit .nil
  exact .cons htens (by decide) (by decide) <| .cons hsingle (by decide) (by decide) <|
    within_nil 0 59

end Field

/-! ### Moments that are read -/

namespace Moment

/-- What is read behind a mark is read behind a number of the field. -/
theorem mem_behind {α : Type} {marks s : List Char} {field : Field}
    {rest : Nat → List Char → List α} {a : α} (h : a ∈ behind marks field rest s) :
    ∃ n t u, (n, t) ∈ field.readings u ∧ a ∈ rest n t := by
  cases s with
  | nil => cases h
  | cons c s =>
    rw [behind] at h
    split at h
    · obtain ⟨⟨n, t⟩, hread, ha⟩ := List.mem_flatMap.mp h
      exact ⟨n, t, s, hread, ha⟩
    · cases h

/-- Any reading of a text is on the calendar and on the clock, but for the year 0, the ends of short
months and leap seconds. -/
theorem inBounds_of_mem_readings {moment : Moment} {s rest : List Char}
    (h : (moment, rest) ∈ readings s) :
    moment.date.year < 10000 ∧ (1 ≤ moment.date.month ∧ moment.date.month ≤ 12) ∧
      1 ≤ moment.date.day ∧ moment.hour < 24 ∧ moment.minute < 60 := by
  obtain ⟨⟨year, s⟩, hyear, h⟩ := List.mem_flatMap.mp h
  obtain ⟨month, s, _, hmonth, h⟩ := mem_behind h
  obtain ⟨day, s, _, hday, h⟩ := mem_behind h
  obtain ⟨hour, s, _, hhour, h⟩ := mem_behind h
  obtain ⟨minute, s, _, hminute, h⟩ := mem_behind h
  obtain ⟨second, s, _, -, h⟩ := mem_behind h
  obtain ⟨rfl, -⟩ := Prod.mk.inj (List.mem_singleton.mp h)
  exact ⟨Nat.lt_succ_of_le (Field.within_year.bounds hyear).2, Field.within_month.bounds hmonth,
    (Field.within_day.bounds hday).1, Nat.lt_succ_of_le (Field.within_hour.bounds hhour).2,
    Nat.lt_succ_of_le (Field.within_minute.bounds hminute).2⟩

end Moment

namespace Timestamp

/-- Every moment that is read is on the calendar and on the clock. -/
theorem isValid_of_readMoment {s : List Char} {moment : Moment} (h : readMoment s = .ok moment) :
    moment.IsValid := by
  unfold readMoment at h
  split at h
  case h_1 => cases h
  case h_2 found rest hfound =>
    obtain ⟨hyear, ⟨hmonth, hmonth'⟩, hday, hhour, hminute⟩ :=
      Moment.inBounds_of_mem_readings (List.mem_of_mem_head? hfound)
    dsimp only at h
    -- Nothing is left over, the year is not 0, and day and second are not too great.
    iterate 4
      split at h
      case isTrue => cases h
    rename_i hpos hle hsecond
    obtain rfl := Except.ok.inj h
    exact ⟨⟨Nat.pos_of_ne_zero hpos, hmonth, hmonth', hday, Nat.not_lt.mp hle⟩, hyear, hhour,
      hminute, Nat.lt_succ_of_le (Nat.not_lt.mp hsecond)⟩

/-! ### The second and the rest -/

/-- What stands in front of the first point, without `Z` at the end. -/
def base (text : String) : List Char :=
  (trimEndBy (· = 'Z') text.toList).takeWhile (· ≠ '.')

/-- What stands behind the first point, without `Z` at the end. -/
def behindPoint (text : String) : List Char :=
  (trimEndBy (· = 'Z') text.toList).drop ((base text).length + 1)

/-- The characters behind the point that are read are led by a minus sign. -/
def IsNegated (text : String) : Prop :=
  LeadsWithMinus (nineDigits (behindPoint text))
  deriving Decidable

/-- What is read is a moment in front of the first point and a fraction behind it. -/
theorem read_eq_ok_iff_exists {text : String} {n : Int} : read text = .ok n ↔
    ∃ moment, readMoment (base text) = .ok moment ∧
      ∃ k, readFraction (behindPoint text) = .ok k ∧ moment.seconds * 1000000000 + k = n := by
  show (do
    let moment ← readMoment (base text)
    let nanoseconds ← readFraction (behindPoint text)
    return moment.seconds * 1000000000 + nanoseconds) = Except.ok n ↔ _
  simp only [bind_eq_ok_iff]
  exact exists_congr fun moment => and_congr_right fun _ => exists_congr fun k =>
    and_congr_right fun _ => ⟨Except.ok.inj, congrArg _⟩

/-- A fraction moves the instant on by less than a second, or back by less than a tenth of one. -/
theorem bounds_of_readFraction {fraction : List Char} {k : Int}
    (h : readFraction fraction = .ok k) :
    (LeadsWithMinus (nineDigits fraction) → k ≤ 0 ∧ -k < 10 ^ 8) ∧
      (¬ LeadsWithMinus (nineDigits fraction) → 0 ≤ k ∧ k < 10 ^ 9) := by
  have hread : readInteger (nineDigits fraction) = .ok k := by
    unfold readFraction at h
    split at h
    case h_1 n hn => rw [hn, Except.ok.inj h]
    case h_2 => cases h
  have hbounds := bounds_of_readInteger hread
  rwa [length_nineDigits] at hbounds

/-- The instant lies in the second of its moment, unless its fraction is negated: then it lies in
the second before, in the last tenth of it. -/
theorem exists_second_of_read {text : String} {n : Int} (h : read text = .ok n) :
    ∃ (moment : Moment) (k : Int), readMoment (base text) = .ok moment ∧ moment.IsValid ∧
      readFraction (behindPoint text) = .ok k ∧ n = moment.seconds * 10 ^ 9 + k ∧
      -10 ^ 8 < k ∧ k < 10 ^ 9 ∧ (k < 0 ↔ IsNegated text ∧ k ≠ 0) := by
  obtain ⟨moment, hmoment, k, hfraction, rfl⟩ := read_eq_ok_iff_exists.mp h
  obtain ⟨hnegated, hplain⟩ := bounds_of_readFraction hfraction
  refine ⟨moment, k, hmoment, isValid_of_readMoment hmoment, hfraction, rfl, ?_⟩
  by_cases hminus : IsNegated text
  · obtain ⟨hle, hlt⟩ := hnegated hminus
    exact ⟨by omega, by omega, fun hneg => ⟨hminus, hneg.ne⟩, fun ⟨_, hne⟩ => by omega⟩
  · obtain ⟨hge, hlt⟩ := hplain hminus
    exact ⟨by omega, hlt, fun hneg => by omega, fun ⟨h, _⟩ => absurd h hminus⟩

theorem exists_second_of_read_half :
    ∃ (moment : Moment) (k : Int),
      readMoment (base "2022-05-01T10:00:00.5Z") = .ok moment ∧ moment.IsValid ∧
      readFraction (behindPoint "2022-05-01T10:00:00.5Z") = .ok k ∧
      1651399200500000000 = moment.seconds * 10 ^ 9 + k ∧
      -10 ^ 8 < k ∧ k < 10 ^ 9 ∧ (k < 0 ↔ IsNegated "2022-05-01T10:00:00.5Z" ∧ k ≠ 0) :=
  exists_second_of_read (by decide +kernel)

/-- A minus sign behind the point leads back to the second before. -/
theorem not_forall_within_second :
    ¬ ∀ (text : String) (n : Int), read text = .ok n →
      ∃ (moment : Moment) (k : Int), readMoment (base text) = .ok moment ∧
        n = moment.seconds * 10 ^ 9 + k ∧ 0 ≤ k ∧ k < 10 ^ 9 := by
  intro hwithin
  -- The fraction is minus half of a tenth of a second.
  have hread : read "2022-05-01T10:00:00.-5Z" = .ok 1651399199950000000 := by decide +kernel
  have hmoment : readMoment (base "2022-05-01T10:00:00.-5Z") =
      .ok ⟨⟨2022, 5, 1⟩, 10, 0, 0⟩ := by
    decide +kernel
  have hseconds : (⟨⟨2022, 5, 1⟩, 10, 0, 0⟩ : Moment).seconds = 1651399200 := by decide +kernel
  obtain ⟨moment, k, hfound, hsum, hk, -⟩ := hwithin _ _ hread
  obtain rfl := Except.ok.inj (hfound.symm.trans hmoment)
  rw [hseconds] at hsum
  omega

end Timestamp

end ContractDrill
