import ContractDrill.Proofs.Calendar.Utc

/-!
# Timestamps in other zones

A `ZonedTimestamp` is a date-time of RFC 3339: a date and time with any digits behind the second,
either in UTC or at an offset from it.  What its text stands for is the time by the calendar, less
the offset, cut to nanoseconds (`nanoseconds`).

Only a `Z` at the end of a text is taken away before the text is read; the text of any other zone
ends up behind the second, or behind the digits of its fraction.  There it does no harm unless nine
digits hide it: in front of the ninth digit it is no part of an integer
(`readFraction_append_mark`), and without a point it is left over from the moment.  Behind nine
digits it is cut off, and the timestamp is read as if it were in UTC (`readsUtc_of_eq_ok`).  So a
timestamp is misread just if it has nine digits or more and an offset that is not zero
(`misread_iff`).  The year 0 and leap seconds are refused in any zone.
-/

namespace ContractDrill

/-! ### Zones -/

/-- The zone of a timestamp: UTC, written as `Z` or `z`, or an offset from it. -/
inductive Zone where
  | utc (capital : Bool)
  | offset (negative : Bool) (hour : Fin 24) (minute : Fin 60)

namespace Zone

/-- What stands at the end of a timestamp in the zone. -/
def chars : Zone → List Char
  | utc capital => [if capital then 'Z' else 'z']
  | offset negative hour minute =>
    (if negative then '-' else '+') :: (paddedDigits 2 hour ++ ':' :: paddedDigits 2 minute)

/-- How many seconds the clocks of the zone are ahead of UTC. -/
def seconds : Zone → ℤ
  | utc _ => 0
  | offset negative hour minute => withSign negative (3600 * hour + 60 * minute)

/-- Unless it is a `Z`, the end of a timestamp begins with a mark that is in no integer. -/
theorem exists_mark_of_ne_utc {zone : Zone} (h : zone ≠ .utc true) :
    ∃ mark rest, zone.chars = mark :: rest ∧ mark.toNat < 0x80 ∧
      (mark.isDigit || mark = '_') = false ∧ isAsciiSpace mark = false := by
  cases zone with
  | utc capital =>
    cases capital with
    | false => exact ⟨'z', _, rfl, by decide, by decide, by decide⟩
    | true => exact absurd rfl h
  | offset negative hour minute =>
    cases negative with
    | false => exact ⟨'+', _, rfl, by decide, by decide, by decide⟩
    | true => exact ⟨'-', _, rfl, by decide, by decide, by decide⟩

/-- It has no other characters than these marks and digits. -/
theorem ne_of_mem_chars {zone : Zone} (hzone : zone ≠ .utc true) {c other : Char}
    (h : c ∈ zone.chars) (hdigit : other.isDigit = false) (hmarks : other ∉ ['z', '+', '-', ':']) :
    c ≠ other := by
  suffices hc : c ∈ ['z', '+', '-', ':'] ∨ c.isDigit = true by
    rcases hc with hc | hc
    · exact fun heq => hmarks (heq ▸ hc)
    · exact ne_of_isDigit hc hdigit
  cases zone with
  | utc capital =>
    cases capital with
    | false => exact .inl (List.mem_singleton.mp h ▸ by decide)
    | true => exact absurd rfl hzone
  | offset negative hour minute =>
    simp only [chars, List.mem_cons, List.mem_append] at h
    rcases h with rfl | h | rfl | h
    · cases negative <;> exact .inl (by decide)
    · exact .inr (isDigit_of_mem_paddedDigits h)
    · exact .inl (by decide)
    · exact .inr (isDigit_of_mem_paddedDigits h)

end Zone

/-! ### Fractions with more behind them -/

namespace Timestamp

variable {fraction : List Char}

/-- Nine digits hide what stands behind them. -/
theorem readFraction_append (h : ∀ c ∈ fraction, c.isDigit = true) (hlength : 9 ≤ fraction.length)
    (rest : List Char) : readFraction (fraction ++ rest) = .ok (nanosecondsOf fraction) := by
  have hnine : nineDigits (fraction ++ rest) = nineDigits fraction := by
    unfold nineDigits
    rw [List.append_assoc, List.take_append_of_le_length hlength,
      List.take_append_of_le_length hlength]
  have hread := readFraction_of_isDigit h
  rw [digitsToNat_nineDigits] at hread
  unfold readFraction at hread ⊢
  rw [hnine, hread]

/-- Less than nine digits do not hide what stands behind them. -/
theorem readFraction_append_mark (h : ∀ c ∈ fraction, c.isDigit = true) (hne : fraction ≠ [])
    (hlength : fraction.length < 9) {mark : Char} (hascii : mark.toNat < 0x80)
    (hrow : (mark.isDigit || mark = '_') = false) (hspace : isAsciiSpace mark = false)
    (rest : List Char) : ∃ error, readFraction (fraction ++ mark :: rest) = .error error := by
  obtain ⟨k, hk⟩ := Nat.exists_eq_add_of_lt hlength
  -- The mark is among the nine characters, since fewer than nine digits stand in front of it.
  have hnine : nineDigits (fraction ++ mark :: rest) =
      fraction ++ mark :: (rest ++ List.replicate 9 '0').take k := by
    unfold nineDigits
    rw [List.append_assoc, List.take_append, List.take_of_length_le hlength.le, List.cons_append,
      show 9 - fraction.length = k + 1 by omega, List.take_succ_cons]
  have hlimit : fraction.length ≤ maxNumeralDigits := hlength.le.trans (by decide)
  unfold readFraction
  rw [hnine, readInteger_append_mark hne h hlimit hascii hrow hspace]
  exact ⟨_, rfl⟩

end Timestamp

/-! ### Timestamps -/

/-- A date and time in a zone, with any digits behind the second. -/
structure ZonedTimestamp where
  moment : Moment
  /-- What stands between date and time. -/
  mark : Char
  fraction : List Char
  zone : Zone
  inRange : moment.InRange
  mem_marks : mark ∈ ['T', 't']
  isDigit : ∀ c ∈ fraction, c.isDigit = true

namespace ZonedTimestamp

open Timestamp

variable (a : ZonedTimestamp)

/-- The text of the timestamp, with all fields in full length. -/
def text : String :=
  String.ofList (a.moment.charsAround a.mark ++ pointed a.fraction ++ a.zone.chars)

/-- The seconds from 1970, as the calendar counts them. -/
noncomputable def instant : ℚ :=
  a.moment.countedSeconds - a.zone.seconds + secondsOf a.fraction

/-- The nanoseconds from 1970. -/
noncomputable def nanoseconds : ℤ :=
  ⌊a.instant * 10 ^ 9⌋

/-- The instant is the time by the calendar in UTC, with the digits behind the second. -/
theorem nanoseconds_eq (h : a.moment.IsValid) : a.nanoseconds =
    (a.moment.seconds - a.zone.seconds) * 10 ^ 9 + nanosecondsOf a.fraction := by
  have hsplit : a.instant * 10 ^ 9 =
      ((a.moment.seconds - a.zone.seconds) * 10 ^ 9 : ℤ) + secondsOf a.fraction * 10 ^ 9 := by
    unfold instant
    rw [← Moment.seconds_eq_countedSeconds h.date]
    push_cast
    ring
  unfold nanoseconds
  rw [hsplit, Int.floor_intCast_add, nanosecondsOf_eq_floor a.isDigit]

/-- Whether what stands at the end of the text is taken away or hidden. -/
def EndsUnseen : Prop :=
  a.zone = .utc true ∨ 9 ≤ a.fraction.length

variable {a} {n : ℤ}

/-- The moment is read if nothing is left over and it is a time of the calendar. -/
theorem readMoment_bind_eq_ok_iff (rest : List Char) (f : Moment → Except Timestamp.Error ℤ) :
    readMoment (a.moment.charsAround a.mark ++ rest) >>= f = .ok n ↔
      rest = [] ∧ a.moment.IsValid ∧ f a.moment = .ok n := by
  -- The moment is read just if nothing is left and its date is one of the calendar.
  have hread {moment : Moment} :
      readMoment (a.moment.charsAround a.mark ++ rest) = .ok moment ↔
        rest = [] ∧ a.moment.IsValid ∧ a.moment = moment := by
    rw [readMoment_charsAround a.inRange a.mem_marks, Moment.isValid_iff]
    by_cases hrest : rest = []
    · by_cases hyear : a.moment.date.year = 0
      · simp [hrest, hyear]
      · by_cases hsecond : 59 < a.moment.second
        · simp [hrest, hyear, hsecond, Nat.not_lt.mpr hsecond]
        · simp [hrest, hyear, hsecond, a.inRange, Nat.pos_of_ne_zero hyear,
            Nat.lt_of_not_le hsecond]
    · simp [hrest]
  rw [bind_eq_ok_iff]
  constructor
  · rintro ⟨moment, hmoment, hf⟩
    obtain ⟨hrest, hvalid, rfl⟩ := hread.mp hmoment
    exact ⟨hrest, hvalid, hf⟩
  · rintro ⟨hrest, hvalid, hf⟩
    exact ⟨_, hread.mpr ⟨hrest, hvalid, rfl⟩, hf⟩

theorem pure_eq_ok_iff {m : ℤ} : (pure m : Except Timestamp.Error ℤ) = .ok n ↔ n = m :=
  ⟨fun h => (Except.ok.inj h).symm, fun h => congrArg _ h.symm⟩

/-- With nothing but digits behind the point, all depends on the moment. -/
theorem read_eq_ok_iff_of_utc (hzone : a.zone = .utc true) : read a.text = .ok n ↔
    a.moment.IsValid ∧ n = a.moment.seconds * 1000000000 + nanosecondsOf a.fraction := by
  have htrim : trimEndBy (· = 'Z') a.text.toList =
      a.moment.charsAround a.mark ++ pointed a.fraction := by
    unfold text
    rw [hzone, String.toList_ofList]
    exact trimEndBy_concat (by decide) fun c hc =>
      decide_eq_false (ne_of_isDigit (isDigit_of_mem_getLast? a.isDigit hc) (by decide))
  rw [read_of_digits a.mem_marks a.isDigit htrim, ← List.append_nil (a.moment.charsAround a.mark),
    readMoment_bind_eq_ok_iff]
  simp only [true_and, pure_eq_ok_iff]

/-- What stands at the end, if it is not taken away, must be hidden. -/
theorem read_eq_ok_iff_of_ne_utc (hzone : a.zone ≠ .utc true) : read a.text = .ok n ↔
    a.moment.IsValid ∧ 9 ≤ a.fraction.length ∧
      n = a.moment.seconds * 1000000000 + nanosecondsOf a.fraction := by
  obtain ⟨mark, rest, hchars, hascii, hrow, hspace⟩ := Zone.exists_mark_of_ne_utc hzone
  have htrim : trimEndBy (· = 'Z') a.text.toList =
      a.moment.charsAround a.mark ++ pointed a.fraction ++ a.zone.chars := by
    unfold text
    rw [String.toList_ofList]
    refine trimEndBy_eq_self fun c hc => ?_
    rw [List.getLast?_append_of_ne_nil _ (by rw [hchars]; exact List.cons_ne_nil _ _)] at hc
    exact decide_eq_false
      (Zone.ne_of_mem_chars hzone (List.mem_of_mem_getLast? hc) (by decide) (by decide))
  have hmoment : ∀ c ∈ a.moment.charsAround a.mark, c ≠ '.' := fun _ =>
    Moment.ne_point_of_mem_charsAround a.mem_marks
  by_cases hnil : a.fraction = []
  -- Without a point the end of the text is left over from the moment.
  · rw [pointed, if_pos hnil, List.append_nil] at htrim
    have hbase : ∀ c ∈ a.moment.charsAround a.mark ++ a.zone.chars, c ≠ '.' := fun c hc =>
      (List.mem_append.mp hc).elim (hmoment c) fun hc =>
        Zone.ne_of_mem_chars hzone hc (by decide) (by decide)
    rw [read_of_forall_ne_point hbase htrim, readMoment_bind_eq_ok_iff]
    simp [hchars, hnil]
  · rw [pointed, if_neg hnil, List.append_assoc, List.cons_append] at htrim
    rw [read_of_point hmoment htrim, ← List.append_nil (a.moment.charsAround a.mark),
      readMoment_bind_eq_ok_iff, bind_eq_ok_iff]
    -- Nine digits or more fill what is read of the fraction, and the zone is not looked at.
    by_cases hlength : 9 ≤ a.fraction.length
    · rw [readFraction_append a.isDigit hlength]
      simp [hlength, pure_eq_ok_iff]
    · obtain ⟨error, herror⟩ := readFraction_append_mark a.isDigit hnil (not_le.mp hlength) hascii
        hrow hspace rest
      rw [hchars, herror]
      simp [hlength]

/-- In any zone, what is read is the time by the calendar, as if that were in UTC. -/
theorem read_eq_ok_iff : read a.text = .ok n ↔
    a.moment.IsValid ∧ a.EndsUnseen ∧
      n = a.moment.seconds * 1000000000 + nanosecondsOf a.fraction := by
  by_cases hzone : a.zone = .utc true
  · rw [read_eq_ok_iff_of_utc hzone]
    simp [EndsUnseen, hzone]
  · rw [read_eq_ok_iff_of_ne_utc hzone]
    simp [EndsUnseen, hzone]

/-! ### Misreadings -/

/-- What is read is the time in UTC that has the same fields. -/
theorem readsUtc_of_eq_ok (h : read a.text = .ok n) :
    n = a.nanoseconds + a.zone.seconds * 10 ^ 9 := by
  obtain ⟨hvalid, -, rfl⟩ := read_eq_ok_iff.mp h
  rw [nanoseconds_eq a hvalid]
  ring

/-- What is read is wrong just where the offset is not zero. -/
theorem ne_nanoseconds_iff (h : read a.text = .ok n) : n ≠ a.nanoseconds ↔ a.zone.seconds ≠ 0 := by
  rw [readsUtc_of_eq_ok h]
  omega

/-- A timestamp is read if it is a time of the calendar whose end is taken away or hidden, and then
all of the offset is missing; so it is misread just if nine digits hide an offset. -/
theorem misread_iff (a : ZonedTimestamp) :
    ((∃ n, read a.text = .ok n) ↔ a.moment.IsValid ∧ a.EndsUnseen) ∧
    (∀ n, read a.text = .ok n → n = a.nanoseconds + a.zone.seconds * 10 ^ 9) ∧
    ((∃ n, read a.text = .ok n ∧ n ≠ a.nanoseconds) ↔
      a.moment.IsValid ∧ 9 ≤ a.fraction.length ∧ a.zone.seconds ≠ 0) := by
  refine ⟨⟨?_, ?_⟩, fun n => readsUtc_of_eq_ok, ?_, ?_⟩
  · rintro ⟨n, hread⟩
    obtain ⟨hvalid, hends, -⟩ := read_eq_ok_iff.mp hread
    exact ⟨hvalid, hends⟩
  · rintro ⟨hvalid, hends⟩
    exact ⟨_, read_eq_ok_iff.mpr ⟨hvalid, hends, rfl⟩⟩
  · rintro ⟨n, hread, hne⟩
    have hoffset := (ne_nanoseconds_iff hread).mp hne
    obtain ⟨hvalid, hzone | hlength, -⟩ := read_eq_ok_iff.mp hread
    · rw [hzone] at hoffset
      exact absurd rfl hoffset
    · exact ⟨hvalid, hlength, hoffset⟩
  · rintro ⟨hvalid, hlength, hoffset⟩
    have hread := read_eq_ok_iff.mpr ⟨hvalid, .inr hlength, rfl⟩
    exact ⟨_, hread, (ne_nanoseconds_iff hread).mpr hoffset⟩

/-- Ten o'clock where clocks are two hours ahead of UTC. -/
def tenAhead : ZonedTimestamp where
  moment := ⟨⟨2022, 5, 1⟩, 10, 0, 0⟩
  mark := 'T'
  fraction := "123456789".toList
  zone := .offset false 2 0
  inRange := by decide
  mem_marks := by decide
  isDigit := List.all_eq_true.mp (by decide)

example : tenAhead.text = "2022-05-01T10:00:00.123456789+02:00" := by decide +kernel

theorem not_forall_eq_nanoseconds :
    ¬ ∀ (a : ZonedTimestamp) (n : ℤ), read a.text = .ok n → n = a.nanoseconds := by
  intro hexact
  have hread : read tenAhead.text = .ok 1651399200123456789 := by decide +kernel
  exact (ne_nanoseconds_iff hread).mpr (by decide) (hexact tenAhead _ hread)

end ZonedTimestamp

end ContractDrill
