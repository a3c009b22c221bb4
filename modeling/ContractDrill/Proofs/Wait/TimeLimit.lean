import ContractDrill.Proofs.Number.Faithful
import ContractDrill.Proofs.Settings.Bounds
import ContractDrill.Proofs.Wait.Course
import ContractDrill.Wait.Basic
import Mathlib.Data.Rat.Floor

/-!
# The time limit of a wait

Settings that ask for polling give the wait a time limit, a double-precision number like all times
of settings.  If nothing is ever due, a wait with a finite limit gives up within a number of looks
that only depends on the limit, and a wait with an infinite one never does
(`Wait.exists_givesUpWithin_iff`).

The clock is exact, up to the numbers of the format: pauses add up without rounding, and what the
clock says is faithful to the time (`World.ShowsTime`).  Time that is left is never rounded to none,
so behind each look that goes on there is a pause of at least the least positive number
(`exists_pause_of_not_stops`), and the time goes on by that much (`timeAt_add_leastValue_le`).

Of an infinite time there is always an infinite time left, or not-a-number if the clock is at
infinity as well; neither is at most zero (`not_infinity_sub_le_zero`).
-/

namespace ContractDrill

namespace Polling

variable {ω σ ε : Type}

/-- The clock shows the time, which nothing turns back, and a pause takes exactly as long as it was
meant to. -/
structure World.ShowsTime (world : World ω Binary64 σ ε) (time : ω → ℚ) : Prop where
  now_isFaithful : ∀ state, (world.now state).1.IsFaithful (time state)
  le_now : ∀ state, time state ≤ time (world.now state).2
  le_fetch : ∀ state, time state ≤ time (world.fetch state).2
  le_tell : ∀ snapshot elapsed state, time state ≤ time (world.tell snapshot elapsed state)
  pause_eq : ∀ {duration length}, duration.value? = some length → 0 < length → ∀ state,
    time (world.pause duration state) = time state + length

namespace Trial

variable {trial : Trial ω Binary64 σ ε} {time : ω → ℚ} {timeout : ℚ} {i k : ℕ}

/-- The time behind a look. -/
def timeAt (trial : Trial ω Binary64 σ ε) (time : ω → ℚ) (i : ℕ) : ℚ :=
  time (trial.world.fetch (trial.before i)).2

theorem time_fetch_le_time_behind (htime : trial.world.ShowsTime time) (state : ω) :
    time (trial.world.fetch state).2 ≤ time (trial.behind state) := by
  unfold behind
  split
  · exact le_refl _
  · exact (htime.le_now _).trans (htime.le_tell _ _ _)

/-! ### Finite limits -/

section

variable (htime : trial.world.ShowsTime time) (horigin : time trial.origin = 0)

include htime horigin

theorem value?_start : trial.start.value? = some 0 := by
  have hstart := htime.now_isFaithful trial.origin
  rw [horigin] at hstart
  exact hstart.value?_eq (Binary64.value?_zero false)

/-- What has elapsed by the clock is faithful to the time, since the wait began at zero. -/
theorem elapsed_isFaithful (hnonneg : 0 ≤ trial.timeAt time i) :
    (trial.elapsed i).IsFaithful (trial.timeAt time i) := by
  have hstart := value?_start htime horigin
  have hreading := htime.now_isFaithful (trial.world.fetch (trial.before i)).2
  have hzero := hreading.le_of_reached (Binary64.value?_zero false) hnonneg
  unfold elapsed elapsedFrom
  -- The difference is only rounded if the clock shows a finite number.
  cases hnow : (trial.world.now (trial.world.fetch (trial.before i)).2).1 with
  | finite s m q hc =>
    rw [hnow] at hreading
    have hsub := Binary64.isFaithful_sub (x := .finite s m q hc) rfl hstart
    rw [sub_zero] at hsub
    exact hsub.trans rfl hreading
  | infinity negative =>
    rw [hnow] at hreading hzero
    cases negative with
    | false =>
      obtain ⟨_, _, _, _, heq, -⟩ := Binary64.exists_eq_finite_of_value? hstart
      rw [heq]
      exact hreading
    | true => exact absurd hzero (Binary64.not_le_neg_infinity (Binary64.value?_zero false))
  | nan =>
    rw [hnow] at hzero
    cases hzero

variable (htimeout : trial.polling.timeout.value? = some timeout)
  (hinterval : 0 < trial.polling.interval)

include htimeout

/-- Behind a look that goes on, some time is left, and it is rounded to no less than the least
positive number. -/
theorem exists_left_of_not_stops (hnonneg : 0 ≤ trial.timeAt time i) (hgoesOn : ¬ trial.Stops i) :
    trial.timeAt time i < timeout ∧
      ∃ left, (trial.polling.timeout - trial.elapsed i).value? = some left ∧
        Binary64.leastValue ≤ left := by
  obtain ⟨-, -, -, hleft⟩ := not_stops_iff.mp hgoesOn
  have helapsed := elapsed_isFaithful htime horigin hnonneg
  have hzero := helapsed.le_of_reached (Binary64.value?_zero false) hnonneg
  -- At an infinite time nothing would be left, and not-a-number is no time.
  cases hvalue : trial.elapsed i with
  | finite s m q hc =>
    rw [hvalue] at helapsed hzero hleft
    obtain ⟨e, he⟩ : ∃ e, (Binary64.finite s m q hc).value? = some e := ⟨_, rfl⟩
    have hsub := Binary64.isFaithful_sub htimeout he
    have he0 : 0 ≤ e := (Binary64.le_iff_of_value? (Binary64.value?_zero false) he).mp hzero
    have hlt : e < timeout := by
      by_contra hle
      exact hleft (hsub.le_of_notPassed (Binary64.value?_zero false) (by linarith))
    have hleast : Binary64.least ≤ trial.polling.timeout - .finite s m q hc :=
      hsub.le_of_reached Binary64.value?_least (Binary64.leastValue_le_sub htimeout he hlt)
    have hmost : trial.polling.timeout - .finite s m q hc ≤ trial.polling.timeout :=
      hsub.le_of_notPassed htimeout (by linarith)
    obtain ⟨left, hleft', hle, -⟩ :=
      Binary64.exists_value?_of_le_of_le Binary64.value?_least htimeout hleast hmost
    refine ⟨lt_of_not_ge fun hreached => ?_, left, hleft', hle⟩
    exact absurd ((Binary64.le_iff_of_value? htimeout he).mp
      (helapsed.le_of_reached htimeout hreached)) (not_le.mpr hlt)
  | infinity negative =>
    rw [hvalue] at hzero hleft
    obtain ⟨_, _, _, _, heq, -⟩ := Binary64.exists_eq_finite_of_value? htimeout
    rw [heq] at hleft
    cases negative with
    | false => exact absurd rfl hleft
    | true => cases hzero
  | nan =>
    rw [hvalue] at hzero
    cases hzero

include hinterval

/-- Behind a look that goes on, the pause is no shorter than the least positive number. -/
theorem exists_pause_of_not_stops (hnonneg : 0 ≤ trial.timeAt time i) (hgoesOn : ¬ trial.Stops i) :
    ∃ length, (trial.pauseAt i).value? = some length ∧ Binary64.leastValue ≤ length := by
  obtain ⟨-, left, hleft, hleast⟩ :=
    exists_left_of_not_stops htime horigin htimeout hnonneg hgoesOn
  unfold pauseAt pauseAfter
  split
  -- What is left is shorter than the interval, or else the interval itself is positive.
  case isTrue => exact ⟨left, hleft, hleast⟩
  case isFalse hnotless =>
    cases hvalue : trial.polling.interval with
    | finite s m q hc =>
      rw [hvalue] at hinterval
      have hpos := (Binary64.lt_iff_of_value? (Binary64.value?_zero false) rfl).mp hinterval
      have hleast' := Binary64.leastValue_le_sub (x := .finite s m q hc) rfl
        (Binary64.value?_zero false) hpos
      rw [sub_zero] at hleast'
      exact ⟨_, rfl, hleast'⟩
    | infinity negative =>
      rw [hvalue] at hinterval hnotless
      obtain ⟨_, _, _, _, heq, -⟩ := Binary64.exists_eq_finite_of_value? hleft
      rw [heq] at hnotless
      cases negative with
      | false => exact absurd rfl hnotless
      | true => cases hinterval
    | nan =>
      rw [hvalue] at hinterval
      cases hinterval

/-- With each look that goes on the time grows by the least positive number at least. -/
theorem timeAt_add_leastValue_le (hnonneg : 0 ≤ trial.timeAt time i) (hgoesOn : ¬ trial.Stops i) :
    trial.timeAt time i + Binary64.leastValue ≤ trial.timeAt time (i + 1) := by
  obtain ⟨length, hlength, hleast⟩ :=
    exists_pause_of_not_stops htime horigin htimeout hinterval hnonneg hgoesOn
  have hpause : time (trial.before (i + 1)) = time (trial.behind (trial.before i)) + length :=
    htime.pause_eq hlength (Binary64.leastValue_pos.trans_le hleast) _
  have hbehind := time_fetch_le_time_behind htime (trial.before i)
  have hfetch := htime.le_fetch (trial.before (i + 1))
  unfold timeAt
  linarith

/-- Many looks that go on take a long time. -/
theorem mul_leastValue_le_timeAt (hgoesOn : ∀ i < k, ¬ trial.Stops i) :
    k * Binary64.leastValue ≤ trial.timeAt time k := by
  -- The looks so far show that the time is not negative, which the next step needs.
  induction k with
  | zero =>
    have hnow := htime.le_now trial.origin
    have hfetch := htime.le_fetch (trial.before 0)
    rw [before] at hfetch
    rw [Nat.cast_zero, zero_mul, ← horigin]
    exact hnow.trans hfetch
  | succ k ih =>
    have hle := ih fun i hi => hgoesOn i (Nat.lt_succ_of_lt hi)
    have hnonneg : 0 ≤ trial.timeAt time k :=
      (mul_nonneg (Nat.cast_nonneg _) Binary64.leastValue_pos.le).trans hle
    have hstep := timeAt_add_leastValue_le htime horigin htimeout hinterval hnonneg
      (hgoesOn k (Nat.lt_succ_self k))
    push_cast
    linarith

/-- A wait with a finite limit does not go on for ever. -/
theorem exists_isLeast_stops_of_finite :
    ∃ k ≤ ⌈timeout / Binary64.leastValue⌉₊, IsLeast {i | trial.Stops i} k := by
  have hstops : ∃ i ≤ ⌈timeout / Binary64.leastValue⌉₊, trial.Stops i := by
    -- Else the time behind that many looks would have passed the limit.
    by_contra! hgoesOn
    have hle := mul_leastValue_le_timeAt htime horigin htimeout hinterval
      fun i hi => hgoesOn i (Nat.le_of_lt hi)
    have hnonneg := (mul_nonneg (Nat.cast_nonneg _) Binary64.leastValue_pos.le).trans hle
    obtain ⟨hlt, -⟩ := exists_left_of_not_stops htime horigin htimeout hnonneg
      (hgoesOn _ le_rfl)
    have hceil := (div_le_iff₀ Binary64.leastValue_pos).mp
      (Nat.le_ceil (timeout / Binary64.leastValue))
    linarith
  obtain ⟨i, hi, hstop⟩ := hstops
  obtain ⟨k, hk, hleast⟩ := exists_isLeast_of_stops hstop
  exact ⟨k, hk.trans hi, hleast⟩

end

/-! ### Infinite limits -/

/-- An infinite time is never used up. -/
theorem not_infinity_sub_le_zero (x : Binary64) : ¬ Binary64.infinity false - x ≤ 0 := by
  cases x with
  | finite s m q hc => exact Bool.false_ne_true
  | infinity negative => cases negative <;> exact Bool.false_ne_true
  | nan => exact Bool.false_ne_true

/-- With an infinite limit only the test or a failure stops a look. -/
theorem not_stops_of_infinite (htimeout : trial.polling.timeout = .infinity false) {snapshot : σ}
    (hresult : trial.result i = .ok snapshot) (hholds : ¬ trial.polling.holds snapshot = true) :
    ¬ trial.Stops i := by
  refine not_stops_iff.mpr ⟨snapshot, hresult, hholds, ?_⟩
  rw [htimeout]
  exact not_infinity_sub_le_zero _

end Trial

end Polling

/-! ### Waits of settings -/

namespace Wait

/-- The polling that a wait does, if it does not just pause. -/
def polling? : Wait → Option (Polling Binary64 SlotSchedule)
  | delay _ => none
  | polling condition timeout interval => some ⟨condition.holds, timeout, interval⟩

/-- Settings with a time limit poll with it and with their interval. -/
theorem polling?_ofSettings {settings : Settings} (hpoll : 0 < settings.pollTimeout)
    (condition : Condition) :
    (ofSettings settings condition).polling? =
      some ⟨condition.holds, settings.pollTimeout, settings.pollInterval⟩ := by
  unfold ofSettings
  rw [if_pos hpoll]
  rfl

/-- If nothing is ever due, the wait gives up within the looks it is allowed, whatever else happens
and however long the looks take; the clock is at zero when the wait begins. -/
def GivesUpWithin (wait : Wait) (looks : ℕ) : Prop :=
  ∀ {ω ε : Type} {trial : Polling.Trial ω Binary64 SlotSchedule ε} {time : ω → ℚ},
    wait.polling? = some trial.polling → trial.world.ShowsTime time → time trial.origin = 0 →
    (∀ state, ∃ schedule, (trial.world.fetch state).1 = .ok schedule ∧ schedule.due = []) →
    ∃ elapsed, (trial.run looks).1 = .ok (some (.timedOut elapsed))

theorem not_holds_dueAtLeast_one {schedule : SlotSchedule} (h : schedule.due = []) :
    ¬ (Condition.dueAtLeast 1).holds schedule = true := by
  simp [Condition.dueAtLeast, h]

/-- A finite limit is over within a number of looks that depends on nothing else. -/
theorem exists_givesUpWithin_of_finite {settings : Settings} (hbounds : settings.InBounds)
    (hpoll : 0 < settings.pollTimeout) (hfinite : settings.pollTimeout.isFinite = true) :
    ∃ looks, (ofSettings settings (.dueAtLeast 1)).GivesUpWithin looks := by
  obtain ⟨timeout, htimeout⟩ := Binary64.exists_value?_of_isFinite hfinite
  refine ⟨⌈timeout / Binary64.leastValue⌉₊ + 1, ?_⟩
  intro ω ε trial time hpolling htime horigin hdue
  rw [polling?_ofSettings hpoll] at hpolling
  have hpolling := (Option.some.inj hpolling).symm
  have hlimit : trial.polling.timeout.value? = some timeout := by
    rw [hpolling]
    exact htimeout
  have hinterval : 0 < trial.polling.interval := by
    rw [hpolling]
    exact hbounds.pollInterval
  obtain ⟨k, hk, hleast⟩ :=
    Polling.Trial.exists_isLeast_stops_of_finite htime horigin hlimit hinterval
  obtain ⟨schedule, hfetch, hnone⟩ := hdue (trial.before k)
  refine ⟨trial.elapsed k, ?_⟩
  rw [(Polling.Trial.endsAt_run hleast (Nat.lt_succ_of_le hk)).outcome,
    Polling.Trial.verdict_eq_timedOut_iff]
  refine ⟨⟨schedule, hfetch, ?_⟩, rfl⟩
  rw [hpolling]
  exact not_holds_dueAtLeast_one hnone

/-! ### A world without tasks -/

/-- A world in which only the pauses take time, and nothing is ever due.  A pause that is no number
leads behind all numbers of the format. -/
def idleWorld : Polling.World ℚ Binary64 SlotSchedule Empty where
  fetch time := (.ok .empty, time)
  now time := (.nearest time, time)
  pause duration time := time + duration.value?.getD (2 ^ 1024)
  listener := none

theorem showsTime_idleWorld : idleWorld.ShowsTime id where
  now_isFaithful time := Binary64.isFaithful_nearest time
  le_now _ := le_rfl
  le_fetch _ := le_rfl
  le_tell _ _ _ := le_rfl
  pause_eq h _ time := by
    simp only [idleWorld, h, Option.getD_some, id]

theorem due_empty : SlotSchedule.empty.due = [] := rfl

/-- A polling in the world without tasks, from time zero on. -/
def idleTrial (polling : Polling Binary64 SlotSchedule) :
    Polling.Trial ℚ Binary64 SlotSchedule Empty :=
  ⟨polling, idleWorld, 0⟩

/-- With an infinite limit, the looks in the world without tasks do not come to an end. -/
theorem run_idleTrial_of_infinite {settings : Settings}
    (hinfinite : settings.pollTimeout = .infinity false) (looks : ℕ) :
    ((idleTrial ⟨(Condition.dueAtLeast 1).holds, settings.pollTimeout,
      settings.pollInterval⟩).run looks).1 = .ok none := by
  rw [Polling.Trial.run_of_forall_not_stops fun i _ =>
    Polling.Trial.not_stops_of_infinite hinfinite rfl (not_holds_dueAtLeast_one due_empty)]

/-- With an infinite limit the wait is still going on after any number of looks. -/
theorem not_givesUpWithin_of_infinite {settings : Settings} (hpoll : 0 < settings.pollTimeout)
    (hinfinite : settings.pollTimeout = .infinity false) (looks : ℕ) :
    ¬ (ofSettings settings (.dueAtLeast 1)).GivesUpWithin looks := by
  intro hgivesUp
  have hpolling : (ofSettings settings (.dueAtLeast 1)).polling? =
      some (idleTrial ⟨(Condition.dueAtLeast 1).holds, settings.pollTimeout,
        settings.pollInterval⟩).polling :=
    polling?_ofSettings hpoll _
  obtain ⟨elapsed, hrun⟩ := hgivesUp hpolling showsTime_idleWorld rfl
    fun state => ⟨.empty, rfl, due_empty⟩
  rw [run_idleTrial_of_infinite hinfinite] at hrun
  cases hrun

/-! ### Environments with a time limit -/

/-- The environment that only sets the time limit. -/
def limitedTo (text : String) (name : String) : Option String :=
  if name = "CRONCAT_POLL_TIMEOUT" then some text else none

theorem overrides_limitedTo {text : String} (htext : allBlank text = false) :
    Settings.overrides (limitedTo text) = [("poll_timeout", .string text)] := by
  simp [Settings.overrides, Settings.environmentVariables, limitedTo, Settings.override?, htext]

/-- The time limit may be any number that is not negative. -/
theorem ofEnvironment_limitedTo {text : String} {timeout : Binary64}
    (htext : allBlank text = false) (hread : readNumber text.toList = some timeout)
    (hnonneg : 0 ≤ timeout) :
    Settings.ofEnvironment (limitedTo text) =
      .valid { Settings.default with pollTimeout := timeout } := by
  have hfield : Schema.nonnegative (.string text) = .valid timeout := by
    simp [Schema.nonnegative, Schema.number, Verdict.andThen, hread, hnonneg]
  unfold Settings.ofEnvironment
  rw [overrides_limitedTo htext]
  simp [Settings.ofJson, Schema.record, Schema.optional, Json.Members.get?, List.lookup_cons,
    hfield]

/-- The wait of accepted settings gives up within some number of looks just if its time limit is
finite.  Settings with an infinite limit are accepted too. -/
theorem exists_givesUpWithin_iff {environment : String → Option String} {settings : Settings}
    (h : Settings.ofEnvironment environment = .valid settings)
    (hpoll : 0 < settings.pollTimeout) :
    (∃ looks, (ofSettings settings (.dueAtLeast 1)).GivesUpWithin looks) ↔
      settings.pollTimeout.isFinite = true := by
  constructor
  · rintro ⟨looks, hgivesUp⟩
    by_contra hnot
    have hinfinite := Binary64.eq_infinity_of_pos hpoll hnot
    exact not_givesUpWithin_of_infinite hpoll hinfinite looks hgivesUp
  · exact exists_givesUpWithin_of_finite (Settings.inBounds_of_ofEnvironment h) hpoll

theorem exists_givesUpWithin_five :
    Settings.ofEnvironment (limitedTo "5") =
        .valid { Settings.default with pollTimeout := .ofInt 5 } ∧
      0 < Binary64.ofInt 5 ∧
      ∃ looks, (ofSettings { Settings.default with pollTimeout := .ofInt 5 }
        (.dueAtLeast 1)).GivesUpWithin looks := by
  have hread : readNumber "5".toList = some (.ofInt 5) := by decide +kernel
  have hsettings := ofEnvironment_limitedTo (by decide +kernel) hread (by decide +kernel)
  have hpoll : 0 < Binary64.ofInt 5 := by decide +kernel
  exact ⟨hsettings, hpoll, (exists_givesUpWithin_iff hsettings hpoll).mpr rfl⟩

/-- The environment may ask for a wait that never gives up. -/
theorem not_forall_exists_givesUpWithin :
    ¬ ∀ (environment : String → Option String) (settings : Settings),
      Settings.ofEnvironment environment = .valid settings → 0 < settings.pollTimeout →
      ∃ looks, (ofSettings settings (.dueAtLeast 1)).GivesUpWithin looks := by
  intro hbounded
  have hread : readNumber "inf".toList = some (.infinity false) := by decide +kernel
  have hsettings := ofEnvironment_limitedTo (by decide +kernel) hread rfl
  obtain ⟨looks, hgivesUp⟩ := hbounded _ _ hsettings rfl
  exact not_givesUpWithin_of_infinite rfl rfl looks hgivesUp

end Wait

end ContractDrill
