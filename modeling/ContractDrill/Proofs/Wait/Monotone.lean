import ContractDrill.Proofs.Wait.Bounds
import ContractDrill.Schedule.Basic

/-!
# Waits that are met no later

Two waits are compared that follow scripts with looks of the same lengths.  If the second has at
least as much time as the first, and its snapshots pass its test wherever those of the first pass
theirs, then it is met whenever the first is, with no more looks (`exists_returnsAfter`).

What has elapsed at a look depends on the pauses, and these depend on the time there is.  But a
pause that is cut short uses up the time, so only the last look can follow one; up to there the same
time has gone by in both waits (`elapsed_eq`).

Waits for due tasks are compared by what is due at a look: fewer tasks are asked for, or the chain
is further (`returnsAfter_untilDue`).
-/

namespace ContractDrill

/-- The schedule has the same slots as the other one, and the chain head is at least as far. -/
structure SlotSchedule.IsBehind (schedule later : SlotSchedule) : Prop where
  blockSlot : later.blockSlot = schedule.blockSlot
  blockHashes : later.blockHashes = schedule.blockHashes
  timeSlot : later.timeSlot = schedule.timeSlot
  timeHashes : later.timeHashes = schedule.timeHashes
  height : schedule.height ≤ later.height
  headTime : schedule.headTime ≤ later.headTime

/-- No fewer tasks are due when the chain is further. -/
theorem SlotSchedule.IsBehind.length_due_le {schedule later : SlotSchedule}
    (h : schedule.IsBehind later) : schedule.due.length ≤ later.due.length := by
  have hheight := h.height
  have htime := h.headTime
  rw [length_due, length_due, h.blockSlot, h.blockHashes, h.timeSlot, h.timeHashes]
  split_ifs <;> omega

namespace Polling

namespace Trial

variable {ω τ σ ε : Type} [Sub τ] [LT τ] [DecidableLT τ] [LE τ] [OfNat τ 0] [DecidableLE τ]
  {trial : Trial ω τ σ ε} {k : ℕ} {snapshot : σ}

/-- The wait returns `snapshot` with look number `k`, however many looks it is allowed.  It never
ends in another way. -/
structure ReturnsAfter (trial : Trial ω τ σ ε) (k : ℕ) (snapshot : σ) : Prop where
  goesOn : ∀ looks < k, (trial.run looks).1 = .ok none
  outcome : ∀ looks ≥ k, (trial.run looks).1 = .ok (some (.met snapshot))
  looks : ∀ looks ≥ k, (trial.run looks).2.looks.length = k

/-- A wait returns with a snapshot that passes the test, if no look before it ends the wait. -/
theorem returnsAfter_iff : trial.ReturnsAfter k snapshot ↔
    ∃ last, k = last + 1 ∧ (∀ i < last, ¬ trial.Stops i) ∧ trial.result last = .ok snapshot ∧
      trial.polling.holds snapshot = true := by
  constructor
  · intro h
    have houtcome := h.outcome k le_rfl
    obtain ⟨i, hi, hstops⟩ : ∃ i < k, trial.Stops i := by
      -- Without a look that stops the wait would still be going on.
      by_contra! hgoesOn
      rw [run_of_forall_not_stops hgoesOn] at houtcome
      cases houtcome
    obtain ⟨last, hlast, hleast⟩ := exists_isLeast_of_stops hstops
    have hend := endsAt_run hleast (hlast.trans_lt hi)
    obtain ⟨hresult, hholds⟩ := verdict_eq_met_iff.mp (hend.outcome.symm.trans houtcome)
    exact ⟨last, (h.looks k le_rfl).symm.trans hend.length_looks,
      (isLeast_stops_iff.mp hleast).1, hresult, hholds⟩
  · rintro ⟨last, rfl, hgoesOn, hresult, hholds⟩
    have hleast : IsLeast {i | trial.Stops i} last :=
      isLeast_stops_iff.mpr ⟨hgoesOn, .inr (.inl ⟨snapshot, hresult, hholds⟩)⟩
    have hend (looks : ℕ) (hlooks : looks ≥ last + 1) : trial.EndsAt last (trial.run looks) :=
      endsAt_run hleast hlooks
    refine ⟨fun looks hlooks => ?_, fun looks hlooks => ?_, fun looks hlooks => ?_⟩
    · rw [run_of_forall_not_stops fun i hi => hgoesOn i (hi.trans_le (Nat.le_of_lt_succ hlooks))]
    · exact (hend looks hlooks).outcome.trans (verdict_eq_met_iff.mpr ⟨hresult, hholds⟩)
    · exact (hend looks hlooks).length_looks

end Trial

/-! ### Scripts -/

/-- What the looks of a wait bring and how long they take, when it begins, and who listens. -/
structure Script (α σ : Type) where
  snapshot : ℕ → σ
  duration : ℕ → ℚ
  duration_nonneg : ∀ i, 0 ≤ duration i
  start : ℚ
  /-- What a listener keeps in mind, if there is one. -/
  listener : Option (σ → ℚ → α → α)
  mind : α

/-- How far a script has come. -/
structure ScriptState (α : Type) where
  time : ℚ
  looks : ℕ
  mind : α

namespace Script

variable {α σ : Type}

/-- The world that follows a script. -/
def world (script : Script α σ) : World (ScriptState α) ℚ σ Empty where
  fetch state := (.ok (script.snapshot state.looks),
    ⟨state.time + script.duration state.looks, state.looks + 1, state.mind⟩)
  now state := (state.time, state)
  pause duration state := { state with time := state.time + duration }
  listener := script.listener.map fun listener snapshot elapsed state =>
    { state with mind := listener snapshot elapsed state.mind }

/-- A wait that follows a script. -/
def trial (script : Script α σ) (polling : Polling ℚ σ) : Trial (ScriptState α) ℚ σ Empty :=
  ⟨polling, script.world, ⟨script.start, 0, script.mind⟩⟩

section

variable (script : Script α σ) (polling : Polling ℚ σ) (i : ℕ)

@[simp] theorem tell_time (snapshot : σ) (elapsed : ℚ) (state : ScriptState α) :
    (script.world.tell snapshot elapsed state).time = state.time := by
  unfold World.tell world
  cases script.listener <;> rfl

@[simp] theorem tell_looks (snapshot : σ) (elapsed : ℚ) (state : ScriptState α) :
    (script.world.tell snapshot elapsed state).looks = state.looks := by
  unfold World.tell world
  cases script.listener <;> rfl

theorem keepsTime : script.world.KeepsTime ScriptState.time where
  now_eq _ := rfl
  le_now _ := le_rfl
  le_fetch state := le_add_of_nonneg_right (script.duration_nonneg state.looks)
  le_tell _ _ _ := (script.tell_time _ _ _).ge
  pause_eq _ _ := rfl

theorem isPrompt : script.world.IsPrompt ScriptState.time where
  now_eq _ := rfl
  tell_eq := script.tell_time

/-- The world of a script counts the looks. -/
theorem looks_before : ((script.trial polling).before i).looks = i := by
  induction i with
  | zero => rfl
  | succ i ih => exact (script.tell_looks _ _ _).trans (congrArg (· + 1) ih)

theorem result_eq : (script.trial polling).result i = .ok (script.snapshot i) :=
  congrArg (fun looks => Except.ok (script.snapshot looks)) (script.looks_before polling i)

theorem elapsed_zero : (script.trial polling).elapsed 0 = script.duration 0 :=
  add_sub_cancel_left _ _

/-- From look to look the time goes on by the pause and by the length of the look. -/
theorem elapsed_succ : (script.trial polling).elapsed (i + 1) =
    (script.trial polling).elapsed i + (script.trial polling).pauseAt i +
      script.duration (i + 1) := by
  let trial := script.trial polling
  have hlook : trial.start + trial.elapsed i = (script.world.fetch (trial.before i)).2.time :=
    Trial.start_add_elapsed script.keepsTime i
  have hnext : trial.start + trial.elapsed (i + 1) =
      (script.world.fetch (trial.before (i + 1))).2.time :=
    Trial.start_add_elapsed script.keepsTime (i + 1)
  have hbehind : (trial.behind (trial.before i)).time =
      (script.world.fetch (trial.before i)).2.time :=
    Trial.time_behind_of_prompt script.isPrompt _
  have hpause : (trial.before (i + 1)).time =
      (trial.behind (trial.before i)).time + trial.pauseAt i := rfl
  have hfetch : (script.world.fetch (trial.before (i + 1))).2.time =
      (trial.before (i + 1)).time + script.duration (i + 1) :=
    congrArg (fun looks => _ + script.duration looks) (script.looks_before polling (i + 1))
  linarith

end

/-! ### Two waits -/

/-- The second wait has the interval of the first and looks of the same lengths, at least as much
time, and a test that is passed wherever the first one's is. -/
structure Easier (script : Script α σ) (polling : Polling ℚ σ) (script' : Script α σ)
    (polling' : Polling ℚ σ) : Prop where
  duration : script'.duration = script.duration
  interval : polling'.interval = polling.interval
  timeout : polling.timeout ≤ polling'.timeout
  holds : ∀ i, polling.holds (script.snapshot i) = true →
    polling'.holds (script'.snapshot i) = true

section

variable {script script' : Script α σ} {polling polling' : Polling ℚ σ} {i k : ℕ} {snapshot : σ}

theorem stops_of_holds (h : polling.holds (script.snapshot i) = true) :
    (script.trial polling).Stops i :=
  .inr (.inl ⟨_, script.result_eq polling i, h⟩)

/-- A look of a script that stops with time left was met. -/
theorem holds_of_stops (hstops : (script.trial polling).Stops i)
    (htime : (script.trial polling).elapsed i < polling.timeout) :
    polling.holds (script.snapshot i) = true := by
  by_contra hholds
  refine Trial.not_stops_iff.mpr ⟨_, script.result_eq polling i, hholds, ?_⟩ hstops
  exact not_le.mpr (sub_pos.mpr htime)

variable (heasier : Easier script polling script' polling') (hinterval : 0 < polling.interval)

include heasier hinterval

/-- At a look where the first wait goes on the same time has gone by in both. -/
theorem elapsed_eq (hgoesOn : ∀ i ≤ k, ¬ (script.trial polling).Stops i) :
    (script'.trial polling').elapsed k = (script.trial polling).elapsed k := by
  induction k with
  | zero => rw [elapsed_zero, elapsed_zero, heasier.duration]
  | succ k ih =>
    have helapsed := ih fun i hi => hgoesOn i (Nat.le_succ_of_le hi)
    have hpause : (script.trial polling).pauseAt k = polling.interval :=
      Trial.pauseAt_eq_interval hinterval script.keepsTime (hgoesOn k (Nat.le_succ k))
        (hgoesOn (k + 1) le_rfl)
    -- The first wait had a whole interval left, so the second one has.
    have hwhole : (script.trial polling).elapsed k + (script.trial polling).pauseAt k ≤
        polling.timeout := (script.trial polling).elapsed_add_pauseAt_le_timeout k
    have hleft : polling'.interval ≤ polling'.timeout - (script'.trial polling').elapsed k := by
      have htimeout := heasier.timeout
      rw [heasier.interval, helapsed]
      linarith
    have hpause' : (script'.trial polling').pauseAt k = polling.interval :=
      (Trial.pauseAt_eq_min k).trans ((min_eq_left hleft).trans heasier.interval)
    rw [elapsed_succ, elapsed_succ, helapsed, hpause, hpause', heasier.duration]

/-- The second wait is met with no more looks than the first. -/
theorem exists_returnsAfter (hreturns : (script.trial polling).ReturnsAfter k snapshot) :
    ∃ last < k, (script'.trial polling').ReturnsAfter (last + 1) (script'.snapshot last) ∧
      polling'.holds (script'.snapshot last) = true := by
  obtain ⟨bound, rfl, hgoesOn, hresult, hholds⟩ := Trial.returnsAfter_iff.mp hreturns
  rw [result_eq, Except.ok.injEq] at hresult
  subst hresult
  obtain ⟨last, hle, hleast⟩ :=
    Trial.exists_isLeast_of_stops (stops_of_holds (heasier.holds bound hholds))
  obtain ⟨hgoesOn', hstops'⟩ := Trial.isLeast_stops_iff.mp hleast
  have hholds' : polling'.holds (script'.snapshot last) = true := by
    obtain rfl | hlt := hle.eq_or_lt
    · exact heasier.holds last hholds
    -- The second wait ended earlier, but not for lack of time: the first one went on with as much
    -- of it gone by, and it had no more.
    · refine holds_of_stops hstops' ?_
      rw [elapsed_eq heasier hinterval fun i hi => hgoesOn i (hi.trans_lt hlt)]
      exact (Trial.elapsed_lt_of_not_stops (hgoesOn last hlt)).trans_le heasier.timeout
  exact ⟨last, Nat.lt_succ_of_le hle, Trial.returnsAfter_iff.mpr
    ⟨last, rfl, hgoesOn', script'.result_eq polling' last, hholds'⟩, hholds'⟩

end

/-- More time changes nothing about a wait that is met. -/
theorem ReturnsAfter.of_timeout_le {script : Script α σ} {polling : Polling ℚ σ} {k : ℕ}
    {snapshot : σ} (hinterval : 0 < polling.interval) {timeout : ℚ}
    (htimeout : polling.timeout ≤ timeout)
    (hreturns : (script.trial polling).ReturnsAfter k snapshot) :
    (script.trial { polling with timeout := timeout }).ReturnsAfter k snapshot := by
  have heasier : Easier script polling script { polling with timeout := timeout } :=
    ⟨rfl, rfl, htimeout, fun _ h => h⟩
  obtain ⟨last, hlast, hreturns', hholds⟩ := exists_returnsAfter heasier hinterval hreturns
  obtain ⟨bound, rfl, hgoesOn, hresult, -⟩ := Trial.returnsAfter_iff.mp hreturns
  rw [result_eq, Except.ok.injEq] at hresult
  obtain rfl | hlt := (Nat.le_of_lt_succ hlast).eq_or_lt
  · rwa [hresult] at hreturns'
  · have hstops : (script.trial polling).Stops last := stops_of_holds hholds
    exact absurd hstops (hgoesOn last hlt)

end Script

/-! ### Waits for due tasks -/

/-- The wait until at least `count` tasks are due. -/
def untilDue (count : ℤ) (timeout interval : ℚ) : Polling ℚ SlotSchedule :=
  ⟨(Condition.dueAtLeast count).holds, timeout, interval⟩

/-- The test for due tasks gets easier with fewer tasks to wait for and more that are due. -/
theorem untilDue_holds_of_le {count count' : ℤ} {timeout timeout' interval interval' : ℚ}
    {schedule later : SlotSchedule} (hcount : count' ≤ count)
    (hdue : schedule.due.length ≤ later.due.length)
    (h : (untilDue count timeout interval).holds schedule = true) :
    (untilDue count' timeout' interval').holds later = true := by
  simp only [untilDue, Condition.dueAtLeast, decide_eq_true_eq] at h ⊢
  omega

/-- A wait that returns with look number `k` returns the same with more time.  For fewer tasks, or
with a chain that is further at each look, it needs no more looks. -/
theorem returnsAfter_untilDue {α : Type} {script : Script α SlotSchedule} {count : ℤ}
    {timeout interval : ℚ} {k : ℕ} {schedule : SlotSchedule} (hinterval : 0 < interval)
    (hreturns : (script.trial (untilDue count timeout interval)).ReturnsAfter k schedule) :
    (∀ timeout' ≥ timeout,
      (script.trial (untilDue count timeout' interval)).ReturnsAfter k schedule) ∧
    (∀ count' ≤ count, ∃ last < k, (script.trial (untilDue count' timeout interval)).ReturnsAfter
      (last + 1) (script.snapshot last)) ∧
    ∀ later : ℕ → SlotSchedule, (∀ i, (script.snapshot i).IsBehind (later i)) →
      ∃ last < k, (Script.trial { script with snapshot := later }
        (untilDue count timeout interval)).ReturnsAfter (last + 1) (later last) := by
  refine ⟨fun timeout' htimeout => ?_, fun count' hcount => ?_, fun later hlater => ?_⟩
  · exact Script.ReturnsAfter.of_timeout_le hinterval htimeout hreturns
  · have heasier : Script.Easier script (untilDue count timeout interval)
        script (untilDue count' timeout interval) :=
      ⟨rfl, rfl, le_rfl, fun _ => untilDue_holds_of_le hcount le_rfl⟩
    obtain ⟨last, hlast, hreturns', -⟩ :=
      Script.exists_returnsAfter heasier hinterval hreturns
    exact ⟨last, hlast, hreturns'⟩
  · have heasier : Script.Easier script (untilDue count timeout interval)
        { script with snapshot := later } (untilDue count timeout interval) :=
      ⟨rfl, rfl, le_rfl, fun i => untilDue_holds_of_le le_rfl (hlater i).length_due_le⟩
    obtain ⟨last, hlast, hreturns', -⟩ :=
      Script.exists_returnsAfter heasier hinterval hreturns
    exact ⟨last, hlast, hreturns'⟩

/-- A task waits for block 15, which the chain reaches while looks are taken. -/
def Script.nearingBlock : Script Unit SlotSchedule where
  snapshot i := ⟨15, ["hash"], 0, [], 13 + i, 0⟩
  duration _ := 0
  duration_nonneg _ := le_rfl
  start := 0
  listener := none
  mind := ()

/-- Three seconds are enough, with the last pause cut short, and so are ten. -/
theorem returnsAfter_nearingBlock :
    let schedule : SlotSchedule := ⟨15, ["hash"], 0, [], 15, 0⟩
    (Script.nearingBlock.trial (untilDue 1 3 2)).ReturnsAfter 3 schedule ∧
      (Script.nearingBlock.trial (untilDue 1 10 2)).ReturnsAfter 3 schedule := by
  intro schedule
  have hgoesOn : ∀ i < 2, ¬ (Script.nearingBlock.trial (untilDue 1 3 2)).Stops i := by
    intro i hi
    obtain rfl | rfl : i = 0 ∨ i = 1 := by omega
    all_goals
      exact Trial.not_stops_iff.mpr
        ⟨_, Script.result_eq _ _ _, by decide +kernel, by decide +kernel⟩
  have hreturns : (Script.nearingBlock.trial (untilDue 1 3 2)).ReturnsAfter 3 schedule :=
    Trial.returnsAfter_iff.mpr ⟨2, rfl, hgoesOn, rfl, by decide +kernel⟩
  exact ⟨hreturns, (returnsAfter_untilDue (by norm_num) hreturns).1 10 (by norm_num)⟩

end Polling

end ContractDrill
