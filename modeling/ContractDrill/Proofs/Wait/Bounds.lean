import ContractDrill.Proofs.Wait.Course
import Mathlib.Data.Rat.Floor
import Mathlib.Tactic.Linarith
import Mathlib.Tactic.NormNum

/-!
# The bounds of a wait

Times are exact here, and the clock shows the time of the world: it never runs backwards, and a
pause takes as long as it was meant to (`World.KeepsTime`).  Looks may take any time.

All bounds come from one step, `elapsed_add_pauseAt_le`: behind a look that goes on, what has
elapsed grows by the pause at least.  A pause that is cut short uses up the time, so with the next
look the wait is over.  Hence a look that goes on has whole intervals before it
(`interval_mul_le_elapsed`), and there is room for only so many of them.
-/

namespace ContractDrill

namespace Polling

variable {ω σ ε : Type}

/-- The clock shows the time, which nothing turns back, and a pause takes as long as it was meant
to. -/
structure World.KeepsTime (world : World ω ℚ σ ε) (time : ω → ℚ) : Prop where
  now_eq : ∀ state, (world.now state).1 = time state
  le_now : ∀ state, time state ≤ time (world.now state).2
  le_fetch : ∀ state, time state ≤ time (world.fetch state).2
  le_tell : ∀ snapshot elapsed state, time state ≤ time (world.tell snapshot elapsed state)
  pause_eq : ∀ {duration}, 0 < duration → ∀ state,
    time (world.pause duration state) = time state + duration

/-- Nothing takes time but looks and pauses. -/
structure World.IsPrompt (world : World ω ℚ σ ε) (time : ω → ℚ) : Prop where
  now_eq : ∀ state, time (world.now state).2 = time state
  tell_eq : ∀ snapshot elapsed state, time (world.tell snapshot elapsed state) = time state

namespace Trial

variable {trial : Trial ω ℚ σ ε} {time : ω → ℚ} {i k : ℕ}

/-- If clock and listener take no time, a look takes as long as its fetch. -/
theorem time_behind_of_prompt (hprompt : trial.world.IsPrompt time) (state : ω) :
    time (trial.behind state) = time (trial.world.fetch state).2 := by
  unfold behind
  split
  · rfl
  · rw [hprompt.tell_eq, hprompt.now_eq]

/-! ### One look -/

section

variable (htime : trial.world.KeepsTime time)

include htime

theorem start_eq : trial.start = time trial.origin := htime.now_eq _

/-- What has elapsed is the time from the start to the end of the fetch. -/
theorem start_add_elapsed (i : ℕ) :
    trial.start + trial.elapsed i = time (trial.world.fetch (trial.before i)).2 := by
  unfold elapsed elapsedFrom
  rw [htime.now_eq, add_sub_cancel]

theorem elapsed_zero_nonneg : 0 ≤ trial.elapsed 0 := by
  have hnow := htime.le_now trial.origin
  have hfetch := htime.le_fetch (trial.before 0)
  have helapsed := start_add_elapsed htime 0
  rw [start_eq htime] at helapsed
  rw [before] at hfetch helapsed
  linarith

theorem time_fetch_le_behind (state : ω) :
    time (trial.world.fetch state).2 ≤ time (trial.behind state) := by
  unfold behind
  split
  · exact le_refl _
  · exact (htime.le_now _).trans (htime.le_tell _ _ _)

end

theorem pauseAt_eq_min (i : ℕ) : trial.pauseAt i =
    min trial.polling.interval (trial.polling.timeout - trial.elapsed i) :=
  pauseAfter_eq_min _ _

theorem elapsed_lt_of_not_stops (hgoesOn : ¬ trial.Stops i) :
    trial.elapsed i < trial.polling.timeout := by
  obtain ⟨-, -, -, htime⟩ := not_stops_iff.mp hgoesOn
  linarith

theorem pauseAt_le_interval (i : ℕ) : trial.pauseAt i ≤ trial.polling.interval := by
  rw [pauseAt_eq_min]
  exact min_le_left _ _

/-- A pause never leads past the time limit. -/
theorem elapsed_add_pauseAt_le_timeout (i : ℕ) :
    trial.elapsed i + trial.pauseAt i ≤ trial.polling.timeout := by
  have hle := min_le_right trial.polling.interval (trial.polling.timeout - trial.elapsed i)
  rw [← pauseAt_eq_min] at hle
  linarith

section

variable (hinterval : 0 < trial.polling.interval)

include hinterval

theorem pauseAt_pos (hgoesOn : ¬ trial.Stops i) : 0 < trial.pauseAt i := by
  rw [pauseAt_eq_min]
  exact lt_min hinterval (sub_pos.mpr (elapsed_lt_of_not_stops hgoesOn))

variable (htime : trial.world.KeepsTime time)

include htime

theorem time_before_succ (hgoesOn : ¬ trial.Stops i) :
    time (trial.before (i + 1)) = time (trial.behind (trial.before i)) + trial.pauseAt i :=
  htime.pause_eq (pauseAt_pos hinterval hgoesOn) _

/-- Behind a look that goes on, what has elapsed grows by the pause at least. -/
theorem elapsed_add_pauseAt_le (hgoesOn : ¬ trial.Stops i) :
    trial.elapsed i + trial.pauseAt i ≤ trial.elapsed (i + 1) := by
  have hlook := start_add_elapsed htime i
  have hnext := start_add_elapsed htime (i + 1)
  have hbehind := time_fetch_le_behind htime (trial.before i)
  have hpause := time_before_succ hinterval htime hgoesOn
  have hfetch := htime.le_fetch (trial.before (i + 1))
  linarith

/-- Between two looks that go on, the pause is a whole interval. -/
theorem pauseAt_eq_interval (hgoesOn : ¬ trial.Stops i) (hnext : ¬ trial.Stops (i + 1)) :
    trial.pauseAt i = trial.polling.interval := by
  rw [pauseAt_eq_min]
  refine min_eq_left (le_of_not_gt fun hcut => ?_)
  have hpause : trial.pauseAt i = trial.polling.timeout - trial.elapsed i :=
    (pauseAt_eq_min i).trans (min_eq_right hcut.le)
  have hstep := elapsed_add_pauseAt_le hinterval htime hgoesOn
  have hlt := elapsed_lt_of_not_stops hnext
  linarith

/-! ### The whole wait -/

/-- A look that goes on has a whole interval for each look before it. -/
theorem interval_mul_le_elapsed (hgoesOn : ∀ i ≤ k, ¬ trial.Stops i) :
    k * trial.polling.interval ≤ trial.elapsed k := by
  -- A pause in front of a look that goes on was not cut short, so it was a whole interval.
  induction k with
  | zero => simpa using elapsed_zero_nonneg htime
  | succ k ih =>
    have hk : ¬ trial.Stops k := hgoesOn k (Nat.le_succ k)
    have hle := ih fun i hi => hgoesOn i (Nat.le_succ_of_le hi)
    have hstep := elapsed_add_pauseAt_le hinterval htime hk
    rw [pauseAt_eq_interval hinterval htime hk (hgoesOn (k + 1) le_rfl)] at hstep
    push_cast
    linarith

/-- There is room for so many looks that go on. -/
theorem lt_ceil_of_not_stops (hgoesOn : ∀ i ≤ k, ¬ trial.Stops i) :
    k < ⌈max trial.polling.timeout 0 / trial.polling.interval⌉₊ := by
  rw [Nat.lt_ceil, lt_div_iff₀ hinterval]
  calc k * trial.polling.interval
    _ ≤ trial.elapsed k := interval_mul_le_elapsed hinterval htime hgoesOn
    _ < trial.polling.timeout := elapsed_lt_of_not_stops (hgoesOn k le_rfl)
    _ ≤ max trial.polling.timeout 0 := le_max_left _ _

/-- One of the first looks stops, as there is no room for more intervals in the time. -/
theorem exists_isLeast_stops :
    ∃ k ≤ ⌈max trial.polling.timeout 0 / trial.polling.interval⌉₊,
      IsLeast {i | trial.Stops i} k := by
  have hstops : ∃ i ≤ ⌈max trial.polling.timeout 0 / trial.polling.interval⌉₊, trial.Stops i := by
    by_contra! hgoesOn
    exact lt_irrefl _ (lt_ceil_of_not_stops hinterval htime hgoesOn)
  obtain ⟨i, hi, hstop⟩ := hstops
  obtain ⟨k, hk, hleast⟩ := exists_isLeast_of_stops hstop
  exact ⟨k, hk.trans hi, hleast⟩

theorem sum_pauseAt_le_elapsed (hgoesOn : ∀ i < k, ¬ trial.Stops i) :
    ((List.range k).map trial.pauseAt).sum ≤ trial.elapsed k := by
  induction k with
  | zero => simpa using elapsed_zero_nonneg htime
  | succ k ih =>
    have hsum := ih fun i hi => hgoesOn i (Nat.lt_succ_of_lt hi)
    have hstep := elapsed_add_pauseAt_le hinterval htime (hgoesOn k (Nat.lt_succ_self k))
    rw [List.range_succ, List.map_append, List.sum_append, List.map_singleton, List.sum_singleton]
    linarith

/-- The pauses together are no longer than the time limit, if it is not negative. -/
theorem sum_pauseAt_le (hgoesOn : ∀ i < k, ¬ trial.Stops i) :
    ((List.range k).map trial.pauseAt).sum ≤ max trial.polling.timeout 0 := by
  cases k with
  | zero => simp
  | succ k =>
    have hsum := sum_pauseAt_le_elapsed hinterval htime fun i hi =>
      hgoesOn i (Nat.lt_succ_of_lt hi)
    have hcut := trial.elapsed_add_pauseAt_le_timeout k
    rw [List.range_succ, List.map_append, List.sum_append, List.map_singleton, List.sum_singleton]
    exact le_max_of_le_left (by linarith)

/-- In a prompt world no look begins behind the time limit. -/
theorem time_before_le (hprompt : trial.world.IsPrompt time) (hgoesOn : ∀ i < k, ¬ trial.Stops i) :
    time (trial.before k) ≤ trial.start + max trial.polling.timeout 0 := by
  cases k with
  | zero =>
    have hnow := hprompt.now_eq trial.origin
    have hmax := le_max_right trial.polling.timeout 0
    rw [start_eq htime, before]
    linarith
  | succ k =>
    have hpause := time_before_succ hinterval htime (hgoesOn k (Nat.lt_succ_self k))
    have hlook := start_add_elapsed htime k
    have hcut := trial.elapsed_add_pauseAt_le_timeout k
    have hmax := le_max_left trial.polling.timeout 0
    rw [time_behind_of_prompt hprompt] at hpause
    -- The pause in front of the look was cut at the limit.
    linarith

end

/-- What a wait on a clock that keeps time never exceeds. -/
structure IsBounded (trial : Trial ω ℚ σ ε) (time : ω → ℚ)
    (ending : Except ε (Option (Outcome ℚ σ)) × Watched ω ℚ σ) : Prop where
  ends : ending.1 ≠ .ok none
  length_looks_le :
    ending.2.looks.length ≤ ⌈max trial.polling.timeout 0 / trial.polling.interval⌉₊ + 1
  pause_pos : ∀ duration ∈ ending.2.pauses, 0 < duration
  pause_le : ∀ duration ∈ ending.2.pauses, duration ≤ trial.polling.interval
  sum_pauses_le : ending.2.pauses.sum ≤ max trial.polling.timeout 0
  /-- No look begins too late, unless someone else takes time between the looks. -/
  look_le : trial.world.IsPrompt time →
    ∀ state ∈ ending.2.looks, time state ≤ trial.start + max trial.polling.timeout 0
  /-- A wait that gives up has taken all its time, by its own account and by the clock. -/
  timedOut : ∀ elapsed, ending.1 = .ok (some (.timedOut elapsed)) →
    trial.polling.timeout ≤ elapsed ∧ trial.start + elapsed ≤ time ending.2.state

/-- A wait that gives up has run out of time. -/
theorem timeout_le_of_timedOut {elapsed : ℚ} (hstops : trial.Stops i)
    (hverdict : trial.verdict i = .ok (some (.timedOut elapsed))) :
    trial.polling.timeout ≤ trial.elapsed i := by
  obtain ⟨⟨snapshot, hresult, hholds⟩, -⟩ := verdict_eq_timedOut_iff.mp hverdict
  by_contra hlt
  refine not_stops_iff.mpr ⟨snapshot, hresult, hholds, ?_⟩ hstops
  linarith

theorem isBounded_run (htime : trial.world.KeepsTime time) (hinterval : 0 < trial.polling.interval)
    {looks : ℕ} (hlooks : ⌈max trial.polling.timeout 0 / trial.polling.interval⌉₊ < looks) :
    trial.IsBounded time (trial.run looks) := by
  obtain ⟨k, hk, hleast⟩ := exists_isLeast_stops hinterval htime
  have hend := endsAt_run hleast (hk.trans_lt hlooks)
  have hstate : (trial.run looks).2.state = trial.behind (trial.before k) := by
    rw [run_of_isLeast hleast (hk.trans_lt hlooks)]
  have hgoesOn : ∀ i < k, ¬ trial.Stops i := (isLeast_stops_iff.mp hleast).1
  -- The bounds in the order of the fields, each from the looks that go on before the last one.
  refine ⟨?_, ?_, ?_, ?_, ?_, ?_, ?_⟩
  · rw [hend.outcome]
    exact verdict_ne_none
  · rw [hend.length_looks]
    exact Nat.succ_le_succ hk
  · rw [hend.pauses]
    intro duration hduration
    obtain ⟨i, hi, rfl⟩ := List.mem_map.mp hduration
    exact pauseAt_pos hinterval (hgoesOn i (List.mem_range.mp hi))
  · rw [hend.pauses]
    intro duration hduration
    obtain ⟨i, -, rfl⟩ := List.mem_map.mp hduration
    exact trial.pauseAt_le_interval i
  · rw [hend.pauses]
    exact sum_pauseAt_le hinterval htime hgoesOn
  · rw [hend.looks]
    intro hprompt state hstate
    obtain ⟨i, hi, rfl⟩ := List.mem_map.mp hstate
    have hle : i ≤ k := Nat.le_of_lt_succ (List.mem_range.mp hi)
    exact time_before_le hinterval htime hprompt fun j hj => hgoesOn j (hj.trans_le hle)
  · intro elapsed houtcome
    rw [hend.outcome] at houtcome
    have hle := timeout_le_of_timedOut hleast.1 houtcome
    obtain ⟨-, rfl⟩ := verdict_eq_timedOut_iff.mp houtcome
    refine ⟨hle, ?_⟩
    rw [hstate, start_add_elapsed htime]
    exact time_fetch_le_behind htime _

end Trial

/-- A world in which only pauses take time.  Its state is the time. -/
def World.idle : World ℚ ℚ Unit Empty where
  fetch time := (.ok (), time)
  now time := (time, time)
  pause duration time := time + duration
  listener := none

theorem World.keepsTime_idle : World.idle.KeepsTime id where
  now_eq _ := rfl
  le_now _ := le_rfl
  le_fetch _ := le_rfl
  le_tell _ _ _ := le_rfl
  pause_eq _ _ := rfl

theorem World.isPrompt_idle : World.idle.IsPrompt id := ⟨fun _ => rfl, fun _ _ _ => rfl⟩

/-- Five seconds in vain, with a look every two: the bound on the looks is reached, and the last
pause is cut short. -/
theorem Trial.isBounded_idle :
    let trial : Trial ℚ ℚ Unit Empty := ⟨⟨fun _ => false, 5, 2⟩, World.idle, 0⟩
    trial.IsBounded id (trial.run 4) ∧ World.idle.IsPrompt id ∧
      (trial.run 4).2.looks = [0, 2, 4, 5] ∧ (trial.run 4).2.pauses = [2, 2, 1] := by
  have hceil : ⌈max 5 0 / (2 : ℚ)⌉₊ ≤ 3 := Nat.ceil_le.mpr (by norm_num)
  exact ⟨Trial.isBounded_run World.keepsTime_idle (by norm_num) (Nat.lt_succ_of_le hceil),
    World.isPrompt_idle, by decide +kernel, by decide +kernel⟩

end Polling

end ContractDrill
