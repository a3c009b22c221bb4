import ContractDrill.Wait.Polling
import Mathlib.Data.List.Basic
import Mathlib.Data.Nat.Find
import Mathlib.Order.Bounds.Basic

/-!
# The course of a wait

A wait takes place in a `World`: what a look brings and how long it takes, what the clock says, and
what a pause and a listener do, may all depend on all that was done before.  A `Trial` is a wait in
a world.  Its course is what the looks would be if none of them ended the wait: `before i` is the
world at look `i`, `result i` what the look brings, and `elapsed i` what the clock says behind it.

The wait is over with the first look that stops it (`Stops`): one that fails, one whose snapshot
passes the test, or one behind which no time is left.  `followsCourse` says what happens up to
there, event by event, and that a wait without such a look goes on for ever.

The proof is an induction on the looks that go on (`run_of_goesOn`).  One look is one rewrite, for
each of the two ways it can end: `runFrom_succ_of_stops` and `runFrom_succ_of_not_stops`.
-/

namespace ContractDrill

namespace Polling

/-- The world that a wait takes place in, with states `ω`.  A look at it brings a snapshot or fails,
and everything may lead to another state. -/
structure World (ω τ σ ε : Type) where
  fetch : ω → Except ε σ × ω
  now : ω → τ × ω
  pause : τ → ω → ω
  /-- Who is told of each snapshot, if anyone is. -/
  listener : Option (σ → τ → ω → ω)

/-- What is done during a wait. -/
inductive Event (ω τ σ : Type) where
  /-- A look at the world in the given state. -/
  | looked (state : ω)
  | told (snapshot : σ) (elapsed : τ)
  | paused (duration : τ)

namespace Event

variable {ω τ σ : Type}

/-- The state in which a look begins. -/
def look? : Event ω τ σ → Option ω
  | looked state => some state
  | _ => none

/-- What a listener is told. -/
def told? : Event ω τ σ → Option (σ × τ)
  | told snapshot elapsed => some (snapshot, elapsed)
  | _ => none

/-- The length of a pause. -/
def pause? : Event ω τ σ → Option τ
  | paused duration => some duration
  | _ => none

end Event

/-- A world, and what was done in it. -/
structure Watched (ω τ σ : Type) where
  state : ω
  events : List (Event ω τ σ)

namespace Watched

variable {ω τ σ : Type} (watched : Watched ω τ σ)

/-- The states in which the looks began. -/
def looks : List ω := watched.events.filterMap Event.look?

/-- What was told of the snapshots. -/
def told : List (σ × τ) := watched.events.filterMap Event.told?

/-- How long the pauses were. -/
def pauses : List τ := watched.events.filterMap Event.pause?

end Watched

/-- The monad of what is done in a world. -/
abbrev WatchedM (ω τ σ ε : Type) := ExceptT ε (StateM (Watched ω τ σ))

namespace World

variable {ω τ σ ε : Type}

/-- What a listener makes of the world. -/
def tell (world : World ω τ σ ε) (snapshot : σ) (elapsed : τ) (state : ω) : ω :=
  match world.listener with
  | some listener => listener snapshot elapsed state
  | none => state

/-- That a listener is told, if there is one. -/
def tellings (world : World ω τ σ ε) (snapshot : σ) (elapsed : τ) : List (Event ω τ σ) :=
  match world.listener with
  | some _ => [.told snapshot elapsed]
  | none => []

/-- The world as the surroundings of a wait, which keep an account of what is done. -/
def surroundings (world : World ω τ σ ε) : Surroundings (WatchedM ω τ σ ε) τ σ where
  fetch := do
    let watched ← get
    let (result, state) := world.fetch watched.state
    set (Watched.mk state (watched.events ++ [.looked watched.state]))
    match result with
    | .ok snapshot => return snapshot
    | .error error => throw error
  now := do
    let watched ← get
    let (time, state) := world.now watched.state
    set (Watched.mk state watched.events)
    return time
  report snapshot elapsed :=
    modify fun watched =>
      ⟨world.tell snapshot elapsed watched.state, watched.events ++ world.tellings snapshot elapsed⟩
  pause duration :=
    modify fun watched =>
      ⟨world.pause duration watched.state, watched.events ++ [.paused duration]⟩

/-! ### Actions -/

section

variable {α β : Type} (world : World ω τ σ ε) (watched : Watched ω τ σ)

@[simp] theorem run_pure (value : α) :
    (pure value : WatchedM ω τ σ ε α).run watched = (.ok value, watched) := rfl

theorem run_bind (x : WatchedM ω τ σ ε α) (f : α → WatchedM ω τ σ ε β) :
    (x >>= f).run watched =
      match x.run watched with
      | (.ok value, between) => (f value).run between
      | (.error error, between) => (.error error, between) := by
  unfold ExceptT.run
  simp only [bind, ExceptT.bind, ExceptT.mk, StateT.bind, ExceptT.bindCont]
  cases x watched with
  | mk result between => cases result <;> rfl

/-- A look is noted with the world in which it began, whatever it brings. -/
theorem run_fetch : world.surroundings.fetch.run watched =
    ((world.fetch watched.state).1,
      ⟨(world.fetch watched.state).2, watched.events ++ [.looked watched.state]⟩) := by
  have hrun : world.surroundings.fetch.run watched =
      (match (world.fetch watched.state).1 with
        | .ok snapshot => pure snapshot
        | .error error => throw error : WatchedM ω τ σ ε σ).run
        ⟨(world.fetch watched.state).2, watched.events ++ [.looked watched.state]⟩ := rfl
  rw [hrun]
  cases (world.fetch watched.state).1 <;> rfl

@[simp] theorem run_now : world.surroundings.now.run watched =
    (.ok (world.now watched.state).1, ⟨(world.now watched.state).2, watched.events⟩) := rfl

@[simp] theorem run_report (snapshot : σ) (elapsed : τ) :
    (world.surroundings.report snapshot elapsed).run watched =
      (.ok (), ⟨world.tell snapshot elapsed watched.state,
        watched.events ++ world.tellings snapshot elapsed⟩) := rfl

@[simp] theorem run_surroundings_pause (duration : τ) :
    (world.surroundings.pause duration).run watched =
      (.ok (), ⟨world.pause duration watched.state, watched.events ++ [.paused duration]⟩) := rfl

end

end World

section

variable {τ σ : Type} [Sub τ] [LT τ] [LE τ] [OfNat τ 0] [DecidableLT τ] [DecidableLE τ]

/-- The pause behind a look that does not end the wait: the interval, or what is left of the time if
that is less. -/
def pauseAfter (polling : Polling τ σ) (elapsed : τ) : τ :=
  if polling.timeout - elapsed < polling.interval then polling.timeout - elapsed
  else polling.interval

theorem next_eq (polling : Polling τ σ) (snapshot : σ) (elapsed : τ) :
    polling.next snapshot elapsed =
      if polling.holds snapshot = true then .done (.met snapshot)
      else if polling.timeout - elapsed ≤ 0 then .done (.timedOut elapsed)
      else .pause (polling.pauseAfter elapsed) := rfl

end

/-- A pause is the interval, or the time that is left if that is shorter. -/
theorem pauseAfter_eq_min {τ σ : Type} [Sub τ] [LinearOrder τ] (polling : Polling τ σ)
    (elapsed : τ) :
    polling.pauseAfter elapsed = min polling.interval (polling.timeout - elapsed) := by
  unfold pauseAfter
  split
  case isTrue h => exact (min_eq_right h.le).symm
  case isFalse h => exact (min_eq_left (not_lt.mp h)).symm

/-! ### Trials -/

/-- A wait in a world, which begins in the state `origin`. -/
structure Trial (ω τ σ ε : Type) where
  polling : Polling τ σ
  world : World ω τ σ ε
  origin : ω

namespace Trial

variable {ω τ σ ε : Type} [Sub τ] (trial : Trial ω τ σ ε)

/-- What the clock says when the wait begins. -/
def start : τ := (trial.world.now trial.origin).1

/-- What has elapsed behind a look that begins in `state`. -/
def elapsedFrom (state : ω) : τ :=
  (trial.world.now (trial.world.fetch state).2).1 - trial.start

/-- The world behind a look that begins in `state`, once the listener was told. -/
def behind (state : ω) : ω :=
  match (trial.world.fetch state).1 with
  | .error _ => (trial.world.fetch state).2
  | .ok snapshot =>
    trial.world.tell snapshot (trial.elapsedFrom state)
      (trial.world.now (trial.world.fetch state).2).2

variable [LT τ] [DecidableLT τ]

/-- The world at a look, if no look in front of it ends the wait. -/
def before : Nat → ω
  | 0 => (trial.world.now trial.origin).2
  | i + 1 =>
    let state := before i
    trial.world.pause (trial.polling.pauseAfter (trial.elapsedFrom state)) (trial.behind state)

/-- What a look brings. -/
def result (i : Nat) : Except ε σ := (trial.world.fetch (trial.before i)).1

/-- What has elapsed behind a look. -/
def elapsed (i : Nat) : τ := trial.elapsedFrom (trial.before i)

/-- The pause behind a look. -/
def pauseAt (i : Nat) : τ := trial.polling.pauseAfter (trial.elapsed i)

/-- A look, and that the listener is told what it brings. -/
def lookAt (i : Nat) : List (Event ω τ σ) :=
  .looked (trial.before i) ::
    match trial.result i with
    | .error _ => []
    | .ok snapshot => trial.world.tellings snapshot (trial.elapsed i)

/-- All that is done before a look: looks with pauses behind them. -/
def eventsBefore (i : Nat) : List (Event ω τ σ) :=
  (List.range i).flatMap fun j => trial.lookAt j ++ [.paused (trial.pauseAt j)]

theorem eventsBefore_succ (i : Nat) : trial.eventsBefore (i + 1) =
    trial.eventsBefore i ++ (trial.lookAt i ++ [.paused (trial.pauseAt i)]) := by
  simp [eventsBefore, List.range_succ]

/-- How the wait ends with a look: an error stays as it is, and a snapshot that passes the test is
taken, however late it is. -/
def verdict (i : Nat) : Except ε (Option (Outcome τ σ)) :=
  match trial.result i with
  | .error error => .error error
  | .ok snapshot =>
    .ok (some (if trial.polling.holds snapshot = true then .met snapshot
      else .timedOut (trial.elapsed i)))

section

variable {trial} {i : Nat}

theorem verdict_ne_none : trial.verdict i ≠ .ok none := by
  unfold verdict
  cases trial.result i <;> simp

/-- A look ends the wait well just if its snapshot passes the test, however late it is. -/
theorem verdict_eq_met_iff {snapshot : σ} : trial.verdict i = .ok (some (.met snapshot)) ↔
    trial.result i = .ok snapshot ∧ trial.polling.holds snapshot = true := by
  unfold verdict
  cases trial.result i with
  | error error => simp
  | ok found =>
    by_cases hholds : trial.polling.holds found = true
    · simp only [if_pos hholds, Except.ok.injEq, Option.some.injEq, Outcome.met.injEq]
      exact ⟨fun h => ⟨h, h ▸ hholds⟩, And.left⟩
    · simp only [if_neg hholds, Except.ok.injEq, Option.some.injEq, reduceCtorEq, false_iff]
      rintro ⟨rfl, hfound⟩
      exact hholds hfound

/-- A look says that the time is over just if its snapshot fails the test.  Whether the time is over
is not asked here; that is part of `Stops`. -/
theorem verdict_eq_timedOut_iff {elapsed : τ} :
    trial.verdict i = .ok (some (.timedOut elapsed)) ↔
      (∃ snapshot, trial.result i = .ok snapshot ∧ ¬ trial.polling.holds snapshot = true) ∧
        trial.elapsed i = elapsed := by
  unfold verdict
  cases trial.result i with
  | error error => simp
  | ok found => by_cases hholds : trial.polling.holds found = true <;> simp [hholds]

end

/-! ### What is done -/

/-- What there is to tell of a look, if it does not fail. -/
def tidings (i : Nat) : Option (σ × τ) :=
  match trial.result i with
  | .error _ => none
  | .ok snapshot => some (snapshot, trial.elapsed i)

theorem look_lookAt (i : Nat) : (trial.lookAt i).filterMap Event.look? = [trial.before i] := by
  unfold lookAt World.tellings
  cases trial.result i <;> cases trial.world.listener <;> rfl

theorem pause_lookAt (i : Nat) : (trial.lookAt i).filterMap Event.pause? = [] := by
  unfold lookAt World.tellings
  cases trial.result i <;> cases trial.world.listener <;> rfl

theorem told_lookAt (i : Nat) : (trial.lookAt i).filterMap Event.told? =
    if trial.world.listener.isSome then (trial.tidings i).toList else [] := by
  unfold lookAt World.tellings tidings
  cases trial.result i <;> cases trial.world.listener <;> rfl

/-- What is picked from the events before a look is picked look by look. -/
theorem filterMap_eventsBefore {α : Type} {f : Event ω τ σ → Option α} {g : Nat → List α}
    (h : ∀ i, (trial.lookAt i ++ [Event.paused (trial.pauseAt i)]).filterMap f = g i) (i : Nat) :
    (trial.eventsBefore i).filterMap f = (List.range i).flatMap g := by
  simp only [eventsBefore, List.filterMap_flatMap, h]

theorem look_eventsBefore (i : Nat) :
    (trial.eventsBefore i).filterMap Event.look? = (List.range i).map trial.before := by
  rw [List.map_eq_flatMap]
  refine trial.filterMap_eventsBefore (fun i => ?_) i
  rw [List.filterMap_append, look_lookAt]
  rfl

theorem pause_eventsBefore (i : Nat) :
    (trial.eventsBefore i).filterMap Event.pause? = (List.range i).map trial.pauseAt := by
  rw [List.map_eq_flatMap]
  refine trial.filterMap_eventsBefore (fun i => ?_) i
  rw [List.filterMap_append, pause_lookAt]
  rfl

/-- The listener was told of each snapshot before the look, if there is a listener. -/
theorem told_eventsBefore (i : Nat) : (trial.eventsBefore i).filterMap Event.told? =
    if trial.world.listener.isSome then (List.range i).filterMap trial.tidings else [] := by
  have htold : ∀ i, (trial.lookAt i ++ [Event.paused (trial.pauseAt i)]).filterMap Event.told? =
      if trial.world.listener.isSome then (trial.tidings i).toList else [] := by
    intro i
    rw [List.filterMap_append, told_lookAt]
    exact List.append_nil _
  rw [trial.filterMap_eventsBefore htold, List.filterMap_eq_flatMap_toList]
  cases trial.world.listener <;> simp

/-- How a wait ends with look `k`. -/
structure EndsAt (k : Nat) (ending : Except ε (Option (Outcome τ σ)) × Watched ω τ σ) : Prop where
  outcome : ending.1 = trial.verdict k
  /-- One look after the other, and no more. -/
  looks : ending.2.looks = (List.range (k + 1)).map trial.before
  /-- There is a pause behind each look but the last. -/
  pauses : ending.2.pauses = (List.range k).map trial.pauseAt
  /-- A listener is told of each snapshot, also of one that passes the test. -/
  told : ending.2.told =
    if trial.world.listener.isSome then (List.range (k + 1)).filterMap trial.tidings else []
  /-- Each snapshot is told of before the pause behind its look. -/
  events : ending.2.events = trial.eventsBefore k ++ trial.lookAt k

variable {trial} in
/-- A wait that ends at look `k` took `k + 1` looks, counted from look zero. -/
theorem EndsAt.length_looks {k : Nat}
    {ending : Except ε (Option (Outcome τ σ)) × Watched ω τ σ} (h : trial.EndsAt k ending) :
    ending.2.looks.length = k + 1 := by
  rw [h.looks, List.length_map, List.length_range]

/-- The wait with another test for the snapshots. -/
def testing (holds : σ → Bool) : Trial ω τ σ ε :=
  { trial with polling := { trial.polling with holds := holds } }

/-- The course of a wait does not depend on its test. -/
theorem before_testing (holds : σ → Bool) (i : Nat) :
    (trial.testing holds).before i = trial.before i := by
  induction i with
  | zero => rfl
  | succ i ih => rw [before, ih]; rfl

theorem lookAt_testing (holds : σ → Bool) (i : Nat) :
    (trial.testing holds).lookAt i = trial.lookAt i := by
  unfold lookAt result elapsed
  rw [before_testing]
  rfl

/-- What happens before a look does not depend on the test. -/
theorem eventsBefore_testing (holds : σ → Bool) (i : Nat) :
    (trial.testing holds).eventsBefore i = trial.eventsBefore i := by
  unfold eventsBefore pauseAt elapsed
  simp only [lookAt_testing, before_testing]
  rfl

variable [LE τ] [OfNat τ 0]

/-- The look ends the wait: it fails, its snapshot passes the test, or no time is left. -/
def Stops (i : Nat) : Prop :=
  (∃ error, trial.result i = .error error) ∨
    (∃ snapshot, trial.result i = .ok snapshot ∧ trial.polling.holds snapshot = true) ∨
    trial.polling.timeout - trial.elapsed i ≤ 0

section

variable {trial} {i k : Nat}

/-- A look goes on if it brings a snapshot that fails the test while there is time left. -/
theorem not_stops_iff : ¬ trial.Stops i ↔
    ∃ snapshot, trial.result i = .ok snapshot ∧ ¬ trial.polling.holds snapshot = true ∧
      ¬ trial.polling.timeout - trial.elapsed i ≤ 0 := by
  unfold Stops
  cases trial.result i with
  | error error => simp
  | ok snapshot => simp

/-- The least look that stops is one that stops behind looks that go on. -/
theorem isLeast_stops_iff :
    IsLeast {i | trial.Stops i} k ↔ (∀ i < k, ¬ trial.Stops i) ∧ trial.Stops k := by
  constructor
  · rintro ⟨hstops, hleast⟩
    exact ⟨fun i hi hstop => Nat.not_lt.mpr (hleast hstop) hi, hstops⟩
  · rintro ⟨hgoesOn, hstops⟩
    exact ⟨hstops, fun i hstop => Nat.le_of_not_lt fun hi => hgoesOn i hi hstop⟩

theorem exists_isLeast_of_stops (hstops : trial.Stops i) :
    ∃ k ≤ i, IsLeast {i | trial.Stops i} k := by
  classical
  have hex : ∃ i, trial.Stops i := ⟨i, hstops⟩
  exact ⟨Nat.find hex, Nat.find_min' hex hstops, Nat.find_spec hex,
    fun j hj => Nat.find_min' hex hj⟩

end

variable [DecidableLE τ]

/-- The wait, cut after some looks: how it ends, if it does, and what was done. -/
def run (looks : Nat) : Except ε (Option (Outcome τ σ)) × Watched ω τ σ :=
  (trial.polling.wait trial.world.surroundings looks).run ⟨trial.origin, []⟩

/-! ### One look -/

/-- The loop, with its next look at look `i` of the course. -/
def runFrom (looks i : Nat) : Except ε (Option (Outcome τ σ)) × Watched ω τ σ :=
  (trial.polling.poll trial.world.surroundings trial.start looks).run
    ⟨trial.before i, trial.eventsBefore i⟩

theorem run_eq (looks : Nat) : trial.run looks = trial.runFrom looks 0 := rfl

section

variable {trial} {i : Nat}

theorem runFrom_succ_of_error {error : ε} (h : trial.result i = .error error) (looks : Nat) :
    trial.runFrom (looks + 1) i =
      (.error error, ⟨trial.behind (trial.before i), trial.eventsBefore i ++ trial.lookAt i⟩) := by
  have hfetch : (trial.world.fetch (trial.before i)).1 = .error error := h
  unfold runFrom poll lookAt behind
  rw [World.run_bind, World.run_fetch, h, hfetch]

/-- A snapshot is told of, whatever follows from it. -/
theorem runFrom_succ_of_ok {snapshot : σ} (h : trial.result i = .ok snapshot) (looks : Nat) :
    trial.runFrom (looks + 1) i =
      match trial.polling.next snapshot (trial.elapsed i) with
      | .done outcome => (.ok (some outcome),
          ⟨trial.behind (trial.before i), trial.eventsBefore i ++ trial.lookAt i⟩)
      | .pause duration =>
        (trial.polling.poll trial.world.surroundings trial.start looks).run
          ⟨trial.world.pause duration (trial.behind (trial.before i)),
            trial.eventsBefore i ++ (trial.lookAt i ++ [.paused duration])⟩ := by
  have hfetch : (trial.world.fetch (trial.before i)).1 = .ok snapshot := h
  have hbehind : trial.behind (trial.before i) =
      trial.world.tell snapshot (trial.elapsed i)
        (trial.world.now (trial.world.fetch (trial.before i)).2).2 := by
    unfold behind
    rw [hfetch]
    rfl
  have hlook : trial.lookAt i =
      .looked (trial.before i) :: trial.world.tellings snapshot (trial.elapsed i) := by
    unfold lookAt
    rw [h]
  have helapsed : (trial.world.now (trial.world.fetch (trial.before i)).2).1 - trial.start =
      trial.elapsed i := rfl
  -- The four actions of a look one by one: look, clock, listener, pause.
  unfold runFrom
  rw [poll, World.run_bind, World.run_fetch, hfetch]
  dsimp only
  rw [World.run_bind, World.run_now]
  dsimp only
  rw [World.run_bind, World.run_report, helapsed, hbehind, hlook]
  dsimp only
  cases trial.polling.next snapshot (trial.elapsed i) with
  | done outcome => simp [World.run_pure]
  | pause duration =>
    dsimp only
    rw [World.run_bind, World.run_surroundings_pause]
    simp

/-- A look that stops is the last one. -/
theorem runFrom_succ_of_stops (h : trial.Stops i) (looks : Nat) :
    trial.runFrom (looks + 1) i = (trial.verdict i,
      ⟨trial.behind (trial.before i), trial.eventsBefore i ++ trial.lookAt i⟩) := by
  unfold verdict
  cases hresult : trial.result i with
  | error error => exact runFrom_succ_of_error hresult looks
  | ok snapshot =>
    rw [runFrom_succ_of_ok hresult, next_eq]
    by_cases hholds : trial.polling.holds snapshot = true
    · rw [if_pos hholds]
      dsimp only
      rw [if_pos hholds]
    -- Neither failed nor met, so what stopped it is the time.
    · have htime : trial.polling.timeout - trial.elapsed i ≤ 0 := by
        by_contra hleft
        exact not_stops_iff.mpr ⟨snapshot, hresult, hholds, hleft⟩ h
      rw [if_neg hholds, if_pos htime]
      dsimp only
      rw [if_neg hholds]

/-- A look that goes on uses up one of the looks. -/
theorem runFrom_succ_of_not_stops (h : ¬ trial.Stops i) (looks : Nat) :
    trial.runFrom (looks + 1) i = trial.runFrom looks (i + 1) := by
  obtain ⟨snapshot, hresult, hholds, htime⟩ := not_stops_iff.mp h
  rw [runFrom_succ_of_ok hresult, next_eq, if_neg hholds, if_neg htime]
  unfold runFrom
  rw [eventsBefore_succ]
  rfl

end

/-! ### The whole wait -/

section

variable {trial} {k : Nat}

/-- Looks that do not end the wait are followed by the others. -/
theorem run_of_goesOn (h : ∀ i < k, ¬ trial.Stops i) (looks : Nat) :
    trial.run (looks + k) = trial.runFrom looks k := by
  induction k generalizing looks with
  | zero => exact run_eq trial looks
  | succ k ih =>
    have hrest := ih (fun i hi => h i (Nat.lt_succ_of_lt hi)) (looks + 1)
    rw [runFrom_succ_of_not_stops (h k (Nat.lt_succ_self k))] at hrest
    rw [← hrest, Nat.succ_add_eq_add_succ]

/-- With the first look that ends it, the wait is over, however many more it is allowed. -/
theorem run_of_isLeast (hk : IsLeast {i | trial.Stops i} k) {looks : Nat} (hlooks : k < looks) :
    trial.run looks = (trial.verdict k,
      ⟨trial.behind (trial.before k), trial.eventsBefore k ++ trial.lookAt k⟩) := by
  obtain ⟨more, rfl⟩ := Nat.exists_eq_add_of_lt hlooks
  have hrun := run_of_goesOn (isLeast_stops_iff.mp hk).1 (more + 1)
  rw [runFrom_succ_of_stops hk.1] at hrun
  rw [← hrun]
  congr 1
  omega

/-- Without such a look, the wait goes on. -/
theorem run_of_forall_not_stops {looks : Nat} (h : ∀ i < looks, ¬ trial.Stops i) :
    trial.run looks = (.ok none, ⟨trial.before looks, trial.eventsBefore looks⟩) := by
  have hrun := run_of_goesOn h 0
  rwa [Nat.zero_add] at hrun

end

/-- What was done is not undone by the looks to come. -/
theorem eventsBefore_prefix_runFrom (looks i : Nat) :
    trial.eventsBefore i <+: (trial.runFrom looks i).2.events := by
  induction looks generalizing i with
  | zero => exact List.prefix_rfl
  | succ looks ih =>
    by_cases hstops : trial.Stops i
    · rw [runFrom_succ_of_stops hstops]
      exact List.prefix_append _ _
    · rw [runFrom_succ_of_not_stops hstops]
      refine List.IsPrefix.trans ?_ (ih (i + 1))
      rw [eventsBefore_succ]
      exact List.prefix_append _ _

theorem lookAt_prefix_runFrom (looks i : Nat) :
    trial.eventsBefore i ++ trial.lookAt i <+: (trial.runFrom (looks + 1) i).2.events := by
  by_cases hstops : trial.Stops i
  · simp only [runFrom_succ_of_stops hstops, List.prefix_rfl]
  · rw [runFrom_succ_of_not_stops hstops]
    refine List.IsPrefix.trans ?_ (trial.eventsBefore_prefix_runFrom looks (i + 1))
    rw [eventsBefore_succ, ← List.append_assoc]
    exact List.prefix_append _ _

variable {trial} in
/-- The wait ends at the first look that stops, given enough looks to get there. -/
theorem endsAt_run {k looks : Nat} (hk : IsLeast {i | trial.Stops i} k) (hlooks : k < looks) :
    trial.EndsAt k (trial.run looks) := by
  rw [run_of_isLeast hk hlooks]
  refine ⟨rfl, ?_, ?_, ?_, rfl⟩
  · simp only [Watched.looks, List.filterMap_append, look_eventsBefore, look_lookAt,
      List.range_succ, List.map_append, List.map_singleton]
  · simp only [Watched.pauses, List.filterMap_append, pause_eventsBefore, pause_lookAt,
      List.append_nil]
  · simp only [Watched.told, List.filterMap_append, told_eventsBefore, told_lookAt,
      List.range_succ]
    cases trial.world.listener <;> simp [List.filterMap_eq_flatMap_toList]

/-- What a wait does, whatever the world is like. -/
structure FollowsCourse : Prop where
  /-- It is over with the first look that stops it. -/
  ends : ∀ {k looks : Nat}, IsLeast {i | trial.Stops i} k → k < looks →
    trial.EndsAt k (trial.run looks)
  /-- It goes on, without an error, as long as no look stops it. -/
  goesOn : ∀ {looks : Nat}, (∀ i < looks, ¬ trial.Stops i) → (trial.run looks).1 = .ok none
  /-- What is told of a snapshot is told before the test: a test that lets the wait come to a look
  has no say in what is done until the snapshot of that look was told of. -/
  tellsFirst : ∀ {holds : σ → Bool} {k looks : Nat},
    (∀ i < k, ¬ (trial.testing holds).Stops i) → k < looks →
      trial.eventsBefore k ++ trial.lookAt k <+: ((trial.testing holds).run looks).2.events

theorem followsCourse : trial.FollowsCourse where
  ends := endsAt_run
  goesOn h := congrArg Prod.fst (run_of_forall_not_stops h)
  tellsFirst {holds k looks} h hlooks := by
    obtain ⟨more, rfl⟩ := Nat.exists_eq_add_of_lt hlooks
    have hrun := run_of_goesOn h (more + 1)
    rw [← eventsBefore_testing trial holds, ← lookAt_testing trial holds,
      show k + more + 1 = more + 1 + k by omega, hrun]
    exact lookAt_prefix_runFrom _ more k

end Trial

end Polling

end ContractDrill
