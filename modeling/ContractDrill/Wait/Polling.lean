/-!
# Polling

A `Polling` looks at snapshots until its test holds or its time is up.  The test comes before the
first pause, so a wait whose test holds at once does not pause; and a snapshot for which it holds is
taken even when it came late.  Each pause is the interval, or what is left of the time if that is
less.

Times are of any type with a difference and an order, so the same definition runs on
double-precision numbers and is reasoned about on exact ones.
-/

namespace ContractDrill

/-- What to wait for, and for how long. -/
structure Polling (τ σ : Type) where
  holds : σ → Bool
  timeout : τ
  interval : τ

/-- Where snapshots come from, and what a wait may do between them. -/
structure Surroundings (m : Type → Type) (τ σ : Type) where
  fetch : m σ
  now : m τ
  report : σ → τ → m Unit
  pause : τ → m Unit

namespace Polling

variable {τ σ : Type} {m : Type → Type}

/-- How a wait ends: with a snapshot for which the test holds, or without one after some time. -/
inductive Outcome (τ σ : Type) where
  | met (snapshot : σ)
  | timedOut (elapsed : τ)
  deriving DecidableEq

/-- What follows a look at a snapshot: the end of the wait, or a pause before the next look. -/
inductive Next (τ σ : Type) where
  | done (outcome : Outcome τ σ)
  | pause (duration : τ)
  deriving DecidableEq

section

variable [Sub τ] [LT τ] [LE τ] [OfNat τ 0] [DecidableLT τ] [DecidableLE τ]

/-- What follows the snapshot taken after `elapsed`. -/
def next (polling : Polling τ σ) (snapshot : σ) (elapsed : τ) : Next τ σ :=
  if polling.holds snapshot then .done (.met snapshot)
  else
    let left := polling.timeout - elapsed
    if left ≤ 0 then .done (.timedOut elapsed)
    else .pause (if left < polling.interval then left else polling.interval)

/-- At most `looks` looks at snapshots, of a wait that began at `start`; `none` if it goes on after
them. -/
def poll [Monad m] (polling : Polling τ σ) (world : Surroundings m τ σ) (start : τ) :
    (looks : Nat) → m (Option (Outcome τ σ))
  | 0 => pure none
  | looks + 1 => do
    let snapshot ← world.fetch
    let elapsed := (← world.now) - start
    world.report snapshot elapsed
    match polling.next snapshot elapsed with
    | .done outcome => pure (some outcome)
    | .pause duration =>
      world.pause duration
      poll polling world start looks

/-- A wait of at most `looks` looks that begins now. -/
def wait [Monad m] (polling : Polling τ σ) (world : Surroundings m τ σ) (looks : Nat) :
    m (Option (Outcome τ σ)) := do
  polling.poll world (← world.now) looks

/-- A snapshot for which the test holds ends the wait, however late it is. -/
theorem next_of_holds {polling : Polling τ σ} {snapshot : σ} (elapsed : τ)
    (h : polling.holds snapshot = true) :
    polling.next snapshot elapsed = .done (.met snapshot) := by
  simp [next, h]

/-- Only a snapshot for which the test holds ends the wait as one that was met. -/
theorem holds_of_next_eq_met {polling : Polling τ σ} {snapshot met : σ} {elapsed : τ}
    (h : polling.next snapshot elapsed = .done (.met met)) : polling.holds snapshot = true := by
  unfold next at h
  by_cases hholds : polling.holds snapshot = true
  · exact hholds
  · rw [if_neg hholds] at h
    dsimp only at h
    split at h <;> cases h

end

end Polling

end ContractDrill
