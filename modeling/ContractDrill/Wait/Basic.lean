import ContractDrill.Number.Layout
import ContractDrill.Schedule.Basic
import ContractDrill.Settings.Basic
import ContractDrill.Wait.Polling

/-!
# Waits

Between the creation of tasks and their execution a session waits: for a fixed time, or until a
condition on the schedule holds.
-/

namespace ContractDrill

/-- A wait for tasks to be due. -/
inductive Wait where
  | delay (seconds : Binary64)
  | polling (condition : Condition) (timeout interval : Binary64)

namespace Wait

/-- The wait that settings ask for: for `condition` if there is a time limit, else the fixed one. -/
def ofSettings (settings : Settings) (condition : Condition) : Wait :=
  if 0 < settings.pollTimeout then
    .polling condition settings.pollTimeout settings.pollInterval
  else .delay settings.waitSeconds

/-- What a report says of a wait. -/
def description : Wait → String
  | delay seconds => s!"sleeping {seconds.compact}s"
  | polling condition timeout _ =>
    s!"polling slot hashes for {condition.name} (timeout {timeout.compact}s)"

/-- What a report says of a wait that has taken `elapsed` in vain. -/
def timeoutMessage (wait : Wait) (elapsed : Binary64) : String :=
  s!"Condition {wait.description} not met after {elapsed.fixed1}s."

end Wait

end ContractDrill
