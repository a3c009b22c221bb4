import ContractDrill.Session.Steps
import ContractDrill.Settings.Environment

/-!
# Runs

A run is the whole workflow: a contract is made and found, an agent registers, tasks are created,
and twice the session waits for tasks and lets the agent run them.  The first failure ends it.

`Run.ofEnvironment` takes the settings from the environment, reports how the run ends, and says with
which exit code.
-/

namespace ContractDrill

namespace Session

/-- How often tasks are waited for and run. -/
def rounds : Nat := 2

/-- Waits for tasks and lets the agent run them. -/
def round (session : Session) : SessionM Unit := do
  let _ ← session.queryTasks
  session.await
  session.proxyCall

/-- The whole workflow; its value is the contract it worked with. -/
def run (session : Session) : SessionM String := do
  session.present (Report.banner session.settings)
  session.instantiate
  let _ ← session.resolveAddress
  session.registerAgent
  session.settings.stakeAmounts.forM session.createTask
  (List.replicate rounds ()).forM fun _ => session.round
  session.present (Report.summary (← get).log)
  session.present (Report.completed (← contract))
  contract

/-- The workflow with its end reported: the exit code, or a failure that no report is made of. -/
def reportedRun (session : Session) : SessionM Int := do
  try
    let _ ← session.run
    return 0
  catch failure =>
    if failure.isReported then
      session.present (Report.summary (← get).log)
      session.present (Report.halt (failure.message Issue.list) failure.details)
      return failure.exitCode
    else throw failure

end Session

namespace Run

/-- The run with settings of the environment, on a screen of `width` cells.  Settings that are
rejected end it before any command. -/
def ofEnvironment (environment : String → Option String) (width : Nat) : SessionM Int :=
  match Settings.ofEnvironment environment with
  | .valid settings => (Session.ofSettings settings width).reportedRun
  | .invalid issues => do
    let session := Session.ofSettings .default width
    session.present
      (Report.halt "Invalid CRONCAT_* configuration." [Issue.list issues])
    return 1

end Run

end ContractDrill
