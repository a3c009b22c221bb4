import ContractDrill.Message
import ContractDrill.Node.Command
import ContractDrill.Node.Script
import ContractDrill.Session.Failure
import ContractDrill.Session.Reports

/-!
# Sessions

A session runs commands on a node, one after the other.  What the node will reply is a script, and
time is a number that replies and pauses move on; so what a session does is a function of its
settings and of the script.  The state stays when a step fails.
-/

namespace ContractDrill

/-- What does not change during a session. -/
structure Session where
  settings : Settings
  wait : Wait
  /-- The cells of a line of the screen. -/
  width : Nat

/-- What a session has done so far, and what the node will reply. -/
structure SessionState where
  /-- The replies to come. -/
  script : List TimedReply
  now : Binary64
  /-- The commands that were given to the node, with their replies. -/
  exchanges : List Exchange
  pauses : List Binary64
  log : List StepRecord
  contract : Option String
  shown : List Line

/-- The state in which a session begins. -/
def SessionState.initial (script : List TimedReply) (now : Binary64) : SessionState where
  script := script
  now := now
  exchanges := []
  pauses := []
  log := []
  contract := none
  shown := []

/-- A step of a session: a value or a failure, and the state after it. -/
abbrev SessionM := ExceptT Failure (StateM SessionState)

/-- The session with the usual wait of its settings. -/
def Session.ofSettings (settings : Settings) (width : Nat) : Session where
  settings := settings
  wait := .ofSettings settings (.dueAtLeast 1)
  width := width

namespace Session

/-- A value, or the failure that `failure` makes of an error. -/
def orFail {α ε : Type} (failure : ε → Failure) : Except ε α → SessionM α
  | .ok value => pure value
  | .error error => throw (failure error)

/-- Shows a report. -/
def present (session : Session) (report : Report) : SessionM Unit := do
  -- What stands in front of wrong markup is on the screen by then.
  let (lines, error) := report.present session.width
  modify fun state => { state with shown := state.shown ++ lines }
  match error with
  | some error => throw (.markup error)
  | none => pure ()

/-- The next reply of the node; one whose script has come to an end is silent. -/
def nextReply : SessionM Reply :=
  modifyGet fun state =>
    match state.script with
    | [] => (.silent, state)
    | next :: rest =>
      (next.reply, { state with script := rest, now := state.now + next.duration })

/-- Runs a command, of the step `step` if it belongs to one. -/
def issue (session : Session) (step : Option String) (command : NodeCommand) :
    SessionM (Except Reply.Error Reply.Succeeded) := do
  let exchange : Exchange := ⟨step, command, ← nextReply⟩
  modify fun state => { state with exchanges := state.exchanges ++ [exchange] }
  return exchange.result session.settings

/-- The failure of a command without a result. -/
def replyFailure : Reply.Error → Failure
  | .failed failed => .command failed
  | .denied reason => .denied reason

/-- Adds a record to the log. -/
def record (step : StepRecord) : SessionM Unit :=
  modify fun state => { state with log := state.log ++ [step] }

/-! ### Commands -/

/-- Runs a command without showing or logging it. -/
def quietly (session : Session) (command : NodeCommand) : SessionM Reply.Succeeded := do
  orFail replyFailure (← session.issue none command)

/-- Runs the command of the step `name`, shows it, and logs it even if it fails. -/
def logged (session : Session) (name : String) (command : NodeCommand) :
    SessionM Reply.Succeeded := do
  match ← session.issue (some name) command with
  | .error (.failed failed) =>
    record ⟨name, failed.argv, failed.exitCode, failed.output⟩
    throw (.command failed)
  | .error (.denied reason) => throw (.denied reason)
  | .ok succeeded =>
    let output := succeeded.output.getD ""
    session.present (Report.nodeCall succeeded.argv)
    session.present (Report.echo output)
    record ⟨name, succeeded.argv, 0, output⟩
    return succeeded

/-- The contract of the session. -/
def contract : SessionM String := do
  match (← get).contract with
  | some address => return address
  | none => throw .unresolved

/-- Sends a message to the contract, as the step `name`. -/
def execute (session : Session) (name : String) (message : Message) (sender : String)
    (funds : Option String) : SessionM Unit := do
  let address ← contract
  let _ ← session.logged name (.execute address message.text sender funds)
  session.present (Report.stepDone name)

/-- Asks the contract, as the step `name`. -/
def ask (session : Session) (name : String) (message : Message) : SessionM (Option String) := do
  let address ← contract
  return (← session.logged name (.query address message.text)).output

/-- Asks the contract without showing or logging it. -/
def askQuietly (session : Session) (message : Message) : SessionM (Option String) := do
  let address ← contract
  return (← session.quietly (.query address message.text)).output

end Session

end ContractDrill
