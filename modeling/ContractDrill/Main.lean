import ContractDrill.Session.Run

/-!
# The command line

Runs the workflow against replies that were kept: each line of the standard input is the reply to
one command.  Settings come from the environment, the width of the screen from `COLUMNS`.
-/

open ContractDrill

/-- The lines of the standard input that have a reply. -/
partial def readScript (input : IO.FS.Stream) : IO (List TimedReply) := do
  let line ← input.getLine
  if line.isEmpty then return []
  let rest ← readScript input
  match Json.decode .usual line with
  | .error _ => return rest
  | .ok value =>
    match TimedReply.ofJson value with
    | .valid reply => return reply :: rest
    | .invalid _ => return rest

/-- The variables of the environment that can matter. -/
def readEnvironment : IO (List (String × Option String)) :=
  Settings.environmentVariables.mapM fun (name, _) => return (name, ← IO.getEnv name)

/-- The width of the screen. -/
def readWidth : IO Nat := do
  return ((← IO.getEnv "COLUMNS").bind String.toNat?).getD 80

/-- Runs the workflow and shows it. -/
def main : IO UInt32 := do
  let environment ← readEnvironment
  let width ← readWidth
  let script ← readScript (← IO.getStdin)
  let (result, state) :=
    (Run.ofEnvironment (fun name => (environment.lookup name).join) width).run
      (.initial script 0)
  for line in state.shown do
    IO.println (String.ofList line)
  match result with
  | .ok code => return (code % 256).toNat.toUInt32
  | .error failure =>
    IO.eprintln (failure.message Issue.list)
    return 1
