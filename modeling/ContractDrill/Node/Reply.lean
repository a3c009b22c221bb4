/-!
# Replies of the node

What comes of running a command: the program ends with an exit code and what it printed, or cannot
be run at all.

What a program printed is a text.  Bytes that are none leave the command without a reply, and are
left out, as is a program that does not end.
-/

namespace ContractDrill

/-- What comes of running a command. -/
inductive Reply where
  /-- There is no such program. -/
  | missing (reason : String)
  /-- The program may not be run. -/
  | denied (reason : String)
  /-- The program ended; what was not captured is `none`. -/
  | finished (exitCode : Int) (output errors : Option String)
  deriving DecidableEq

namespace Reply

/-- The reply of a program that ends well without a word. -/
def silent : Reply := .finished 0 (some "") (some "")

/-- The exit code that stands for a program that is not there. -/
def missingExitCode : Int := 127

/-- A command that came to an end and failed. -/
structure Failed where
  argv : List String
  exitCode : Int
  output : String
  errors : String
  deriving DecidableEq

/-- What a report says of a command that failed. -/
def Failed.message (failed : Failed) : String :=
  " ".intercalate (failed.argv.take 4) ++ s!" … exited with code {failed.exitCode}"

/-- A command that came to an end and did not fail. -/
structure Succeeded where
  argv : List String
  output : Option String
  errors : Option String
  deriving DecidableEq

/-- Why a command has no result. -/
inductive Error where
  | failed (failed : Failed)
  | denied (reason : String)
  deriving DecidableEq

/-- The result of the command `argv` with the given reply: it succeeded exactly if its exit code is
`0`. -/
def result (argv : List String) : Reply → Except Error Succeeded
  | missing reason => .error (.failed ⟨argv, missingExitCode, "", reason⟩)
  | denied reason => .error (.denied reason)
  | finished exitCode output errors =>
    if exitCode = 0 then .ok ⟨argv, output, errors⟩
    else .error (.failed ⟨argv, exitCode, output.getD "", errors.getD ""⟩)

end Reply

end ContractDrill
