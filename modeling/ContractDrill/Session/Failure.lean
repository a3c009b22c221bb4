import ContractDrill.Answer.ChainHead
import ContractDrill.Answer.ContractAddress
import ContractDrill.Node.Reply
import ContractDrill.Screen.Markup
import ContractDrill.Wait.Basic

/-!
# Failures of a session

A failure ends whatever a session is doing.  Most are reported at the end of a run, with an exit
code; the others, which no step is prepared for, leave the run as they are.
-/

namespace ContractDrill

/-- Why a session stops. -/
inductive Failure where
  /-- A command failed. -/
  | command (failed : Reply.Failed)
  /-- The program that talks to the node may not be run. -/
  | denied (reason : String)
  /-- There is no contract yet. -/
  | unresolved
  /-- The answer that should list the contract is rejected. -/
  | address (error : ContractAddress.Error)
  /-- The answer that should list tasks is rejected. -/
  | tasks (error : Payload.Error)
  /-- The answer that should give the slots is rejected. -/
  | slots (error : Payload.Error)
  /-- The status that should tell the chain head is rejected. -/
  | head (error : ChainHead.Error)
  /-- A wait took too long. -/
  | timedOut (wait : Wait) (elapsed : Binary64)
  /-- What should be shown is no markup. -/
  | markup (error : Markup.Error)
  /-- A wait is not over after all looks it was allowed. -/
  | unending

namespace Failure

/-- Whether a run reports the failure. -/
def isReported : Failure → Bool
  | command _ | unresolved | address _ | timedOut .. => true
  | tasks error | slots error => error.isReported
  | head error => error.isReported
  | denied _ | markup _ | unending => false

/-- What a report says of a rejected answer to the query `name`. -/
def payloadMessage (describe : List Issue → String) (name : String) (error : Payload.Error) :
    String :=
  if error.isReported then s!"{name} returned an unexpected payload: " ++ error.message describe
  else error.message describe

/-- What a report says of a failure, with `describe` for issues. -/
def message (describe : List Issue → String) : Failure → String
  | command failed => failed.message
  | denied reason => reason
  | unresolved => "Contract address has not been resolved yet."
  | address error => error.message describe
  | tasks error => payloadMessage describe "get_tasks" error
  | slots error => payloadMessage describe "get_slot_hashes" error
  | head error =>
    if error.isReported then s!"status returned an unexpected payload: {error.cause}"
    else error.message
  | timedOut wait elapsed => wait.timeoutMessage elapsed
  | markup error => error.message
  | unending => "The wait goes on."

/-- The issues of the answer that caused a failure, if it was one that broke a schema. -/
def issues? : Failure → Option (List Issue)
  | address (.malformed issues) => some issues
  | tasks (.invalid issues) | slots (.invalid issues) => some issues
  | _ => none

/-- The exit code of a run that reports the failure: that of the command that failed, else `1`. -/
def exitCode : Failure → Int
  | command failed => failed.exitCode
  | _ => 1

/-- What the command that failed printed. -/
def details : Failure → List String
  | command failed => [failed.output, failed.errors]
  | _ => []

end Failure

end ContractDrill
