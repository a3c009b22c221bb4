import ContractDrill.Json.Decoder
import ContractDrill.Schema.Verdict

/-!
# Payloads of queries

A node wraps what the contract answers to a query in an object with the member `data`; an answer
without the wrapper is taken as it is.
-/

namespace ContractDrill

namespace Payload

/-- Why the answer to a query is rejected. -/
inductive Error where
  | unreadable (error : Json.Error)
  | invalid (issues : List Issue)
  /-- The answer has no text. -/
  | noText
  deriving DecidableEq

/-- What a report says of an answer without a text. -/
def noTextMessage : String :=
  "the JSON object must be str, bytes or bytearray, not NoneType"

/-- The payload inside an answer. -/
def unwrap (answer : Json) : Json :=
  (answer.member? "data").getD answer

/-- The payload of the answer with the given text. -/
def read (text : String) : Except Json.Error Json :=
  (Json.decode .usual text).map unwrap

/-- The payload of the answer with the given text, as `meaning` takes it. -/
def readAs {α : Type} (meaning : Json → Verdict α) (text : String) : Except Error α :=
  match read text with
  | .error error => .error (.unreadable error)
  | .ok payload =>
    match meaning payload with
    | .valid value => .ok value
    | .invalid issues => .error (.invalid issues)

/-- The same for an answer whose text may not have been captured. -/
def readCaptured {α : Type} (read : String → Except Error α) (text : Option String) :
    Except Error α :=
  match text with
  | some text => read text
  | none => .error .noText

/-- Whether the error is put down to the contract.  A missing text and a text beyond the limits of
the reader are not: they end a session as they are. -/
def Error.isReported : Error → Bool
  | unreadable (.malformed ..) | invalid _ => true
  | _ => false

/-- What a report says of an error, with `describe` for the issues of an invalid payload. -/
def Error.message (describe : List Issue → String) : Error → String
  | unreadable error => error.message
  | invalid issues => describe issues
  | noText => noTextMessage

end Payload

end ContractDrill
