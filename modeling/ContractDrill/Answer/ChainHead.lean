import ContractDrill.Answer.Payload
import ContractDrill.Calendar.Timestamp

/-!
# Chain heads

A node reports its status as an object whose member `SyncInfo`, or `sync_info` in other releases,
has the height and the time of the latest block.
-/

namespace ContractDrill

/-- The latest block of the chain. -/
structure ChainHead where
  height : Int
  /-- In nanoseconds from 1970. -/
  time : Int
  deriving DecidableEq

namespace ChainHead

/-- Why no chain head can be taken from a status. -/
inductive Error where
  | unreadable (error : Json.Error)
  | noText
  | noStatus
  | statusKind (status : Json)
  | infoKind (info : Json)
  | absent (name : String)
  | heightKind (height : Json)
  | heightText (text : String) (fault : NumeralFault)
  | heightNan
  | heightInfinite
  | timeKind (time : Json)
  | timeText (error : Timestamp.Error)

/-! ### Reading -/

/-- The member of a status that describes the latest block; what counts as absent under the first
name is looked for under the second. -/
def syncInfo : Json → Except Error Json
  | .object members =>
    -- `null` under the first name, or any other empty value, leaves the word to the second.
    let first := (members.lookup "SyncInfo").getD .null
    .ok (if first.isFalsy then (members.lookup "sync_info").getD .null else first)
  | status => .error (.statusKind status)

/-- The member `name` of the object that describes the latest block. -/
def infoMember (info : Json) (name : String) : Except Error Json :=
  match info with
  | .object members =>
    match members.lookup name with
    | some value => .ok value
    | none => .error (.absent name)
  | info => .error (.infoKind info)

/-- The height that a value stands for: an integer, its text, or the integer part of a number. -/
def heightOf : Json → Except Error Int
  | .bool value => .ok (if value then 1 else 0)
  | .integer value => .ok value
  | .number value =>
    match value.truncate? with
    | some n => .ok n
    | none => .error (if value = .nan then .heightNan else .heightInfinite)
  | .string text =>
    match readInteger text.toList with
    | .ok n => .ok n
    | .error fault => .error (.heightText text fault)
  | height => .error (.heightKind height)

/-- The time that a value stands for. -/
def timeOf : Json → Except Error Int
  | .string text => (Timestamp.read text).mapError .timeText
  | time => .error (.timeKind time)

/-- The chain head that a status describes. -/
def ofJson (status : Json) : Except Error ChainHead := do
  let info ← syncInfo status
  let height ← heightOf (← infoMember info "latest_block_height")
  let time ← timeOf (← infoMember info "latest_block_time")
  return ⟨height, time⟩

/-- The chain head in the status with the given text. -/
def read (text : String) : Except Error ChainHead :=
  match Json.decode .usual text with
  | .ok status => ofJson status
  | .error error => .error (.unreadable error)

/-- The text of a status: what the node printed, or what it printed as errors if that is blank. -/
def statusText (output errors : Option String) : Except Error String :=
  match output with
  | none => .error .noStatus
  | some output =>
    match trimBy isBlank output.toList, errors with
    | [], some errors => .ok errors
    | [], none => .error .noText
    | trimmed, _ => .ok (String.ofList trimmed)

/-- The chain head in a status. -/
def readStatus (output errors : Option String) : Except Error ChainHead :=
  (statusText output errors).bind read

/-! ### Messages -/

/-- What is wrong with taking a member of a value that is no object. -/
def memberFault : Json → String
  | .string _ => "string indices must be integers, not 'str'"
  | .array _ => "list indices must be integers or slices, not str"
  | value => s!"'{value.kindName}' object is not subscriptable"

/-- What a report calls the kind of an error. -/
def Error.kindWord : Error → String
  | unreadable (.malformed ..) => "JSONDecodeError"
  | unreadable (.digits _) => "ValueError"
  | unreadable (.depth _) => "RecursionError"
  | noText | infoKind _ | heightKind _ => "TypeError"
  | noStatus | statusKind _ | timeKind _ => "AttributeError"
  | absent _ => "KeyError"
  | heightText .. | heightNan | timeText _ => "ValueError"
  | heightInfinite => "OverflowError"

/-- What is wrong, in words. -/
def Error.message : Error → String
  | unreadable error => error.message
  | noText => Payload.noTextMessage
  | noStatus => "'NoneType' object has no attribute 'strip'"
  | statusKind status => s!"'{status.kindName}' object has no attribute 'get'"
  | infoKind info => memberFault info
  | absent name => name
  | heightKind height =>
    "int() argument must be a string, a bytes-like object or a real number, " ++
      s!"not '{height.kindName}'"
  | heightText text fault => fault.message text
  | heightNan => "cannot convert float NaN to integer"
  | heightInfinite => "cannot convert float infinity to integer"
  | timeKind time => s!"'{time.kindName}' object has no attribute 'rstrip'"
  | timeText error => error.message

/-- Whether the error is put down to the node.  Nesting beyond all bounds, an infinite height and a
status that was not captured are not: they end a session as they are. -/
def Error.isReported : Error → Bool
  | unreadable (.depth _) | heightInfinite | noStatus => false
  | _ => true

/-- The kind of an error and its quoted message. -/
def Error.cause (error : Error) : String :=
  s!"{error.kindWord}({quoted error.message})"

end ChainHead

end ContractDrill
