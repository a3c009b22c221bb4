import ContractDrill.Answer.ContractAnswer
import ContractDrill.Session.Basic

/-!
# Steps of a session

Each step shows what it is about to do, runs its command and takes in what comes back.
-/

namespace ContractDrill

namespace Session

/-! ### The workflow -/

/-- Makes a contract of the code. -/
def instantiate (session : Session) : SessionM Unit := do
  let settings := session.settings
  session.present (Report.stepStart "instantiate"
    s!"code {settings.codeId} as {quoted settings.label} from {settings.owner}")
  let _ ← session.logged "instantiate"
    (.instantiate settings.codeId (Message.instantiate settings.denom).text settings.owner
      settings.label true)

/-- Finds the latest contract of the code, which becomes the contract of the session. -/
def resolveAddress (session : Session) : SessionM String := do
  let codeId := session.settings.codeId
  session.present (Report.stepStart "resolve address" s!"latest contract for code {codeId}")
  let reply ← session.logged "resolve" (.listContracts codeId)
  let address ← orFail .address (ContractAddress.readCaptured reply.output)
  modify fun state => { state with contract := some address }
  session.present (Report.contractResolved address)
  return address

/-- Registers the agent. -/
def registerAgent (session : Session) : SessionM Unit := do
  let agent := session.settings.agent
  session.present (Report.stepStart "register agent" s!"agent {agent}")
  session.execute "register_agent" .registerAgent agent none

/-- Creates a task that delegates `amount`. -/
def createTask (session : Session) (amount : Int) : SessionM Unit := do
  let settings := session.settings
  session.present (Report.stepStart "create task"
    s!"delegate {settings.coin amount} to {settings.validator}")
  let task := TaskRequest.delegate settings.validator amount settings.denom settings.gasLimit
  session.execute "create_task" (.createTask task) settings.taskCreator
    (some (settings.coin settings.taskDeposit))

/-- Asks for the tasks and shows the answer. -/
def queryTasks (session : Session) : SessionM (Option String) := do
  session.present (Report.stepStart "get tasks" "contract-state smart get_tasks")
  session.ask "get_tasks" (.queryTasks none none)

/-- Lets the agent run what is due. -/
def proxyCall (session : Session) : SessionM Unit := do
  let agent := session.settings.agent
  session.present (Report.stepStart "proxy call" s!"agent {agent} executes due tasks")
  session.execute "proxy_call" .proxyCall agent none

/-! ### Quiet questions -/

/-- The tasks of the contract. -/
def fetchTasks (session : Session) : SessionM (List StoredTask) := do
  let output ← session.askQuietly (.queryTasks none none)
  orFail .tasks (Payload.readCaptured TaskList.read output)

/-- The earliest slots and the chain head.  The slots are read first, so that a slot looks due only
if the chain has reached it. -/
def fetchSchedule (session : Session) : SessionM SlotSchedule := do
  let output ← session.askQuietly (.querySlotHashes none)
  let slots ← orFail .slots (Payload.readCaptured SlotHashes.read output)
  let status ← session.quietly .status
  let head ← orFail .head (ChainHead.readStatus status.output status.errors)
  return ⟨slots.blockSlot, slots.blockHashes, slots.timeSlot, slots.timeHashes, head.height,
    head.time⟩

/-! ### Waits -/

/-- Lets time pass, however much it is.  The clock of a machine refuses to wait for more seconds
than it can count, such as the infinity; that failure is left out. -/
def pause (duration : Binary64) : SessionM Unit :=
  modify fun state =>
    { state with pauses := state.pauses ++ [duration], now := state.now + duration }

/-- What a wait of the session looks at and does. -/
def surroundings (session : Session) : Surroundings SessionM Binary64 SlotSchedule where
  fetch := session.fetchSchedule
  now := return (← get).now
  report schedule elapsed :=
    session.present
      (Report.pollStatus schedule.due.length schedule.slotted schedule.height elapsed)
  pause := pause

/-- Waits for tasks to be due.  Each look at the schedule takes a reply of the script or fails, so
there are no more looks than replies, and one. -/
def await (session : Session) : SessionM Unit := do
  session.present (Report.waitStart session.wait.description)
  match session.wait with
  | .delay seconds => pause seconds
  | .polling condition timeout interval =>
    -- Behind the end of the script the first question to the contract is answered in vain.
    let looks := (← get).script.length + 1
    let polling : Polling Binary64 SlotSchedule := ⟨condition.holds, timeout, interval⟩
    match ← polling.wait session.surroundings looks with
    | some (.met _) => pure ()
    | some (.timedOut elapsed) => throw (.timedOut session.wait elapsed)
    | none => throw .unending

/-! ### Other steps -/

/-- Asks for the tasks of an owner. -/
def queryTasksOfOwner (session : Session) (owner : String) : SessionM (Option String) := do
  session.present (Report.stepStart "get tasks by owner" owner)
  session.ask "get_tasks_by_owner" (.queryTasksOfOwner owner)

/-- Asks for a task. -/
def queryTask (session : Session) (hash : String) : SessionM (Option String) := do
  session.present (Report.stepStart "get task" hash)
  session.ask "get_task" (.queryTask hash)

/-- Asks for the hash that a task would have. -/
def queryTaskHash (session : Session) (task : TaskRequest) (owner : String) (deposit : List Coin) :
    SessionM (Option String) := do
  session.present (Report.stepStart "get task hash" s!"owner {owner}")
  session.ask "get_task_hash" (.queryTaskHash task owner deposit)

/-- Asks for the slots that hold tasks. -/
def querySlotIds (session : Session) : SessionM (Option String) := do
  session.present (Report.stepStart "get slot ids" "active time and block slots")
  session.ask "get_slot_ids" .querySlotIds

/-- Asks for the hashes in a slot, or in the earliest ones. -/
def querySlotHashes (session : Session) (slot : Option Int) : SessionM (Option String) := do
  let description := match slot with
    | some slot => s!"slot {slot}"
    | none => "earliest slots"
  session.present (Report.stepStart "get slot hashes" description)
  session.ask "get_slot_hashes" (.querySlotHashes slot)

/-- Asks whether an interval is one. -/
def validateInterval (session : Session) (interval : Interval) : SessionM (Option String) := do
  session.present (Report.stepStart "validate interval" interval.toJson.encodeSpaced)
  session.ask "validate_interval" (.validateInterval interval)

/-- The identity that sends, the creator of tasks unless another is named. -/
def senderOr (session : Session) (sender : Option String) : String :=
  (sender.filter (· ≠ "")).getD session.settings.taskCreator

/-- Removes a task. -/
def removeTask (session : Session) (hash : String) (sender : Option String) : SessionM Unit := do
  session.present (Report.stepStart "remove task" hash)
  session.execute "remove_task" (.removeTask hash) (session.senderOr sender) none

/-- Adds to the deposit of a task. -/
def refillTaskBalance (session : Session) (hash : String) (amount : Int) (sender : Option String) :
    SessionM Unit := do
  let coin := session.settings.coin amount
  session.present (Report.stepStart "refill task balance" s!"{hash} +{coin}")
  session.execute "refill_task_balance" (.refillTaskBalance hash) (session.senderOr sender)
    (some coin)

end Session

end ContractDrill
