import ContractDrill.Json.Encoder
import ContractDrill.Task.Request

/-!
# Messages to the contract

Whatever is sent to the contract is a `Message`: what creates it, what makes it act, and what asks
it.  Its text is compact JSON, and the order of the members is fixed, so that a message is the same
text wherever it is sent from.
-/

namespace ContractDrill

open Schema

/-- A message to the contract. -/
inductive Message where
  | instantiate (denom : String)
  | registerAgent
  | proxyCall
  | createTask (task : TaskRequest)
  | removeTask (hash : String)
  | refillTaskBalance (hash : String)
  | queryTasks (fromIndex limit : Option Int)
  | queryTasksOfOwner (owner : String)
  | queryTask (hash : String)
  | validateInterval (interval : Interval)
  | queryTaskHash (task : TaskRequest) (owner : String) (deposit : List Coin)
  | querySlotIds
  /-- The hashes in a slot, or in the earliest slots. -/
  | querySlotHashes (slot : Option Int)

/-! ### Intervals and delegations -/

/-- The interval of some blocks. -/
def Interval.blocks (count : Int) : Interval :=
  .custom [("Block", .integer count)]

/-- The interval of a cron expression. -/
def Interval.cron (expression : String) : Interval :=
  .custom [("Cron", .string expression)]

/-- The action that delegates `amount` of `denom` to a validator. -/
def Action.delegate (validator : String) (amount : Int) (denom : String) (gasLimit : Option Int) :
    Action where
  message :=
    [("staking", .object [("delegate", .object [("validator", .string validator),
      ("amount", (Coin.mk denom (toString amount)).toJson)])])]
  gasLimit := gasLimit

/-- The task that delegates once, as soon as possible. -/
def TaskRequest.delegate (validator : String) (amount : Int) (denom : String) (gasLimit : Int) :
    TaskRequest where
  interval := .immediate
  boundary := .unbounded
  stopOnFail := false
  actions := ⟨[.delegate validator amount denom (some gasLimit)], by simp⟩
  rules := none

namespace Message

/-! ### Texts -/

/-- An object with one member. -/
def single (name : String) (value : Json) : Json :=
  .object [(name, value)]

/-- The members of a task in the order of the contract: what is unset inside its boundary and its
actions is left out, but unset rules are `null`. -/
def taskMembers (task : TaskRequest) : Json.Members :=
  [("interval", task.interval.toJson),
    ("boundary", task.boundary.toJson .omitted),
    ("stop_on_fail", .bool task.stopOnFail),
    ("actions", .array (task.actions.val.map (·.toJson .omitted))),
    ("rules", (task.rules.map rulesToJson).getD .null)]

/-- The members of a task whose hash is asked for: its owner and the deposit join those that create
it. -/
def hashedMembers (task : TaskRequest) (owner : String) (deposit : List Coin) : Json.Members :=
  [("owner_id", .string owner),
    ("interval", task.interval.toJson),
    ("boundary", task.boundary.toJson .omitted),
    ("stop_on_fail", .bool task.stopOnFail),
    ("total_deposit", .array (deposit.map (·.toJson))),
    ("actions", .array (task.actions.val.map (·.toJson .omitted))),
    ("rules", (task.rules.map rulesToJson).getD .null)]

/-- The members that cut a page out of a listing. -/
def pageMembers (fromIndex limit : Option Int) : Json.Members :=
  Unset.omitted.member "from_index" (fromIndex.map .integer) ++
    Unset.omitted.member "limit" (limit.map .integer)

/-- The value that a message sends. -/
def toJson : Message → Json
  | instantiate denom => single "denom" (.string denom)
  | registerAgent => single "register_agent" (.object [])
  | proxyCall => single "proxy_call" (.object [])
  | createTask task => single "create_task" (single "task" (.object (taskMembers task)))
  | removeTask hash => single "remove_task" (single "task_hash" (.string hash))
  | refillTaskBalance hash => single "refill_task_balance" (single "task_hash" (.string hash))
  | queryTasks fromIndex limit => single "get_tasks" (.object (pageMembers fromIndex limit))
  | queryTasksOfOwner owner => single "get_tasks_by_owner" (single "owner_id" (.string owner))
  | queryTask hash => single "get_task" (single "task_hash" (.string hash))
  | validateInterval interval =>
    single "validate_interval" (single "interval" interval.toJson)
  | queryTaskHash task owner deposit =>
    single "get_task_hash" (single "task" (.object (hashedMembers task owner deposit)))
  | querySlotIds => single "get_slot_ids" (.object [])
  | querySlotHashes slot =>
    single "get_slot_hashes" (single "slot" ((slot.map Json.integer).getD .null))

/-- The text of a message, as `write` writes it where it can.  Sessions use it for all messages: an
operation whose message cannot be written reaches no node, and is left out of them. -/
def text (message : Message) : String :=
  message.toJson.encode

/-- What is written of a message, of which `depth` brackets may be open at once. -/
def write (depth : Nat) (message : Message) : Except Json.WriteError String :=
  message.toJson.write depth

/-- What is written of the message that creates a delegation.  The amount is written on its own
before the task is made of it. -/
def writeDelegation (depth : Nat) (validator : String) (amount : Int) (denom : String)
    (gasLimit : Int) : Except Json.WriteError String := do
  let _ ← Json.writeInteger amount
  (createTask (.delegate validator amount denom gasLimit)).write depth

end Message

end ContractDrill
