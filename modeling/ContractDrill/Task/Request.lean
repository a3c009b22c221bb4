import ContractDrill.Task.Basic

/-!
# Task requests and stored tasks

A request has at least one action.  The contract lists a task with its hash, its owner and what
was deposited for it; there, only the hash, the owner and the interval have to be given.
-/

namespace ContractDrill

open Schema

/-- What is asked of the contract to create a task. -/
structure TaskRequest where
  interval : Interval
  boundary : Boundary
  stopOnFail : Bool
  actions : SomeOf Action
  rules : Option (List Json.Members)

/-- The request that a value describes. -/
def TaskRequest.ofJson : Reader TaskRequest :=
  record fun members =>
    TaskRequest.mk <$> optional "interval" .immediate Interval.ofJson members
      <*> optional "boundary" .unbounded Boundary.ofJson members
      <*> optional "stop_on_fail" false truth members
      <*> required "actions" (someOf Action.ofJson) members
      <*> optional "rules" none (nullable (list freeForm)) members

/-- The object that describes a request. -/
def TaskRequest.toJson (unset : Unset) (task : TaskRequest) : Json :=
  .object ([("interval", task.interval.toJson),
      ("boundary", task.boundary.toJson unset),
      ("stop_on_fail", .bool task.stopOnFail),
      ("actions", .array (task.actions.val.map (·.toJson unset)))] ++
    unset.member "rules" (task.rules.map rulesToJson))

/-- A task as the contract lists it. -/
structure StoredTask where
  hash : String
  owner : String
  interval : Interval
  boundary : Option Boundary
  stopOnFail : Bool
  deposit : List Coin
  actions : List Action
  rules : Option (List Json.Members)

/-- The stored task that a value describes. -/
def StoredTask.ofJson : Reader StoredTask :=
  record fun members =>
    StoredTask.mk <$> required "task_hash" text members
      <*> required "owner_id" text members
      <*> required "interval" Interval.ofJson members
      <*> optional "boundary" none (nullable Boundary.ofJson) members
      <*> optional "stop_on_fail" false truth members
      <*> optional "total_deposit" [] (list Coin.ofJson) members
      <*> optional "actions" [] (list Action.ofJson) members
      <*> optional "rules" none (nullable (list freeForm)) members

/-- The object that describes a stored task. -/
def StoredTask.toJson (unset : Unset) (task : StoredTask) : Json :=
  .object ([("task_hash", .string task.hash),
      ("owner_id", .string task.owner),
      ("interval", task.interval.toJson)] ++
    unset.member "boundary" (task.boundary.map (·.toJson unset)) ++
    [("stop_on_fail", .bool task.stopOnFail),
      ("total_deposit", .array (task.deposit.map (·.toJson))),
      ("actions", .array (task.actions.map (·.toJson unset)))] ++
    unset.member "rules" (task.rules.map rulesToJson))

end ContractDrill
