import ContractDrill.Session.Run

/-!
# Operations

All that can be asked of a session, in any order, where its messages can be written
(`Message.write`).
-/

namespace ContractDrill

/-- Something to do in a session. -/
inductive Operation where
  | instantiate
  | resolveAddress
  | registerAgent
  | createTask (amount : Int)
  | queryTasks
  | fetchTasks
  | fetchSchedule
  | await
  | proxyCall
  | queryTasksOfOwner (owner : String)
  | queryTask (hash : String)
  | queryTaskHash (task : TaskRequest) (owner : String) (deposit : List Coin)
  | querySlotIds
  | querySlotHashes (slot : Option Int)
  | validateInterval (interval : Interval)
  | removeTask (hash : String) (sender : Option String)
  | refillTaskBalance (hash : String) (amount : Int) (sender : Option String)
  | run
  /-- Tell the contract of the session. -/
  | contract

/-- What an operation yields. -/
inductive Yield where
  | nothing
  | text (value : Option String)
  | tasks (value : List StoredTask)
  | schedule (value : SlotSchedule)

/-- The value that an operation yields. -/
def Yield.toJson : Yield → Json
  | nothing => .null
  | text value => (value.map Json.string).getD .null
  | tasks value => TaskList.toJson value
  | schedule value => value.toJson

/-- Does an operation. -/
def Operation.perform (session : Session) : Operation → SessionM Yield
  | instantiate => do session.instantiate; return .nothing
  | resolveAddress => return .text (some (← session.resolveAddress))
  | registerAgent => do session.registerAgent; return .nothing
  | createTask amount => do session.createTask amount; return .nothing
  | queryTasks => return .text (← session.queryTasks)
  | fetchTasks => return .tasks (← session.fetchTasks)
  | fetchSchedule => return .schedule (← session.fetchSchedule)
  | await => do session.await; return .nothing
  | proxyCall => do session.proxyCall; return .nothing
  | queryTasksOfOwner owner => return .text (← session.queryTasksOfOwner owner)
  | queryTask hash => return .text (← session.queryTask hash)
  | queryTaskHash task owner deposit => return .text (← session.queryTaskHash task owner deposit)
  | querySlotIds => return .text (← session.querySlotIds)
  | querySlotHashes slot => return .text (← session.querySlotHashes slot)
  | validateInterval interval => return .text (← session.validateInterval interval)
  | removeTask hash sender => do session.removeTask hash sender; return .nothing
  | refillTaskBalance hash amount sender => do
    session.refillTaskBalance hash amount sender
    return .nothing
  | run => return .text (some (← session.run))
  | contract => return .text (some (← Session.contract))

end ContractDrill
