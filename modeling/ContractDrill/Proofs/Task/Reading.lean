import ContractDrill.Message

/-!
# Reading tasks back

Each part of a task is read back from the value that describes it, whether what is unset in it is
written as `null` or left out.  A whole task is read from any members that give each field its
value (`TaskRequest.ofJson_object`, `StoredTask.ofJson_object`), in any order.

What is sent to the contract is built by hand, with members of its own.  It reads back all the
same: as the request that it was made of (`TaskRequest.ofJson_taskMembers`), and, together with a
hash, as the task that the contract stores for it (`StoredTask.ofJson_hashedMembers`).
-/

namespace ContractDrill

open Schema

/-! ### Parts of a task -/

theorem Coin.ofJson_toJson (coin : Coin) : ofJson coin.toJson = .valid coin := rfl

theorem Interval.ofJson_toJson (interval : Interval) :
    ofJson interval.toJson = .valid interval := by
  cases interval with
  | named name => rfl
  | custom members => rfl

/-- A boundary is read back, whatever is done about what is unset in it. -/
theorem Boundary.ofJson_toJson (unset : Unset) (boundary : Boundary) :
    ofJson (boundary.toJson unset) = .valid boundary := by
  obtain ⟨start, finish⟩ := boundary
  cases start <;> cases finish <;> cases unset <;> rfl

theorem Action.ofJson_toJson (unset : Unset) (action : Action) :
    ofJson (action.toJson unset) = .valid action := by
  obtain ⟨message, gasLimit⟩ := action
  cases gasLimit <;> cases unset <;> rfl

theorem list_freeForm_rulesToJson (rules : List Json.Members) :
    list freeForm (rulesToJson rules) = .valid rules := by
  have hitem (members : Json.Members) : freeForm (.object members) = .valid members := rfl
  exact list_map hitem rules

/-- Unset rules are `null`. -/
theorem nullable_rules (rules : Option (List Json.Members)) :
    nullable (list freeForm) ((rules.map rulesToJson).getD .null) = .valid rules := by
  cases rules with
  | none => rfl
  | some rules => exact congrArg (some <$> ·) (list_freeForm_rulesToJson rules)

/-! ### Requests -/

/-- A request is read from any members that give each field its value. -/
theorem TaskRequest.ofJson_object {task : TaskRequest} {members : Json.Members}
    {interval boundary stopOnFail actions : Json}
    (hinterval : members.get? "interval" = some interval)
    (hboundary : members.get? "boundary" = some boundary)
    (hstop : members.get? "stop_on_fail" = some stopOnFail)
    (hactions : members.get? "actions" = some actions)
    (hintervalEq : Interval.ofJson interval = .valid task.interval)
    (hboundaryEq : Boundary.ofJson boundary = .valid task.boundary)
    (hstopEq : truth stopOnFail = .valid task.stopOnFail)
    (hactionsEq : someOf Action.ofJson actions = .valid task.actions)
    (hrules : optional "rules" none (nullable (list freeForm)) members = .valid task.rules) :
    ofJson (.object members) = .valid task := by
  -- The fields are looked up one by one, so the order of the members does not matter.
  show TaskRequest.mk <$> optional "interval" .immediate Interval.ofJson members
      <*> optional "boundary" .unbounded Boundary.ofJson members
      <*> optional "stop_on_fail" false truth members
      <*> required "actions" (someOf Action.ofJson) members
      <*> optional "rules" none (nullable (list freeForm)) members = _
  rw [optional_of_get? hinterval hintervalEq, optional_of_get? hboundary hboundaryEq,
    optional_of_get? hstop hstopEq, required_of_get? hactions hactionsEq, hrules]
  rfl

/-- The body of the message that creates a task is read as the request for that task. -/
theorem TaskRequest.ofJson_taskMembers (task : TaskRequest) :
    ofJson (.object (Message.taskMembers task)) = .valid task := by
  apply ofJson_object rfl rfl rfl rfl
  · exact Interval.ofJson_toJson task.interval
  · exact Boundary.ofJson_toJson .omitted task.boundary
  · rfl
  · exact someOf_map (Action.ofJson_toJson .omitted) task.actions
  · exact optional_of_get? rfl (nullable_rules task.rules)

/-! ### Stored tasks -/

/-- The task that the contract stores for a request. -/
def TaskRequest.stored (task : TaskRequest) (hash owner : String) (deposit : List Coin) :
    StoredTask where
  hash := hash
  owner := owner
  interval := task.interval
  boundary := some task.boundary
  stopOnFail := task.stopOnFail
  deposit := deposit
  actions := task.actions.val
  rules := task.rules

/-- A stored task is read from any members that give each field its value. -/
theorem StoredTask.ofJson_object {task : StoredTask} {members : Json.Members}
    {interval stopOnFail deposit actions : Json}
    (hhash : members.get? "task_hash" = some (.string task.hash))
    (howner : members.get? "owner_id" = some (.string task.owner))
    (hinterval : members.get? "interval" = some interval)
    (hstop : members.get? "stop_on_fail" = some stopOnFail)
    (hdeposit : members.get? "total_deposit" = some deposit)
    (hactions : members.get? "actions" = some actions)
    (hintervalEq : Interval.ofJson interval = .valid task.interval)
    (hstopEq : truth stopOnFail = .valid task.stopOnFail)
    (hdepositEq : list Coin.ofJson deposit = .valid task.deposit)
    (hactionsEq : list Action.ofJson actions = .valid task.actions)
    (hboundary : optional "boundary" none (nullable Boundary.ofJson) members =
      .valid task.boundary)
    (hrules : optional "rules" none (nullable (list freeForm)) members = .valid task.rules) :
    ofJson (.object members) = .valid task := by
  have htext (value : String) : text (.string value) = .valid value := rfl
  show StoredTask.mk <$> required "task_hash" text members
      <*> required "owner_id" text members
      <*> required "interval" Interval.ofJson members
      <*> optional "boundary" none (nullable Boundary.ofJson) members
      <*> optional "stop_on_fail" false truth members
      <*> optional "total_deposit" [] (list Coin.ofJson) members
      <*> optional "actions" [] (list Action.ofJson) members
      <*> optional "rules" none (nullable (list freeForm)) members = _
  rw [required_of_get? hhash (htext _), required_of_get? howner (htext _),
    required_of_get? hinterval hintervalEq, hboundary, optional_of_get? hstop hstopEq,
    optional_of_get? hdeposit hdepositEq, optional_of_get? hactions hactionsEq, hrules]
  rfl

theorem nullable_boundary (unset : Unset) (boundary : Boundary) :
    nullable Boundary.ofJson (boundary.toJson unset) = .valid (some boundary) :=
  congrArg (some <$> ·) (Boundary.ofJson_toJson unset boundary)

/-- The body of the message that asks for the hash of a task is read, together with a hash, as the
task that the contract stores. -/
theorem StoredTask.ofJson_hashedMembers (task : TaskRequest) (hash owner : String)
    (deposit : List Coin) :
    ofJson (.object (("task_hash", .string hash) :: Message.hashedMembers task owner deposit)) =
      .valid (task.stored hash owner deposit) := by
  apply ofJson_object rfl rfl rfl rfl rfl rfl
  · exact Interval.ofJson_toJson task.interval
  · rfl
  · exact list_map Coin.ofJson_toJson deposit
  · exact list_map (Action.ofJson_toJson .omitted) task.actions.val
  · exact optional_of_get? rfl (nullable_boundary .omitted task.boundary)
  · exact optional_of_get? rfl (nullable_rules task.rules)

end ContractDrill
