import ContractDrill.Proofs.Session.Frame
import ContractDrill.Proofs.Session.Progress

/-!
# What single operations do

Operations come in two kinds, apart from the run.  Some belong to a step: they run one command, and
it is recorded under the name of the step (`Operation.step?`, `Operation.command?`); if they fail
early they run none.  The others are quiet: they ask as often as they like, and leave no record.

This is the specification of the single operations (`runsOne_perform`, `asks_perform`).  What holds
of any sequence of operations is proved from it, without another look at the steps.
-/

namespace ContractDrill

/-- The record that an exchange leaves in the log if it belongs to the step `step?`: one that came
to an end, or did not find its program, leaves the command, the exit code and what was printed. -/
def Exchange.record? (settings : Settings) (step? : Option String) (exchange : Exchange) :
    Option StepRecord :=
  match step?, exchange.reply with
  | some name, .finished exitCode output _ =>
    some ⟨name, exchange.command.argv settings, exitCode, output.getD ""⟩
  | some name, .missing _ => some ⟨name, exchange.command.argv settings, 127, ""⟩
  | some _, .denied _ => none
  | none, _ => none

namespace Exchange

section

variable {settings : Settings} {step? : Option String} {name : String} {command : NodeCommand}
  {reply : Reply}

/-- A command that ends well is recorded with its output. -/
theorem record?_of_result_eq_ok {succeeded : Reply.Succeeded}
    (h : reply.result (command.argv settings) = .ok succeeded) :
    record? settings (some name) ⟨step?, command, reply⟩ =
      some ⟨name, succeeded.argv, 0, succeeded.output.getD ""⟩ := by
  obtain ⟨rfl, hargv⟩ := Reply.result_eq_ok_iff.mp h
  rw [hargv]
  rfl

theorem record?_of_result_eq_failed {failed : Reply.Failed}
    (h : reply.result (command.argv settings) = .error (.failed failed)) :
    record? settings (some name) ⟨step?, command, reply⟩ =
      some ⟨name, failed.argv, failed.exitCode, failed.output⟩ := by
  rcases Reply.result_eq_failed_iff.mp h with ⟨reason, rfl, rfl⟩ | ⟨_, _, _, rfl, -, rfl⟩
  · rfl
  · rfl

/-- A command that is denied leaves no record. -/
theorem record?_of_result_eq_denied {reason : String}
    (h : reply.result (command.argv settings) = .error (.denied reason)) :
    record? settings (some name) ⟨step?, command, reply⟩ = none := by
  obtain rfl := Reply.result_eq_denied_iff.mp h
  rfl

end

end Exchange

namespace Operation

/-- The name of the step that an operation is in the log.  A run has none of its own. -/
def step? : Operation → Option String
  | instantiate => some "instantiate"
  | resolveAddress => some "resolve"
  | registerAgent => some "register_agent"
  | createTask _ => some "create_task"
  | queryTasks => some "get_tasks"
  | proxyCall => some "proxy_call"
  | queryTasksOfOwner _ => some "get_tasks_by_owner"
  | queryTask _ => some "get_task"
  | queryTaskHash .. => some "get_task_hash"
  | querySlotIds => some "get_slot_ids"
  | querySlotHashes _ => some "get_slot_hashes"
  | validateInterval _ => some "validate_interval"
  | removeTask .. => some "remove_task"
  | refillTaskBalance .. => some "refill_task_balance"
  | fetchTasks | fetchSchedule | await | run | contract => none

/-- The command of an operation that is a step, in a session with the given contract. -/
def command? (session : Session) (contract : Option String) : Operation → Option NodeCommand
  | instantiate => some session.instantiation
  | resolveAddress => some (.listContracts session.settings.codeId)
  | registerAgent => contract.map session.registration
  | createTask amount => contract.map (session.creation · amount)
  | queryTasks => contract.map Session.tasksQuery
  | proxyCall => contract.map session.agentCall
  | queryTasksOfOwner owner => contract.map (.query · (Message.queryTasksOfOwner owner).text)
  | queryTask hash => contract.map (.query · (Message.queryTask hash).text)
  | queryTaskHash task owner deposit =>
    contract.map (.query · (Message.queryTaskHash task owner deposit).text)
  | querySlotIds => contract.map (.query · Message.querySlotIds.text)
  | querySlotHashes slot => contract.map (.query · (Message.querySlotHashes slot).text)
  | validateInterval interval => contract.map (.query · (Message.validateInterval interval).text)
  | removeTask hash sender =>
    contract.map (.execute · (Message.removeTask hash).text (session.senderOr sender) none)
  | refillTaskBalance hash amount sender =>
    contract.map (.execute · (Message.refillTaskBalance hash).text (session.senderOr sender)
      (some (session.settings.coin amount)))
  | fetchTasks | fetchSchedule | await | run | .contract => none

end Operation

namespace Session

/-! ### Steps that run one command -/

/-- Nothing was said to the node, and nothing was recorded. -/
def Unspoken (state final : SessionState) : Prop :=
  final.exchanges = state.exchanges ∧ final.log = state.log

/-- One command was run, and recorded as the step `name`. -/
structure Recorded (session : Session) (name : String) (command : NodeCommand)
    (state final : SessionState) : Prop where
  exchanges_eq : final.exchanges = state.exchanges ++ [⟨some name, command, state.reply⟩]
  log_eq : final.log = state.log ++
    (Exchange.record? session.settings (some name) ⟨some name, command, state.reply⟩).toList

/-- The step runs one command, which `command?` makes of the contract, and records it; if it fails,
it may have run none. -/
def RunsOne {α : Type} (session : Session) (name : String)
    (command? : Option String → Option NodeCommand) (x : SessionM α) : Prop :=
  ∀ state, Ends x state
    (fun _ final => ∃ command, command? state.contract = some command ∧
      Recorded session name command state final)
    fun _ final => Unspoken state final ∨ ∃ command, command? state.contract = some command ∧
      Recorded session name command state final

section

variable {α β : Type} {session : Session} {name : String}

theorem keeps_unspoken_pure (value : α) : Keeps Unspoken (pure value) :=
  fun _ => ⟨rfl, rfl⟩

theorem keeps_unspoken_present (report : Report) : Keeps Unspoken (session.present report) :=
  fun _ => Ends.present (fun _ => ⟨rfl, rfl⟩) fun _ _ => ⟨rfl, rfl⟩

theorem Says.trans_unspoken {state between final : SessionState} {p : List Exchange → Prop}
    (h : Says state between p) (h' : Unspoken between final) : Says state final p := by
  obtain ⟨issued, hissued, hp⟩ := h
  exact ⟨issued, h'.1.trans hissued, hp⟩

/-- What follows without a word leaves the record as it is. -/
theorem Recorded.trans {command : NodeCommand} {state between final : SessionState}
    (h : Recorded session name command state between) (h' : Unspoken between final) :
    Recorded session name command state final where
  exchanges_eq := h'.1.trans h.exchanges_eq
  log_eq := h'.2.trans h.log_eq

/-- A command that fails is recorded like one that does not. -/
theorem runsOne_logged (command : NodeCommand) :
    RunsOne session name (fun _ => some command) (session.logged name command) := by
  intro state
  refine Ends.logged (fun succeeded lines hr => ?_) (fun error hr => .inr ?_)
    fun reason hr => .inr ?_
  · refine ⟨command, rfl, rfl, ?_⟩
    rw [Exchange.record?_of_result_eq_ok hr]
    rfl
  · refine ⟨command, rfl, rfl, ?_⟩
    rw [Exchange.record?_of_result_eq_failed hr]
    rfl
  · refine ⟨command, rfl, rfl, ?_⟩
    rw [Exchange.record?_of_result_eq_denied hr, Option.toList_none, List.append_nil]
    rfl

/-- What follows the command says nothing more. -/
theorem RunsOne.bind {command? : Option String → Option NodeCommand} {x : SessionM α}
    {f : α → SessionM β} (hx : RunsOne session name command? x)
    (hf : ∀ value, Keeps Unspoken (f value)) : RunsOne session name command? (x >>= f) := by
  intro state
  rw [ends_bind]
  refine (hx state).mono (fun value between hb => ?_) fun _ _ hfailed => hfailed
  obtain ⟨command, hcommand, hrecorded⟩ := hb
  refine (hf value between).mono (fun _ final hd => ?_) fun _ final hd => .inr ?_
  · exact ⟨command, hcommand, hrecorded.trans hd⟩
  · exact ⟨command, hcommand, hrecorded.trans hd⟩

/-- A title may be shown first. -/
theorem RunsOne.titled {command? : Option String → Option NodeCommand} {title : Report}
    {f : Unit → SessionM α} (hf : RunsOne session name command? (f ())) :
    RunsOne session name command? (session.present title >>= f) := by
  intro state
  rw [ends_bind]
  refine Ends.present (fun lines => ?_) fun _ _ => .inl ⟨rfl, rfl⟩
  -- Behind the title everything else is as it was.
  refine (hf (state.showing lines)).mono (fun _ final hd => ?_) fun _ final hd => ?_
  · obtain ⟨command, hcommand, hrecorded⟩ := hd
    exact ⟨command, hcommand, hrecorded.exchanges_eq, hrecorded.log_eq⟩
  · refine hd.imp (fun hidle => ⟨hidle.1, hidle.2⟩) ?_
    rintro ⟨command, hcommand, hrecorded⟩
    exact ⟨command, hcommand, hrecorded.exchanges_eq, hrecorded.log_eq⟩

/-- The command may be made of the contract of the session. -/
theorem runsOne_contract {command : String → NodeCommand} {f : String → SessionM α}
    (hf : ∀ address, RunsOne session name (fun _ => some (command address)) (f address)) :
    RunsOne session name (Option.map command) (contract >>= f) := by
  intro state
  rw [ends_bind, ends_contract]
  cases hc : state.contract with
  | none => exact .inl ⟨rfl, rfl⟩
  | some address => exact hf address state

/-- An execution is one command to the contract of the session. -/
theorem runsOne_execute (message : Message) (sender : String) (funds : Option String) :
    RunsOne session name (Option.map (.execute · message.text sender funds))
      (session.execute name message sender funds) :=
  runsOne_contract fun _ => (runsOne_logged _).bind fun _ => keeps_unspoken_present _

theorem runsOne_ask (message : Message) :
    RunsOne session name (Option.map (.query · message.text)) (session.ask name message) :=
  runsOne_contract fun _ => (runsOne_logged _).bind fun _ => keeps_unspoken_pure _

theorem runsOne_resolveAddress :
    RunsOne session "resolve" (fun _ => some (.listContracts session.settings.codeId))
      session.resolveAddress := by
  refine RunsOne.titled ((runsOne_logged _).bind fun reply => ?_)
  intro state
  rw [ends_bind, ends_orFail]
  split
  · rw [ends_bind, ends_modify, ends_bind]
    exact Ends.present (fun _ => ⟨rfl, rfl⟩) fun _ _ => ⟨rfl, rfl⟩
  · exact ⟨rfl, rfl⟩

/-- **An operation that is a step runs its command, and records it under its name.** -/
theorem runsOne_perform {operation : Operation} (h : operation.step? = some name) :
    RunsOne session name (operation.command? session) (operation.perform session) := by
  have hdone {α : Type} {x : SessionM α} {f : α → Yield}
      (hx : RunsOne session name (operation.command? session) x) :
      RunsOne session name (operation.command? session) (x >>= fun value => pure (f value)) :=
    hx.bind fun _ => keeps_unspoken_pure _
  -- The title of a step and its echo are shown around the one command.
  cases operation with
  | instantiate =>
    cases h
    exact hdone (RunsOne.titled ((runsOne_logged _).bind fun _ => keeps_unspoken_pure _))
  | resolveAddress =>
    cases h
    exact hdone runsOne_resolveAddress
  | registerAgent =>
    cases h
    exact hdone (RunsOne.titled (runsOne_execute _ _ _))
  | createTask amount =>
    cases h
    exact hdone (RunsOne.titled (runsOne_execute _ _ _))
  | queryTasks =>
    cases h
    exact hdone (RunsOne.titled (runsOne_ask _))
  | proxyCall =>
    cases h
    exact hdone (RunsOne.titled (runsOne_execute _ _ _))
  | queryTasksOfOwner owner =>
    cases h
    exact hdone (RunsOne.titled (runsOne_ask _))
  | queryTask hash =>
    cases h
    exact hdone (RunsOne.titled (runsOne_ask _))
  | queryTaskHash task owner deposit =>
    cases h
    exact hdone (RunsOne.titled (runsOne_ask _))
  | querySlotIds =>
    cases h
    exact hdone (RunsOne.titled (runsOne_ask _))
  | querySlotHashes slot =>
    cases h
    exact hdone (RunsOne.titled (runsOne_ask _))
  | validateInterval interval =>
    cases h
    exact hdone (RunsOne.titled (runsOne_ask _))
  | removeTask hash sender =>
    cases h
    exact hdone (RunsOne.titled (runsOne_execute _ _ _))
  | refillTaskBalance hash amount sender =>
    cases h
    exact hdone (RunsOne.titled (runsOne_execute _ _ _))
  | fetchTasks => cases h
  | fetchSchedule => cases h
  | await => cases h
  | run => cases h
  | contract => cases h

end

/-! ### Quiet steps -/

/-- Only questions were asked, and they left no record. -/
def Asks (state final : SessionState) : Prop :=
  final.log = state.log ∧ Says state final fun issued =>
    ∀ exchange ∈ issued, exchange.command.IsQuestion

theorem asks_refl (state : SessionState) : Asks state state := by
  refine ⟨rfl, says_refl ?_⟩
  intro exchange hmem
  cases hmem

theorem quietFrame_asks (session : Session) : session.QuietFrame Asks where
  refl := asks_refl
  trans h h' :=
    ⟨h'.1.trans h.1, h.2.trans h'.2 fun _ _ hp hq => List.forall_mem_append.mpr ⟨hp, hq⟩⟩
  showing state _ := asks_refl state
  pausing state _ := asks_refl state
  quietly state command _ hquestion := by
    have hasks : Asks state (state.issued none command) := by
      refine ⟨rfl, [⟨none, command, state.reply⟩], rfl, ?_⟩
      intro exchange hmem
      obtain rfl := List.mem_singleton.mp hmem
      exact hquestion
    rw [ends_quietly]
    split
    · exact hasks
    · exact hasks

/-- **An operation that is no step only asks questions**, and leaves no record. -/
theorem asks_perform {session : Session} {operation : Operation} (h : operation.step? = none)
    (hrun : operation ≠ .run) : Keeps Asks (operation.perform session) := by
  have hframe := quietFrame_asks session
  cases operation with
  | fetchTasks => exact hframe.bind hframe.fetchTasks fun _ => hframe.pure _
  | fetchSchedule => exact hframe.bind hframe.fetchSchedule fun _ => hframe.pure _
  | await => exact hframe.bind hframe.await fun _ => hframe.pure _
  | contract => exact hframe.bind hframe.contract fun _ => hframe.pure _
  | run => exact absurd rfl hrun
  | _ => cases h

end Session

end ContractDrill
