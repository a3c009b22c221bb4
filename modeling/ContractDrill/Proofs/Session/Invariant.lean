import ContractDrill.Proofs.Session.Waiting

/-!
# Invariants of a run

What is true of the exchanges and of the log all through a run is proved from four laws
(`RunInvariant`): one for the commands of the workflow, one for a look at the schedule, one for a
fixed wait, and one for the command that lets the agent run tasks.  The laws know two conditions.
`inv` holds between the steps, and `ready` in addition between a wait and the call of the agent.
How a run fails is a third, `failed`.

`RunInvariant.run` goes through the run once and for all.
-/

namespace ContractDrill

namespace NodeCommand

/-- The command belongs to a look at the schedule. -/
def IsLook : NodeCommand → Prop
  | .status => True
  | .query _ message => message = (Message.querySlotHashes none).text
  | _ => False

/-- The command lets an agent run tasks. -/
def IsAgentCall : NodeCommand → Prop
  | .execute _ message _ _ => message = Message.proxyCall.text
  | _ => False

theorem IsAgentCall.not_isLook {command : NodeCommand} (h : command.IsAgentCall) :
    ¬command.IsLook := by
  cases command with
  | execute contract message sender funds => exact id
  | instantiate codeId message sender label noAdmin => exact h.elim
  | listContracts codeId => exact h.elim
  | query contract message => exact h.elim
  | status => exact h.elim

end NodeCommand

/-- The text of a message with one member begins with the name of the member. -/
theorem Message.toList_text_single (name : String) (value : Json) :
    (single name value).encode.toList =
      '\x7b' :: '"' :: name.toList.flatMap Json.escapeChar ++
        '"' :: ':' :: Json.chars ⟨[], []⟩ value ++ ['\x7d'] := by
  simp [Json.encode, single, Json.chars, Json.memberChars, Json.stringLiteral]

/-- No task that is created is taken for a call of the agent. -/
theorem Message.text_createTask_ne (task : TaskRequest) :
    (createTask task).text ≠ proxyCall.text := by
  intro h
  have htexts := congrArg String.toList h
  simp only [text, toJson, toList_text_single] at htexts
  simp [Json.escapeChar] at htexts

/-- The failure is neither that of a command nor that of a wait. -/
def Failure.IsPlain : Failure → Prop
  | .command _ | .timedOut .. => False
  | _ => True

namespace Session

/-! ### Laws -/

/-- A condition on the exchanges and the log of a state. -/
abbrev Account := List Exchange → List StepRecord → Prop

/-- The step leads from `before` to `after`, or fails with `failed`. -/
def Leads {α : Type} (x : SessionM α) (before after : Account) (failed : Failure → Account) :
    Prop :=
  ∀ state, before state.exchanges state.log →
    Ends x state (fun _ final => after final.exchanges final.log)
      fun failure final => failed failure final.exchanges final.log

/-- The laws of an invariant. -/
structure RunInvariant (session : Session) (inv ready : Account) (failed : Failure → Account) :
    Prop where
  /-- A failure of neither a command nor a wait changes nothing. -/
  fails : ∀ failure, failure.IsPlain → ∀ exchanges log,
    inv exchanges log → failed failure exchanges log
  logged : ∀ name command, ¬command.IsLook → ¬command.IsAgentCall →
    Leads (session.logged name command) inv inv failed
  /-- A wait that is over leaves the agent to be called; any look may be the last one in time. -/
  look : ∀ condition timeout interval, session.wait = .polling condition timeout interval →
    ∀ state, inv state.exchanges state.log → Ends session.fetchSchedule state
      (fun schedule final => inv final.exchanges final.log ∧
        (condition.holds schedule = true → ready final.exchanges final.log) ∧
        ∀ elapsed, failed (.timedOut session.wait elapsed) final.exchanges final.log)
      fun failure final => failed failure final.exchanges final.log
  delay : ∀ seconds, session.wait = .delay seconds → ∀ exchanges log,
    inv exchanges log → ready exchanges log
  weaken : ∀ exchanges log, ready exchanges log → inv exchanges log
  agentCall : ∀ name command, command.IsAgentCall →
    Leads (session.logged name command) ready inv failed

section

variable {α β : Type} {session : Session} {before between after inv ready : Account}
  {failed : Failure → Account}

/-- One step leads to where the next one begins, and each may fail on its own. -/
theorem Leads.bind {x : SessionM α} {f : α → SessionM β} (hx : Leads x before between failed)
    (hf : ∀ value, Leads (f value) between after failed) :
    Leads (x >>= f) before after failed := by
  intro state hs
  rw [ends_bind]
  exact (hx state hs).mono (fun value middle hb => hf value middle hb) fun _ _ h => h

theorem leads_pure (value : α) : Leads (pure value) inv inv failed :=
  fun _ hs => hs

theorem leads_get {f : SessionState → SessionM α}
    (hf : ∀ state, Leads (f state) before after failed) :
    Leads (get >>= f) before after failed := by
  intro state hs
  rw [ends_bind, ends_get]
  exact hf state state hs

/-! ### Steps -/

namespace RunInvariant

variable (h : session.RunInvariant inv ready failed)
include h

/-- Showing a report keeps what is stronger than the invariant, too. -/
theorem present_of (report : Report)
    (hb : ∀ exchanges log, before exchanges log → inv exchanges log) :
    Leads (session.present report) before before failed := by
  intro state hs
  refine Ends.present (fun _ => hs) fun _ _ => ?_
  exact h.fails _ (by trivial) _ _ (hb _ _ hs)

theorem present (report : Report) : Leads (session.present report) inv inv failed :=
  h.present_of report fun _ _ hi => hi

/-- The choice of a contract changes nothing; without one the step fails plainly. -/
theorem contract (hb : ∀ exchanges log, before exchanges log → inv exchanges log) :
    Leads contract before before failed := by
  intro state hs
  rw [ends_contract]
  split
  · exact hs
  · exact h.fails _ (by trivial) _ _ (hb _ _ hs)

theorem orFail {ε : Type} {failure : ε → Failure} (result : Except ε α)
    (hplain : ∀ error, (failure error).IsPlain) :
    Leads (orFail failure result) inv inv failed := by
  intro state hs
  rw [ends_orFail]
  split
  · exact hs
  · exact h.fails _ (hplain _) _ _ hs

theorem execute {name : String} {message : Message} {sender : String} {funds : Option String}
    (hb : ∀ exchanges log, before exchanges log → inv exchanges log)
    (hcommand : ∀ address,
      Leads (session.logged name (.execute address message.text sender funds)) before inv failed) :
    Leads (session.execute name message sender funds) before inv failed :=
  (h.contract hb).bind fun address => (hcommand address).bind fun _ =>
    h.present _

/-- A question other than that for the slots keeps the invariant. -/
theorem ask (name : String) (message : Message)
    (hmessage : message.text ≠ (Message.querySlotHashes none).text) :
    Leads (session.ask name message) inv inv failed :=
  (h.contract fun _ _ hi => hi).bind fun address =>
    (h.logged name (.query address message.text) hmessage id).bind fun _ => leads_pure _

theorem instantiate : Leads session.instantiate inv inv failed :=
  (h.present _).bind fun _ => (h.logged _ _ id id).bind fun _ => leads_pure _

/-- The choice of the contract keeps the invariant. -/
theorem resolveAddress : Leads session.resolveAddress inv inv failed := by
  refine (h.present _).bind fun _ => (h.logged _ _ id id).bind fun reply => ?_
  refine (h.orFail _ fun _ => by trivial).bind fun address => ?_
  have hmodify :
      Leads (modify fun state => { state with contract := some address }) inv inv failed :=
    fun _ hs => hs
  exact hmodify.bind fun _ => (h.present _).bind fun _ => leads_pure _

theorem registerAgent : Leads session.registerAgent inv inv failed := by
  refine (h.present _).bind fun _ => h.execute (fun _ _ hi => hi) fun _ => ?_
  exact h.logged _ _ id (by decide : Message.registerAgent.text ≠ Message.proxyCall.text)

theorem createTask (amount : Int) : Leads (session.createTask amount) inv inv failed := by
  refine (h.present _).bind fun _ => h.execute (fun _ _ hi => hi) fun _ => ?_
  exact h.logged _ _ id (Message.text_createTask_ne _)

theorem queryTasks : Leads session.queryTasks inv inv failed :=
  (h.present _).bind fun _ => h.ask _ _ (by decide)

/-- The call of the agent comes back to the invariant from behind a wait. -/
theorem proxyCall : Leads session.proxyCall ready inv failed :=
  (h.present_of _ h.weaken).bind fun _ => h.execute h.weaken fun _ => h.agentCall _ _ rfl

/-- The loop of a polling wait; a look at which the condition holds ends it. -/
theorem poll {condition : Condition} {timeout interval start : Binary64}
    (hw : session.wait = .polling condition timeout interval) {looks : Nat} {state : SessionState}
    (hs : inv state.exchanges state.log) :
    Ends (Polling.poll ⟨condition.holds, timeout, interval⟩ session.surroundings start looks) state
      (fun outcome final => inv final.exchanges final.log ∧
        (∀ schedule, outcome = some (.met schedule) → ready final.exchanges final.log) ∧
        ∀ elapsed, outcome = some (.timedOut elapsed) →
          failed (.timedOut session.wait elapsed) final.exchanges final.log)
      fun failure final => failed failure final.exchanges final.log := by
  -- Only the look that ends the loop brings more than the loop keeps.
  refine ends_poll (fun _ between => inv between.exchanges between.log)
    (fun _ hi => ⟨hi, fun _ hmet => (nomatch hmet), fun _ htimed => nomatch htimed⟩)
    (fun _ between hi => ?_) hs
  refine (h.look condition timeout interval hw between hi).mono (fun schedule final hl => ?_)
    fun _ _ hf => hf
  obtain ⟨hinv, hready, hlast⟩ := hl
  refine ⟨fun _ _ => h.fails _ (by trivial) _ _ hinv, fun _ => ?_⟩
  split
  · rename_i outcome hnext
    refine ⟨hinv, fun met hmet => hready ?_, fun elapsed _ => hlast elapsed⟩
    cases hmet
    exact Polling.holds_of_next_eq_met hnext
  · exact hinv

/-- Behind a wait the agent may be called. -/
theorem await : Leads session.await inv ready failed := by
  refine (h.present _).bind fun _ => ?_
  intro state hs
  cases hw : session.wait with
  | delay seconds => exact h.delay seconds hw _ _ hs
  | polling condition timeout interval =>
    unfold Polling.wait
    simp only [ends_bind, ends_get]
    refine (h.poll hw hs).mono (fun outcome final hd => ?_) fun _ _ hf => hf
    obtain ⟨hinv, hready, htimed⟩ := hd
    rw [hw] at htimed
    -- A wait without an end has run out of its script.
    cases outcome with
    | none => exact h.fails _ (by trivial) _ _ hinv
    | some outcome =>
      cases outcome with
      | met schedule => exact hready schedule rfl
      | timedOut elapsed => exact htimed elapsed rfl

theorem round : Leads session.round inv inv failed :=
  h.queryTasks.bind fun _ => h.await.bind fun _ => h.proxyCall

/-- **What the steps keep, a run keeps.** -/
theorem run : Leads session.run inv inv failed := by
  refine (h.present _).bind fun _ => h.instantiate.bind fun _ =>
    h.resolveAddress.bind fun _ => h.registerAgent.bind fun _ => ?_
  have hcreations : Leads (session.settings.stakeAmounts.forM session.createTask) inv inv failed :=
    fun _ hs => ends_forM (fun amount _ => h.createTask amount) hs
  have hrounds : Leads ((List.replicate rounds ()).forM fun _ => session.round) inv inv failed :=
    fun _ hs => ends_forM (fun _ _ => h.round) hs
  refine hcreations.bind fun _ => hrounds.bind fun _ => leads_get fun state => ?_
  refine (h.present _).bind fun _ => ?_
  exact (h.contract fun _ _ hi => hi).bind fun _ => (h.present _).bind fun _ =>
    h.contract fun _ _ hi => hi

end RunInvariant

end

end Session

end ContractDrill
