import ContractDrill.Proofs.Session.Workflow
import ContractDrill.Session.Operation

/-!
# Frames

A frame (`Frame`) joins the state in which a step begins to the state in which it ends, whether the
step fails or not.  It has to be a reflexive and transitive relation that what is shown, a pause
and a command do not break; of a command that is addressed to a contract it may be taken for
granted that it is addressed to the contract of the session.

Every operation then keeps the frame (`Frame.perform`), except for the one that chooses the contract
and for the run, which contains it; a run keeps the frame if that one operation does (`Frame.run`).
What the single operations keep, any sequence of them keeps (`performAll_induction`).

A relation that only the quiet commands have to keep (`QuietFrame`) is kept by the looks at the
contract and by the waits.
-/

namespace ContractDrill

/-- The contract that a command is addressed to, if it is addressed to one. -/
def NodeCommand.addressee? : NodeCommand → Option String
  | .execute contract .. | .query contract _ => some contract
  | .instantiate .. | .listContracts _ | .status => none

/-- If the command is addressed to a contract, it is to the one at hand. -/
def NodeCommand.Heeds (contract : Option String) (command : NodeCommand) : Prop :=
  ∀ address, command.addressee? = some address → contract = some address

/-- The command asks for the contracts of a code. -/
def NodeCommand.IsListing : NodeCommand → Prop
  | .listContracts _ => True
  | _ => False

/-- The command only asks for something: the contract for an answer, or the node for its status. -/
def NodeCommand.IsQuestion : NodeCommand → Prop
  | .query .. | .status => True
  | _ => False

/-- A question to the contract asks for no listing. -/
theorem NodeCommand.IsQuestion.not_isListing {command : NodeCommand} (h : command.IsQuestion) :
    ¬command.IsListing := by
  cases command with
  | query contract message => exact id
  | status => exact id
  | _ => exact h.elim

namespace Session

/-- The step, whether it fails or not, ends in a state that `rel` joins to the one it began in. -/
def Keeps {α : Type} (rel : SessionState → SessionState → Prop) (x : SessionM α) : Prop :=
  ∀ state, Ends x state (fun _ => rel state) fun _ => rel state

/-- A relation of states that single actions without a record keep. -/
structure QuietFrame (session : Session) (rel : SessionState → SessionState → Prop) : Prop where
  refl : ∀ state, rel state state
  trans : ∀ {first second third}, rel first second → rel second third → rel first third
  showing : ∀ state lines, rel state (state.showing lines)
  pausing : ∀ state duration, rel state (state.pausing duration)
  quietly : ∀ state command, command.Heeds state.contract → command.IsQuestion →
    Ends (session.quietly command) state (fun _ => rel state) fun _ => rel state

/-- A relation of states that single actions keep. -/
structure Frame (session : Session) (rel : SessionState → SessionState → Prop) : Prop
    extends QuietFrame session rel where
  logged : ∀ state name command, command.Heeds state.contract → ¬command.IsListing →
    Ends (session.logged name command) state (fun _ => rel state) fun _ => rel state

/-! ### Rules -/

namespace QuietFrame

section

variable {α β : Type} {session : Session} {rel : SessionState → SessionState → Prop}
  (h : session.QuietFrame rel)
include h

/-- A step may be followed by another one that begins where the first one ended. -/
theorem ends_bind_of {x : SessionM α} {f : α → SessionM β} {state : SessionState}
    (hx : Ends x state (fun _ => rel state) fun _ => rel state)
    (hf : ∀ value, Keeps rel (f value)) :
    Ends (x >>= f) state (fun _ => rel state) fun _ => rel state := by
  rw [ends_bind]
  refine hx.mono (fun value between hb => ?_) fun _ _ hfailed => hfailed
  exact (hf value between).mono (fun _ _ hd => h.trans hb hd) fun _ _ hd => h.trans hb hd

/-- Steps that keep the relation keep it one after the other. -/
theorem bind {x : SessionM α} {f : α → SessionM β} (hx : Keeps rel x)
    (hf : ∀ value, Keeps rel (f value)) : Keeps rel (x >>= f) :=
  fun state => h.ends_bind_of (hx state) hf

theorem pure (value : α) : Keeps rel (Pure.pure value) :=
  fun state => h.refl state

theorem forM {f : β → SessionM PUnit} {items : List β} (hf : ∀ item, Keeps rel (f item)) :
    Keeps rel (items.forM f) := by
  intro state
  refine ends_forM (fun item _ between hb => ?_) (h.refl state)
  exact (hf item between).mono (fun _ _ hd => h.trans hb hd) fun _ _ hd => h.trans hb hd

theorem present (report : Report) : Keeps rel (session.present report) :=
  fun state =>
    Ends.present (fun lines => h.showing state lines) fun _ lines => h.showing state lines

theorem orFail {ε : Type} {failure : ε → Failure} {result : Except ε α} :
    Keeps rel (orFail failure result) := by
  intro state
  rw [ends_orFail]
  split
  · exact h.refl state
  · exact h.refl state

theorem contract : Keeps rel contract := by
  intro state
  rw [ends_contract]
  split
  · exact h.refl state
  · exact h.refl state

/-- What is done with the contract of the session begins where that contract is known. -/
theorem contract_bind {f : String → SessionM α}
    (hf : ∀ state address, state.contract = some address →
      Ends (f address) state (fun _ => rel state) fun _ => rel state) :
    Keeps rel (Session.contract >>= f) := by
  intro state
  rw [ends_bind, ends_contract]
  cases hc : state.contract with
  | none => exact h.refl state
  | some address => exact hf state address hc

/-! ### Quiet steps -/

theorem askQuietly {message : Message} : Keeps rel (session.askQuietly message) :=
  h.contract_bind fun state _ hc =>
    h.ends_bind_of (h.quietly state _ (fun _ heq => hc.trans heq) trivial) fun _ => h.pure _

theorem fetchTasks : Keeps rel session.fetchTasks :=
  h.bind h.askQuietly fun _ => h.orFail

/-- A look at the schedule keeps the relation: its two commands do. -/
theorem fetchSchedule : Keeps rel session.fetchSchedule := by
  refine h.bind h.askQuietly fun _ => h.bind h.orFail fun _ => ?_
  have hstatus := fun state => h.quietly state .status (fun _ heq => nomatch heq) trivial
  refine h.bind hstatus fun _ => ?_
  exact h.bind h.orFail fun _ => h.pure _

/-- A wait keeps the frame look by look. -/
theorem await : Keeps rel session.await := by
  refine h.bind (h.present _) fun _ => ?_
  cases session.wait with
  | delay seconds => exact fun state => h.pausing state seconds
  | polling condition timeout interval =>
    intro state
    unfold Polling.wait
    simp only [ends_bind, ends_get]
    -- What is kept between the looks is the relation to the state in which the wait began.
    have hloop : Ends (Polling.poll ⟨condition.holds, timeout, interval⟩ session.surroundings
        state.now (state.script.length + 1)) state (fun _ => rel state) fun _ => rel state := by
      refine ends_poll (fun _ between => rel state between) (fun _ hb => hb)
        (fun _ between hb => ?_) (h.refl state)
      refine (h.fetchSchedule between).mono (fun _ looked hd => ?_) fun _ _ hd => h.trans hb hd
      have hlooked := h.trans hb hd
      refine ⟨fun _ lines => h.trans hlooked (h.showing looked lines), fun lines => ?_⟩
      have hshown := h.trans hlooked (h.showing looked lines)
      split
      · exact hshown
      · exact h.trans hshown (h.pausing _ _)
    refine hloop.mono (fun outcome final hd => ?_) fun _ _ hd => hd
    cases outcome with
    | none => exact hd
    | some outcome =>
      cases outcome with
      | met schedule => exact hd
      | timedOut elapsed => exact hd

end

end QuietFrame

namespace Frame

section

variable {session : Session} {rel : SessionState → SessionState → Prop} (h : session.Frame rel)
include h

/-- A frame of more states. -/
theorem weaken {rel' : SessionState → SessionState → Prop}
    (hrel : ∀ {state final}, rel state final → rel' state final)
    (htrans : ∀ {first second third}, rel' first second → rel' second third → rel' first third) :
    session.Frame rel' where
  refl state := hrel (h.refl state)
  trans := htrans
  showing state lines := hrel (h.showing state lines)
  pausing state duration := hrel (h.pausing state duration)
  quietly state command hheeds hquestion :=
    (h.quietly state command hheeds hquestion).mono (fun _ _ => hrel) fun _ _ => hrel
  logged state name command hheeds hlisting :=
    (h.logged state name command hheeds hlisting).mono (fun _ _ => hrel) fun _ _ => hrel

/-! ### Steps -/

/-- A transaction of the contract keeps the relation. -/
theorem execute {name : String} {message : Message} {sender : String} {funds : Option String} :
    Keeps rel (session.execute name message sender funds) :=
  h.contract_bind fun state _ hc =>
    h.ends_bind_of (h.logged state name _ (fun _ heq => hc.trans heq) id) fun _ => h.present _

theorem ask {name : String} {message : Message} : Keeps rel (session.ask name message) :=
  h.contract_bind fun state _ hc =>
    h.ends_bind_of (h.logged state name _ (fun _ heq => hc.trans heq) id) fun _ => h.pure _

/-- A message to the contract, behind its title. -/
theorem titled_execute {title : Report} {name : String} {message : Message} {sender : String}
    {funds : Option String} :
    Keeps rel (session.present title >>= fun _ => session.execute name message sender funds) :=
  h.bind (h.present title) fun _ => h.execute

/-- A question to the contract, behind its title. -/
theorem titled_ask {title : Report} {name : String} {message : Message} :
    Keeps rel (session.present title >>= fun _ => session.ask name message) :=
  h.bind (h.present title) fun _ => h.ask

theorem instantiate : Keeps rel session.instantiate := by
  refine h.bind (h.present _) fun _ state => ?_
  exact h.ends_bind_of (h.logged state _ _ (fun _ heq => nomatch heq) id) fun _ => h.pure _

/-! ### Operations -/

/-- Every operation but the choice of the contract and the run, which contains it, keeps the
frame. -/
theorem perform {operation : Operation} (hresolve : operation ≠ .resolveAddress)
    (hrun : operation ≠ .run) : Keeps rel (operation.perform session) := by
  cases operation with
  | instantiate => exact h.bind h.instantiate fun _ => h.pure _
  | resolveAddress => exact absurd rfl hresolve
  | registerAgent => exact h.bind h.titled_execute fun _ => h.pure _
  | createTask amount => exact h.bind h.titled_execute fun _ => h.pure _
  | queryTasks => exact h.bind h.titled_ask fun _ => h.pure _
  | fetchTasks => exact h.bind h.fetchTasks fun _ => h.pure _
  | fetchSchedule => exact h.bind h.fetchSchedule fun _ => h.pure _
  | await => exact h.bind h.await fun _ => h.pure _
  | proxyCall => exact h.bind h.titled_execute fun _ => h.pure _
  | queryTasksOfOwner owner => exact h.bind h.titled_ask fun _ => h.pure _
  | queryTask hash => exact h.bind h.titled_ask fun _ => h.pure _
  | queryTaskHash task owner deposit => exact h.bind h.titled_ask fun _ => h.pure _
  | querySlotIds => exact h.bind h.titled_ask fun _ => h.pure _
  | querySlotHashes slot => exact h.bind h.titled_ask fun _ => h.pure _
  | validateInterval interval => exact h.bind h.titled_ask fun _ => h.pure _
  | removeTask hash sender => exact h.bind h.titled_execute fun _ => h.pure _
  | refillTaskBalance hash amount sender => exact h.bind h.titled_execute fun _ => h.pure _
  | run => exact absurd rfl hrun
  | contract => exact h.bind h.contract fun _ => h.pure _

theorem round : Keeps rel session.round :=
  h.bind h.titled_ask fun _ => h.bind h.await fun _ => h.titled_execute

/-- What a run does once the contract is found. -/
theorem exercise : Keeps rel session.exercise := by
  refine h.bind h.titled_execute fun _ => ?_
  refine h.bind (h.forM fun _ => h.titled_execute) fun _ => ?_
  refine h.bind (h.forM fun _ => h.round) fun _ state => ?_
  rw [ends_bind, ends_get]
  exact h.bind (h.present _) (fun _ => h.bind h.contract fun _ => h.present _) state

/-- A run keeps the relation if the choice of its contract does. -/
theorem run (hresolve : Keeps rel session.resolveAddress) : Keeps rel session.run := by
  rw [run_eq]
  refine h.bind (h.bind (h.present _) fun _ => h.instantiate) fun _ => ?_
  exact h.bind hresolve fun _ => h.bind h.exercise fun _ => h.contract

/-- Every operation keeps the frame, if the choice of the contract does. -/
theorem perform_of_resolveAddress (hresolve : Keeps rel session.resolveAddress)
    (operation : Operation) : Keeps rel (operation.perform session) := by
  by_cases hchoice : operation = .resolveAddress
  · subst hchoice
    exact h.bind hresolve fun _ => h.pure _
  · by_cases hrun : operation = .run
    · subst hrun
      exact h.bind (h.run hresolve) fun _ => h.pure _
    · exact h.perform hchoice hrun

end

end Frame

/-! ### Operations in a row -/

/-- The state behind some operations.  Each begins in the state that the one in front of it has
left, whether that one failed or not. -/
def performAll (session : Session) (state : SessionState) (operations : List Operation) :
    SessionState :=
  operations.foldl (fun state operation => ((operation.perform session).run state).2) state

/-- What every operation keeps, any sequence of them keeps. -/
theorem performAll_induction {session : Session} {inv : SessionState → Prop}
    (h : ∀ (operation : Operation) state, inv state →
      Ends (operation.perform session) state (fun _ => inv) fun _ => inv)
    {state : SessionState} (hs : inv state) (operations : List Operation) :
    inv (session.performAll state operations) := by
  induction operations generalizing state with
  | nil => exact hs
  | cons operation operations ih => exact ih (h operation state hs).final

end Session

end ContractDrill
