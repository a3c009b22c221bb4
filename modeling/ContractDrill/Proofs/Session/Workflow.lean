import ContractDrill.Proofs.Session.Waiting
import Mathlib.Algebra.BigOperators.Group.List.Basic
import Mathlib.Computability.Language

/-!
# The commands of a run

What a run says to the node is a word of a language (`Session.workflow`): a contract is made and
found, the agent registers, each stake becomes a task, and then two rounds follow, of a look at the
tasks, a wait, and a call that lets the agent run them.  A fixed wait says nothing to the node; a
polling one asks for the slots and for the status, once or more often.

A run that comes through has spoken a whole word, and one that fails has spoken the beginning of
one (`run_follows_workflow`).  Every command on the way ended well and had its output accepted
(`Exchange.Accepted`); only the last one of a run that fails may be different.

The proof goes along the run.  `Follows` says of a step that its commands are a word of a language,
and the rules for it join the words of steps in a row.
-/

namespace ContractDrill

open Computability

namespace Exchange

/-- The command ended well, and its output is accepted by whatever reads it: an address is listed,
the slots are given, the chain head is told. -/
def Accepted (exchange : Exchange) : Prop :=
  ∃ output errors, exchange.reply = .finished 0 output errors ∧
    match exchange.command with
    | .listContracts _ => ∃ address, ContractAddress.readCaptured output = .ok address
    | .query _ message => message = (Message.querySlotHashes none).text →
        ∃ slots, Payload.readCaptured SlotHashes.read output = .ok slots
    | .status => ∃ head, ChainHead.readStatus output errors = .ok head
    | .instantiate .. | .execute .. => True

/-- A command that ended well is accepted just if its output is. -/
theorem accepted_finished_iff {step : Option String} {command : NodeCommand}
    {output errors : Option String} :
    Accepted ⟨step, command, .finished 0 output errors⟩ ↔
      match command with
      | .listContracts _ => ∃ address, ContractAddress.readCaptured output = .ok address
      | .query _ message => message = (Message.querySlotHashes none).text →
          ∃ slots, Payload.readCaptured SlotHashes.read output = .ok slots
      | .status => ∃ head, ChainHead.readStatus output errors = .ok head
      | .instantiate .. | .execute .. => True := by
  constructor
  · rintro ⟨output, errors, hreply, haccepted⟩
    cases hreply
    exact haccepted
  · intro haccepted
    exact ⟨output, errors, rfl, haccepted⟩

/-- The command listed the contracts of the code, and `address` is the one to take. -/
def Lists (codeId : Int) (address : String) (exchange : Exchange) : Prop :=
  exchange.command = .listContracts codeId ∧ ∃ output errors,
    exchange.reply = .finished 0 output errors ∧
      ContractAddress.readCaptured output = .ok address

end Exchange

namespace Session

/-! ### The language -/

section

variable (session : Session) (address : String)

/-- The command that makes the contract. -/
def instantiation : NodeCommand :=
  .instantiate session.settings.codeId (Message.instantiate session.settings.denom).text
    session.settings.owner session.settings.label true

/-- The command that registers the agent. -/
def registration : NodeCommand :=
  .execute address Message.registerAgent.text session.settings.agent none

/-- The command that creates the task for a stake. -/
def creation (amount : Int) : NodeCommand :=
  .execute address
    (Message.createTask (.delegate session.settings.validator amount session.settings.denom
      session.settings.gasLimit)).text
    session.settings.taskCreator (some (session.settings.coin session.settings.taskDeposit))

/-- The command that asks for the tasks. -/
def tasksQuery : NodeCommand :=
  .query address (Message.queryTasks none none).text

/-- The command that lets the agent run tasks. -/
def agentCall : NodeCommand :=
  .execute address Message.proxyCall.text session.settings.agent none

/-- The commands of one look at the schedule. -/
def lookWords : Language NodeCommand :=
  {[slotsQuery address]} * {[.status]}

/-- The commands of a wait: none, or those of one look or more. -/
def waitWords : Language NodeCommand :=
  match session.wait with
  | .delay _ => 1
  | .polling .. => lookWords address * (lookWords address)∗

/-- The commands of a round. -/
def roundWords : Language NodeCommand :=
  {[tasksQuery address]} * (session.waitWords address * {[session.agentCall address]})

/-- The commands that follow once the contract is found. -/
def exerciseWords : Language NodeCommand :=
  {[session.registration address]} *
    ({session.settings.stakeAmounts.map (session.creation address)} *
      session.roundWords address ^ rounds)

/-- The commands of a run that works with the contract `address`. -/
def workflow : Language NodeCommand :=
  {[session.instantiation]} *
    ({[.listContracts session.settings.codeId]} * session.exerciseWords address)

end

/-! ### Words and beginnings of words -/

/-- The exchanges spell a word, and each of them was accepted. -/
structure Complete (words : Language NodeCommand) (issued : List Exchange) : Prop where
  spells : issued.map Exchange.command ∈ words
  accepted : ∀ exchange ∈ issued, exchange.Accepted

/-- The exchanges before a failure: they begin a word, each but the last was accepted, and unless
the session itself is the cause, the last was not. -/
structure CutShort (words : Language NodeCommand) (failure : Failure) (issued : List Exchange) :
    Prop where
  begins : ∃ word ∈ words, issued.map Exchange.command <+: word
  accepted : ∀ exchange ∈ issued.dropLast, exchange.Accepted
  cause : failure.IsOwn ∨ ∃ last, issued.getLast? = some last ∧ ¬last.Accepted

section

variable {words words' : Language NodeCommand} {issued issued' : List Exchange}
  {failure : Failure}

theorem complete_nil : Complete 1 [] where
  spells := Language.nil_mem_one
  accepted := by simp

theorem complete_singleton {exchange : Exchange} (h : exchange.Accepted) :
    Complete {[exchange.command]} [exchange] where
  spells := rfl
  accepted := by simpa using h

theorem Complete.mono (h : Complete words issued) (hw : ∀ word ∈ words, word ∈ words') :
    Complete words' issued :=
  ⟨hw _ h.spells, h.accepted⟩

/-- Commands in a row make a whole word if each part does. -/
theorem Complete.append (h : Complete words issued) (h' : Complete words' issued') :
    Complete (words * words') (issued ++ issued') where
  spells := by
    rw [List.map_append]
    exact Language.append_mem_mul h.spells h'.spells
  accepted := List.forall_mem_append.mpr ⟨h.accepted, h'.accepted⟩

/-- A word may be followed by a failure of the session itself. -/
theorem Complete.cutShort (h : Complete words issued) (hf : failure.IsOwn) :
    CutShort words failure issued where
  begins := ⟨_, h.spells, List.prefix_rfl⟩
  accepted exchange he := h.accepted exchange (List.mem_of_mem_dropLast he)
  cause := .inl hf

/-- Commands that are cut short may stand behind a whole word. -/
theorem Complete.append_cutShort (h : Complete words issued)
    (h' : CutShort words' failure issued') :
    CutShort (words * words') failure (issued ++ issued') where
  begins := by
    obtain ⟨word, hword, hprefix⟩ := h'.begins
    refine ⟨_, Language.append_mem_mul h.spells hword, ?_⟩
    rw [List.map_append]
    exact (List.prefix_append_right_inj _).mpr hprefix
  accepted exchange he := by
    -- The last command of all is the last one behind the word, unless nothing was said there.
    rw [List.dropLast_append] at he
    split at he
    · exact h.accepted exchange (List.mem_of_mem_dropLast he)
    · rcases List.mem_append.mp he with he | he
      · exact h.accepted exchange he
      · exact h'.accepted exchange he
  cause := by
    refine h'.cause.imp_right ?_
    rintro ⟨last, hlast, hrejected⟩
    exact ⟨last, by rw [List.getLast?_append, hlast, Option.some_or], hrejected⟩

/-- What is cut short is cut short of the words behind it as well, if there are any. -/
theorem CutShort.mul_right (h : CutShort words failure issued) (hne : ∃ word, word ∈ words') :
    CutShort (words * words') failure issued where
  begins := by
    obtain ⟨word, hword, hprefix⟩ := h.begins
    obtain ⟨word', hword'⟩ := hne
    exact ⟨word ++ word', Language.append_mem_mul hword hword',
      hprefix.trans (List.prefix_append word word')⟩
  accepted := h.accepted
  cause := h.cause

/-- A failure that no command has to answer for can come before any of them. -/
theorem cutShort_nil (hf : failure.IsOwn) (hne : ∃ word, word ∈ words) :
    CutShort words failure [] where
  begins := by
    obtain ⟨word, hword⟩ := hne
    exact ⟨word, hword, List.nil_prefix⟩
  accepted := by simp
  cause := .inl hf

/-- The last exchange is the first that was not accepted. -/
theorem cutShort_singleton {exchange : Exchange} (h : ¬exchange.Accepted) :
    CutShort {[exchange.command]} failure [exchange] where
  begins := ⟨_, rfl, List.prefix_rfl⟩
  accepted := by simp
  cause := .inr ⟨exchange, rfl, h⟩

theorem Complete.length_eq_one {command : NodeCommand} (h : Complete {[command]} issued) :
    issued.length = 1 := by
  have hmap : issued.map Exchange.command = [command] := h.spells
  simpa using congrArg List.length hmap

theorem CutShort.length_le_one {command : NodeCommand} (h : CutShort {[command]} failure issued) :
    issued.length ≤ 1 := by
  obtain ⟨_, rfl, hprefix⟩ := h.begins
  simpa using hprefix.length_le

end

/-! ### Steps that say words -/

/-- The state `final` is reached from `state` by some exchanges of which `p` holds. -/
def Says (state final : SessionState) (p : List Exchange → Prop) : Prop :=
  ∃ issued, final.exchanges = state.exchanges ++ issued ∧ p issued

/-- Begun with the contract `address`, the step says a word, or fails on the way through one; it
keeps the contract. -/
structure Follows {α : Type} (address : Option String) (x : SessionM α)
    (words : Language NodeCommand) : Prop where
  nonempty : ∃ word, word ∈ words
  ends : ∀ state, state.contract = address → Ends x state
    (fun _ final => final.contract = address ∧ Says state final (Complete words))
    fun failure final => Says state final (CutShort words failure)

section

variable {α β : Type} {address : Option String} {session : Session}
  {words words' : Language NodeCommand}

theorem says_refl {state : SessionState} {p : List Exchange → Prop} (h : p []) :
    Says state state p :=
  ⟨[], by rw [List.append_nil], h⟩

theorem Says.mono {state final : SessionState} {p q : List Exchange → Prop}
    (h : Says state final p) (hpq : ∀ issued, p issued → q issued) : Says state final q := by
  obtain ⟨issued, hissued, hp⟩ := h
  exact ⟨issued, hissued, hpq issued hp⟩

/-- What is said in two steps is said one behind the other. -/
theorem Says.trans {state between final : SessionState} {p q r : List Exchange → Prop}
    (h : Says state between p) (h' : Says between final q)
    (hr : ∀ issued issued', p issued → q issued' → r (issued ++ issued')) :
    Says state final r := by
  obtain ⟨issued, hissued, hp⟩ := h
  obtain ⟨issued', hissued', hq⟩ := h'
  exact ⟨issued ++ issued', by rw [hissued', hissued, List.append_assoc],
    hr issued issued' hp hq⟩

/-- A session begins with nothing said. -/
theorem Says.of_initial {script : List TimedReply} {now : Binary64} {final : SessionState}
    {p : List Exchange → Prop} (h : Says (.initial script now) final p) : p final.exchanges := by
  obtain ⟨issued, hissued, hp⟩ := h
  rw [hissued]
  exact hp

/-- What was said stays said. -/
theorem Says.exists_mem {state final : SessionState} {p : List Exchange → Prop}
    {q : Exchange → Prop} (h : Says state final p) (hq : ∃ exchange ∈ state.exchanges, q exchange) :
    ∃ exchange ∈ final.exchanges, q exchange := by
  obtain ⟨issued, hissued, -⟩ := h
  obtain ⟨exchange, hmem, hexchange⟩ := hq
  exact ⟨exchange, hissued ▸ List.mem_append_left issued hmem, hexchange⟩

theorem follows_pure (value : α) : Follows address (pure value) 1 where
  nonempty := ⟨[], Language.nil_mem_one⟩
  ends _ hc := (ends_pure value).mpr ⟨hc, says_refl complete_nil⟩

/-- Steps in a row say words in a row. -/
theorem Follows.bind [Nonempty α] {x : SessionM α} {f : α → SessionM β}
    (hx : Follows address x words) (hf : ∀ value, Follows address (f value) words') :
    Follows address (x >>= f) (words * words') where
  nonempty := by
    obtain ⟨word, hword⟩ := hx.nonempty
    obtain ⟨word', hword'⟩ := (hf (Classical.arbitrary α)).nonempty
    exact ⟨word ++ word', Language.append_mem_mul hword hword'⟩
  ends state hc := by
    rw [ends_bind]
    refine (hx.ends state hc).mono (fun value between hb => ?_) fun failure final hf' => ?_
    · obtain ⟨hc', hsays⟩ := hb
      refine ((hf value).ends between hc').mono (fun value' final hd => ?_)
        fun failure final hf' => ?_
      · exact ⟨hd.1, hsays.trans hd.2 fun _ _ => Complete.append⟩
      · exact hsays.trans hf' fun _ _ => Complete.append_cutShort
    · exact hf'.mono fun issued hcut => hcut.mul_right (hf (Classical.arbitrary α)).nonempty

/-- A loop says the words of its steps, in the order of the list. -/
theorem Follows.forM {items : List β} {f : β → SessionM PUnit} {word : β → Language NodeCommand}
    (h : ∀ item, Follows address (f item) (word item)) :
    Follows address (items.forM f) (items.map word).prod := by
  induction items with
  | nil => exact follows_pure PUnit.unit
  | cons item items ih =>
    rw [List.map_cons, List.prod_cons]
    exact (h item).bind fun _ => ih

/-- A step may look at the state of the session. -/
theorem follows_get {f : SessionState → SessionM α} (h : ∀ state, Follows address (f state) words) :
    Follows address (get >>= f) words where
  nonempty := (h (.initial [] 0)).nonempty
  ends state hc := by
    rw [ends_bind, ends_get]
    exact (h state).ends state hc

/-- Behind the resolution the contract is the one that was resolved. -/
theorem follows_contract {contract : String} {f : String → SessionM α}
    (h : Follows (some contract) (f contract) words) :
    Follows (some contract) (Session.contract >>= f) words where
  nonempty := h.nonempty
  ends state hc := by
    rw [ends_bind, ends_contract, hc]
    exact h.ends state hc

/-- What is shown is not said to the node. -/
theorem follows_present (report : Report) : Follows address (session.present report) 1 where
  nonempty := ⟨[], Language.nil_mem_one⟩
  ends _ hc := Ends.present (fun _ => ⟨hc, [], by simp, complete_nil⟩)
    fun _ _ => ⟨[], by simp, complete_nil.cutShort trivial⟩

theorem follows_present_bind {report : Report} {f : Unit → SessionM α}
    (h : Follows address (f ()) words) :
    Follows address (session.present report >>= f) words := by
  have hbind : Follows address (session.present report >>= f) (1 * words) :=
    (follows_present report).bind fun _ => h
  rwa [one_mul] at hbind

end

/-! ### Steps that run a command -/

section

variable {α ε : Type} {address : Option String} {session : Session} {command : NodeCommand}

/-- A command whose output is read: what is read comes of the reply, and if nothing can be read, the
reply was not accepted. -/
theorem Runs.ends_read {x : SessionM Reply.Succeeded} {step : Option String}
    (hx : Runs x step command) {failure : ε → Failure} {read : Reply.Succeeded → Except ε α}
    (h : ∀ succeeded, Exchange.Accepted ⟨step, command,
      .finished 0 succeeded.output succeeded.errors⟩ ↔ ∃ value, read succeeded = .ok value)
    (state : SessionState) :
    Ends (x >>= fun succeeded => orFail failure (read succeeded)) state
      (fun value final => final.contract = state.contract ∧ ∃ succeeded,
        read succeeded = .ok value ∧ Says state final fun issued =>
          Complete {[command]} issued ∧
            ⟨step, command, .finished 0 succeeded.output succeeded.errors⟩ ∈ issued)
      fun failure final => Says state final (CutShort {[command]} failure) := by
  rw [ends_bind]
  refine (hx state).mono (fun succeeded between hb => ?_) fun failure' final hf => ?_
  · obtain ⟨hc, hissued, hreply⟩ := hb
    rw [ends_orFail]
    cases hread : read succeeded with
    | ok value =>
      have haccepted := (h succeeded).mpr ⟨value, hread⟩
      rw [hreply] at hissued
      exact ⟨hc, succeeded, hread, _, hissued, complete_singleton haccepted,
        List.mem_singleton_self _⟩
    | error error =>
      -- The command ended well, but nobody can read what it printed.
      have hrejected : ¬Exchange.Accepted ⟨step, command, state.reply⟩ := by
        rw [hreply, h succeeded, hread]
        rintro ⟨value, hvalue⟩
        cases hvalue
      exact ⟨_, hissued, cutShort_singleton hrejected⟩
  · obtain ⟨hissued, hcause⟩ := hf
    refine ⟨_, hissued, ⟨_, rfl, List.prefix_rfl⟩, by simp, hcause.imp_right fun hreply => ?_⟩
    refine ⟨_, rfl, ?_⟩
    rintro ⟨output, errors, heq, -⟩
    exact hreply output errors heq

/-- A command whose output is read makes one word, which is whole if the output can be read. -/
theorem Runs.follows_read {x : SessionM Reply.Succeeded} {step : Option String}
    (hx : Runs x step command) {failure : ε → Failure} {read : Reply.Succeeded → Except ε α}
    (h : ∀ succeeded, Exchange.Accepted ⟨step, command,
      .finished 0 succeeded.output succeeded.errors⟩ ↔ ∃ value, read succeeded = .ok value) :
    Follows address (x >>= fun succeeded => orFail failure (read succeeded)) {[command]} where
  nonempty := ⟨[command], rfl⟩
  ends state hc := by
    refine (hx.ends_read h state).mono (fun value final hd => ?_) fun _ _ hf => hf
    obtain ⟨hc', _, -, hsays⟩ := hd
    exact ⟨hc'.trans hc, hsays.mono fun _ hissued => hissued.1⟩

/-- A command whose output nobody reads. -/
theorem Runs.follows {x : SessionM Reply.Succeeded} {step : Option String}
    (hx : Runs x step command)
    (h : ∀ output errors, Exchange.Accepted ⟨step, command, .finished 0 output errors⟩) :
    Follows address x {[command]} := by
  have hread : Follows address (x >>= fun succeeded =>
      orFail Failure.denied (Except.ok succeeded)) {[command]} :=
    hx.follows_read fun succeeded => iff_of_true (h _ _) ⟨succeeded, rfl⟩
  exact (bind_pure x) ▸ hread

end

/-! ### The steps of a run -/

section

variable {session : Session} {address : String}

deriving instance Inhabited for Reply.Succeeded, SlotHashes, ChainHead

/-- A step that executes a message says one command. -/
theorem follows_execute (name : String) (message : Message) (sender : String)
    (funds : Option String) :
    Follows (some address) (session.execute name message sender funds)
      {[.execute address message.text sender funds]} := by
  have hcommand : Follows (some address) (session.execute name message sender funds)
      ({[.execute address message.text sender funds]} * 1) :=
    follows_contract ((runs_logged.follows fun output errors => ⟨output, errors, rfl, trivial⟩).bind
      fun _ => follows_present _)
  rwa [mul_one] at hcommand

theorem follows_registerAgent :
    Follows (some address) session.registerAgent {[session.registration address]} := by
  unfold registerAgent
  exact follows_present_bind (follows_execute ..)

theorem follows_createTask (amount : Int) :
    Follows (some address) (session.createTask amount) {[session.creation address amount]} := by
  unfold createTask
  exact follows_present_bind (follows_execute ..)

theorem follows_proxyCall :
    Follows (some address) session.proxyCall {[session.agentCall address]} := by
  unfold proxyCall
  exact follows_present_bind (follows_execute ..)

theorem follows_queryTasks :
    Follows (some address) session.queryTasks {[tasksQuery address]} := by
  have haccepted (output errors : Option String) :
      Exchange.Accepted ⟨some "get_tasks", tasksQuery address, .finished 0 output errors⟩ := by
    refine Exchange.accepted_finished_iff.mpr fun htext => ?_
    exact absurd htext (by decide)
  have hcommand : Follows (some address) session.queryTasks ({[tasksQuery address]} * 1) :=
    follows_present_bind <| follows_contract <|
      (runs_logged.follows haccepted).bind fun succeeded => follows_pure succeeded.output
  rwa [mul_one] at hcommand

/-- A look asks for the slots and then for the status. -/
theorem follows_fetchSchedule :
    Follows (some address) session.fetchSchedule (lookWords address) := by
  have hslots (succeeded : Reply.Succeeded) :
      Exchange.Accepted ⟨none, slotsQuery address,
        .finished 0 succeeded.output succeeded.errors⟩ ↔
        ∃ slots, Payload.readCaptured SlotHashes.read succeeded.output = .ok slots :=
    Exchange.accepted_finished_iff.trans (forall_prop_of_true rfl)
  have hstatus (succeeded : Reply.Succeeded) :
      Exchange.Accepted ⟨none, .status, .finished 0 succeeded.output succeeded.errors⟩ ↔
        ∃ head, ChainHead.readStatus succeeded.output succeeded.errors = .ok head :=
    Exchange.accepted_finished_iff
  have hlook : Follows (some address) session.fetchSchedule
      ({[slotsQuery address]} * ({[.status]} * 1)) := by
    rw [fetchSchedule_eq]
    exact follows_contract <| (runs_quietly.follows_read hslots).bind fun slots =>
      (runs_quietly.follows_read hstatus).bind fun head => follows_pure (slots.against head)
  rwa [mul_one] at hlook

/-- The looks of a wait that does not run out of them say the words of a look, once or more
often. -/
theorem ends_poll_words {polling : Polling Binary64 SlotSchedule} {start : Binary64} {looks : Nat}
    {state : SessionState} (hc : state.contract = some address) :
    Ends (polling.poll session.surroundings start looks) state
      (fun outcome final => outcome ≠ none → final.contract = some address ∧
        Says state final (Complete (lookWords address * (lookWords address)∗)))
      fun failure final =>
        Says state final (CutShort (lookWords address * (lookWords address)∗) failure) := by
  have hnil : Complete (lookWords address)∗ [] :=
    ⟨Language.nil_mem_kstar _, by simp⟩
  refine ends_poll (fun _ between => between.contract = some address ∧
    Says state between (Complete (lookWords address)∗)) (fun _ _ hne => absurd rfl hne)
    (fun looks between hb => ?_) ⟨hc, says_refl hnil⟩
  obtain ⟨hcontract, hsays⟩ := hb
  -- The looks so far are whole, and the next one comes behind them.
  rw [← Language.mul_self_kstar_comm]
  refine (follows_fetchSchedule.ends between hcontract).mono (fun schedule final hd => ?_)
    fun failure final hf => hsays.trans hf fun _ _ => Complete.append_cutShort
  have hlooks := hsays.trans hd.2 fun _ _ => Complete.append
  refine ⟨fun error lines => hlooks.mono fun _ h => h.cutShort trivial, fun lines => ?_⟩
  split
  · exact fun _ => ⟨hd.1, hlooks⟩
  · have hjoin : (lookWords address)∗ * lookWords address ≤ (lookWords address)∗ :=
      kstar_mul_le_kstar
    exact ⟨hd.1, hlooks.mono fun _ h => h.mono fun _ hword => hjoin hword⟩

/-- A wait says the words of its looks. -/
theorem follows_await : Follows (some address) session.await (session.waitWords address) := by
  unfold await waitWords
  refine follows_present_bind ?_
  cases session.wait with
  | delay seconds => exact ⟨⟨[], Language.nil_mem_one⟩, fun _ hc => ⟨hc, says_refl complete_nil⟩⟩
  | polling condition timeout interval =>
    refine ⟨⟨_, Language.append_mem_mul (Language.append_mem_mul rfl rfl)
      (Language.nil_mem_kstar _)⟩, fun state hc => ?_⟩
    unfold Polling.wait
    simp only [ends_bind, ends_get]
    have hlooks := Nat.lt_succ_self state.script.length
    refine ((ends_poll_ne_none hlooks).and (ends_poll_words hc)).mono
      (fun outcome final hd => ?_) fun _ _ hf => hf.2
    obtain ⟨hsome, hwords⟩ := hd
    obtain ⟨hcontract, hsays⟩ := hwords hsome
    cases outcome with
    | none => exact absurd rfl hsome
    | some outcome =>
      cases outcome with
      | met schedule => exact ⟨hcontract, hsays⟩
      | timedOut elapsed => exact hsays.mono fun _ h => h.cutShort trivial

/-- A round says its three parts in a row. -/
theorem follows_round : Follows (some address) session.round (session.roundWords address) :=
  follows_queryTasks.bind fun _ => follows_await.bind fun _ => follows_proxyCall

/-! ### Runs -/

/-- A product of one-word languages is the language of the joined word. -/
theorem prod_map_singleton (command : Int → NodeCommand) (amounts : List Int) :
    (amounts.map fun amount => ({[command amount]} : Language NodeCommand)).prod =
      {amounts.map command} := by
  induction amounts with
  | nil => rfl
  | cons amount amounts ih =>
    rw [List.map_cons, List.prod_cons, ih, List.map_cons]
    exact Set.image2_singleton

/-- What a run does once the contract is found. -/
def exercise (session : Session) : SessionM Unit := do
  session.registerAgent
  session.settings.stakeAmounts.forM session.createTask
  (List.replicate rounds ()).forM fun _ => session.round
  session.present (Report.summary (← get).log)
  session.present (Report.completed (← contract))

/-- A run is its opening, the search for the contract, and the exercise with it. -/
theorem run_eq : session.run =
    (session.present (Report.banner session.settings) >>= fun _ => session.instantiate) >>= fun _ =>
      session.resolveAddress >>= fun _ => session.exercise >>= fun _ => contract := by
  simp only [run, exercise, bind_assoc]

/-- With its contract a run registers the agent, creates a task for each stake, and then takes the
rounds. -/
theorem follows_exercise :
    Follows (some address) session.exercise (session.exerciseWords address) := by
  have hcreations : Follows (some address) (session.settings.stakeAmounts.forM session.createTask)
      {session.settings.stakeAmounts.map (session.creation address)} := by
    -- A creation for each stake: a product of languages with one word each.
    rw [← prod_map_singleton]
    exact Follows.forM follows_createTask
  have hrounds : Follows (some address) ((List.replicate rounds ()).forM fun _ => session.round)
      (session.roundWords address ^ rounds) := by
    rw [← List.prod_replicate,
      ← List.map_replicate (f := fun _ => session.roundWords address) (a := ())]
    exact Follows.forM fun _ => follows_round
  have hend : Follows (some address) (do
      session.present (Report.summary (← get).log)
      session.present (Report.completed (← contract))) 1 :=
    follows_get fun _ => follows_present_bind <| follows_contract <| follows_present _
  have hwords : Follows (some address) session.exercise
      ({[session.registration address]} *
        ({session.settings.stakeAmounts.map (session.creation address)} *
          (session.roundWords address ^ rounds * 1))) :=
    follows_registerAgent.bind fun _ => hcreations.bind fun _ => hrounds.bind fun _ => hend
  rwa [mul_one] at hwords

/-- The opening of a run is its instantiation. -/
theorem follows_opening :
    Follows none (session.present (Report.banner session.settings) >>= fun _ =>
      session.instantiate) {[session.instantiation]} := by
  have haccepted (output errors : Option String) :
      Exchange.Accepted ⟨some "instantiate", session.instantiation, .finished 0 output errors⟩ :=
    ⟨output, errors, rfl, trivial⟩
  have hwords : Follows none session.instantiate ({[session.instantiation]} * 1) :=
    follows_present_bind <| (runs_logged.follows haccepted).bind fun _ => follows_pure ()
  rw [mul_one] at hwords
  exact follows_present_bind hwords

/-- The contract that is found is the one that the node listed last. -/
theorem ends_resolveAddress {state : SessionState} :
    Ends session.resolveAddress state
      (fun address final => final.contract = some address ∧ Says state final fun issued =>
        Complete {[.listContracts session.settings.codeId]} issued ∧
          ∃ exchange ∈ issued, exchange.Lists session.settings.codeId address)
      fun failure final =>
        Says state final (CutShort {[.listContracts session.settings.codeId]} failure) := by
  have haccepted (succeeded : Reply.Succeeded) :
      Exchange.Accepted ⟨some "resolve", .listContracts session.settings.codeId,
        .finished 0 succeeded.output succeeded.errors⟩ ↔
        ∃ address, ContractAddress.readCaptured succeeded.output = .ok address :=
    Exchange.accepted_finished_iff
  have hread : session.resolveAddress = session.present (Report.stepStart "resolve address"
        s!"latest contract for code {session.settings.codeId}") >>= fun _ =>
      (session.logged "resolve" (.listContracts session.settings.codeId) >>= fun reply =>
        orFail .address (ContractAddress.readCaptured reply.output)) >>= fun address => do
      modify fun state => { state with contract := some address }
      session.present (Report.contractResolved address)
      return address := by
    simp only [resolveAddress, bind_assoc]
  rw [hread, ends_bind]
  refine Ends.present (fun lines => ?_) fun error lines => says_refl (cutShort_nil trivial ⟨_, rfl⟩)
  rw [ends_bind]
  refine (runs_logged.ends_read haccepted _).mono (fun address between hb => ?_) fun _ _ hf => hf
  obtain ⟨-, succeeded, haddress, issued, hissued, hcomplete, hmem⟩ := hb
  have hlists : ∃ exchange ∈ issued, exchange.Lists session.settings.codeId address :=
    ⟨_, hmem, rfl, _, _, rfl, haddress⟩
  rw [ends_bind, ends_modify, ends_bind]
  refine Ends.present (fun _ => ?_) fun _ _ => ?_
  · exact ⟨rfl, issued, hissued, hcomplete, hlists⟩
  · exact ⟨issued, hissued, hcomplete.cutShort trivial⟩

/-- **The words of a run.**  A run that comes through has spoken a word of the workflow, with the
contract that the node listed, and its value is that contract.  A run that fails has spoken the
beginning of such a word. -/
theorem run_follows_workflow (session : Session) (script : List TimedReply) (now : Binary64) :
    Ends session.run (.initial script now)
      (fun address final => Complete (session.workflow address) final.exchanges ∧
        ∃ exchange ∈ final.exchanges, exchange.Lists session.settings.codeId address)
      fun failure final => ∃ address,
        CutShort (session.workflow address) failure final.exchanges ∧
          (2 < final.exchanges.length →
            ∃ exchange ∈ final.exchanges, exchange.Lists session.settings.codeId address) := by
  -- A run that fails before a contract is found has begun the words of any contract.
  obtain ⟨word, hword⟩ : ∃ word, word ∈ session.exerciseWords "" := follows_exercise.nonempty
  rw [run_eq, ends_bind]
  refine (follows_opening.ends _ rfl).mono (fun _ opened hopened => ?_) fun failure final hf => ?_
  · rw [ends_bind]
    refine ends_resolveAddress.mono (fun address found hfound => ?_) fun failure final hf => ?_
    · obtain ⟨hcontract, hfound⟩ := hfound
      have hlisted := hopened.2.trans (hfound.mono fun _ h => h.1) fun _ _ => Complete.append
      have hlists : ∃ exchange ∈ found.exchanges,
          exchange.Lists session.settings.codeId address := by
        obtain ⟨listed, hexchanges, -, exchange, hmem, hexchange⟩ := hfound
        exact ⟨exchange, hexchanges ▸ List.mem_append_right _ hmem, hexchange⟩
      rw [ends_bind]
      refine (follows_exercise.ends found hcontract).mono (fun _ final hd => ?_)
        fun failure final hf => ?_
      · rw [ends_contract, hd.1]
        have hwords := hlisted.trans hd.2 fun _ _ => Complete.append
        rw [mul_assoc] at hwords
        exact ⟨hwords.of_initial, hd.2.exists_mem hlists⟩
      · have hwords := hlisted.trans hf fun _ _ => Complete.append_cutShort
        rw [mul_assoc] at hwords
        exact ⟨address, hwords.of_initial, fun _ => hf.exists_mem hlists⟩
    · have hshort : Says (.initial script now) final (·.length ≤ 2) := by
        refine hopened.2.trans hf fun made listed hmade hlisted => ?_
        have := hmade.length_eq_one
        have := hlisted.length_le_one
        rw [List.length_append]
        omega
      have hwords := hopened.2.trans hf fun _ _ h h' =>
        h.append_cutShort (h'.mul_right ⟨word, hword⟩)
      exact ⟨"", hwords.of_initial, fun h => absurd h (Nat.not_lt.mpr hshort.of_initial)⟩
  · have hshort := hf.mono fun _ => CutShort.length_le_one
    have hwords : Says (.initial script now) final (CutShort (session.workflow "") failure) :=
      hf.mono fun _ h => h.mul_right ⟨_, Language.append_mem_mul rfl hword⟩
    refine ⟨"", hwords.of_initial, fun h => ?_⟩
    have := hshort.of_initial
    omega

end

end Session

end ContractDrill
