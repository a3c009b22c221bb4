import ContractDrill.Proofs.Session.Deeds
import ContractDrill.Proofs.Text.Numeral

/-!
# Who signs and who pays

The terms of a transaction, that is who signs it and which funds it carries, are read off its
command line (`Terms.ofArgv?`), by a reader of options that knows nothing of how the command line
was made.  They are the terms of the operation that sent it (`Operation.terms?`): the owner makes
the contract, the creator of tasks pays the deposit of each task, and the agent pays nothing.

So in any sequence of operations only the creation of a task and the refill of one carry funds
(`performAll_terms`), and a run that comes through has paid one deposit for each of its stakes.
-/

namespace ContractDrill

/-- Who signs a transaction, and the funds that it carries. -/
structure Terms where
  signers : List String
  funds : List String
  deriving DecidableEq

namespace Terms

/-! ### Reading a command line -/

/-- The options of a command line with their values.  Two of them stand for themselves. -/
def options : List String → List (String × String)
  | [] | [_] => []
  | name :: value :: rest =>
    if name = "-y" ∨ name = "--no-admin" then options (value :: rest)
    else (name, value) :: options rest

/-- The values of an option. -/
def valuesOf (name : String) (arguments : List String) : List String :=
  (options arguments).filterMap fun option => if option.1 = name then some option.2 else none

/-- The terms of a command line, if it sends a transaction.  Its options stand behind the subject
and the message. -/
def ofArgv? : List String → Option Terms
  | _ :: "tx" :: "wasm" :: _ :: _subject :: _message :: rest =>
    some ⟨valuesOf "--from" rest, valuesOf "--amount" rest⟩
  | _ => none

-- A message or a value may look like an option and is none.
example :
    ofArgv? ["junod", "tx", "wasm", "execute", "juno1", "--amount", "--from", "--amount", "-y"] =
      some ⟨["--amount"], []⟩ := by
  decide

end Terms

/-- The terms of an exchange, if it is a transaction. -/
def Exchange.terms? (settings : Settings) (exchange : Exchange) : Option Terms :=
  Terms.ofArgv? (exchange.command.argv settings)

/-- The terms of the transactions among some exchanges, in their order. -/
def transactions (settings : Settings) (exchanges : List Exchange) : List Terms :=
  exchanges.filterMap (Exchange.terms? settings)

theorem transactions_singleton (settings : Settings) (exchange : Exchange) :
    transactions settings [exchange] = (exchange.terms? settings).toList := by
  unfold transactions
  rw [List.filterMap_cons, List.filterMap_nil]
  cases exchange.terms? settings <;> rfl

/-- The identity that sends: the one that was named, or the creator of tasks if none was or its name
is empty. -/
def Settings.namedSender (settings : Settings) : Option String → String
  | none | some "" => settings.taskCreator
  | some sender => sender

/-- The terms of the transaction that an operation sends, if it sends one.  Only the creation of a
task and the refill of one carry funds. -/
def Operation.terms? (settings : Settings) : Operation → Option Terms
  | instantiate => some ⟨[settings.owner], []⟩
  | registerAgent | proxyCall => some ⟨[settings.agent], []⟩
  | createTask _ => some ⟨[settings.taskCreator], [settings.coin settings.taskDeposit]⟩
  | removeTask _ sender => some ⟨[settings.namedSender sender], []⟩
  | refillTaskBalance _ amount sender =>
    some ⟨[settings.namedSender sender], [settings.coin amount]⟩
  | _ => none

/-! ### The terms of a command -/

section

variable {settings : Settings}

/-- An amount has at least one digit. -/
theorem Settings.coin_ne_empty (amount : Int) : settings.coin amount ≠ "" := by
  intro h
  have hchars : Json.integerLiteral amount ++ settings.denom.toList = [] := by
    rw [← toList_toString, ← String.toList_append]
    exact congrArg String.toList h
  have hdigits := (List.append_eq_nil_iff.mp hchars).1
  unfold Json.integerLiteral at hdigits
  dsimp only at hdigits
  split at hdigits
  · cases hdigits
  · exact Nat.toDigits_ne_nil hdigits

theorem NodeCommand.fundsFlags_of_ne {funds : String} (h : funds ≠ "") :
    fundsFlags (some funds) = ["--amount", funds] := by
  have hkept : (some funds).filter (· ≠ "") = some funds := by
    simpa using h
  unfold fundsFlags
  rw [hkept]

/-- The sender that is named signs, else the owner. -/
theorem Session.senderOr_eq (session : Session) (sender : Option String) :
    session.senderOr sender = session.settings.namedSender sender := by
  unfold senderOr Settings.namedSender
  split
  · rfl
  · rfl
  · rename_i name hname
    have hkept : (some name).filter (· ≠ "") = some name := by
      simpa using hname
    rw [hkept]
    rfl

theorem Terms.ofArgv?_execute (contract message sender : String) :
    ofArgv? ((NodeCommand.execute contract message sender none).argv settings) =
      some ⟨[sender], []⟩ := by
  simp [NodeCommand.argv, NodeCommand.arguments, NodeCommand.fundsFlags, ofArgv?, valuesOf, options,
    Settings.transactionFlags, Settings.nodeFlags]

/-- An execution carries the funds that are given to it. -/
theorem Terms.ofArgv?_execute_funds (contract message sender : String) {funds : String}
    (h : funds ≠ "") :
    ofArgv? ((NodeCommand.execute contract message sender (some funds)).argv settings) =
      some ⟨[sender], [funds]⟩ := by
  simp [NodeCommand.argv, NodeCommand.arguments, NodeCommand.fundsFlags_of_ne h, ofArgv?, valuesOf,
    options, Settings.transactionFlags, Settings.nodeFlags]

theorem Terms.ofArgv?_instantiate (codeId : Int) (message sender label : String) (noAdmin : Bool) :
    ofArgv? ((NodeCommand.instantiate codeId message sender label noAdmin).argv settings) =
      some ⟨[sender], []⟩ := by
  cases noAdmin <;>
    simp [NodeCommand.argv, NodeCommand.arguments, ofArgv?, valuesOf, options,
      Settings.transactionFlags, Settings.nodeFlags]

theorem Terms.ofArgv?_listContracts (codeId : Int) :
    ofArgv? ((NodeCommand.listContracts codeId).argv settings) = none := by
  simp [NodeCommand.argv, NodeCommand.arguments, ofArgv?]

/-- A question is no transaction. -/
theorem Terms.ofArgv?_of_isQuestion {command : NodeCommand} (h : command.IsQuestion) :
    ofArgv? (command.argv settings) = none := by
  cases command with
  | query contract message => simp [NodeCommand.argv, NodeCommand.arguments, ofArgv?]
  | status =>
    simp [NodeCommand.argv, NodeCommand.arguments, ofArgv?]
  | _ => exact h.elim

/-- The command of a step has the terms of its operation. -/
theorem Operation.ofArgv?_of_command? {session : Session} {operation : Operation}
    {contract : Option String} {command : NodeCommand}
    (h : operation.command? session contract = some command) :
    Terms.ofArgv? (command.argv session.settings) = operation.terms? session.settings := by
  have hquery {message : String} (h : contract.map (NodeCommand.query · message) = some command) :
      Terms.ofArgv? (command.argv session.settings) = none := by
    obtain ⟨address, -, rfl⟩ := Option.map_eq_some_iff.mp h
    exact Terms.ofArgv?_of_isQuestion trivial
  have hexecute {message sender : String}
      (h : contract.map (NodeCommand.execute · message sender none) = some command) :
      Terms.ofArgv? (command.argv session.settings) = some ⟨[sender], []⟩ := by
    obtain ⟨address, -, rfl⟩ := Option.map_eq_some_iff.mp h
    exact Terms.ofArgv?_execute ..
  have hpay {message sender : String} {amount : Int} (h : contract.map (NodeCommand.execute ·
      message sender (some (session.settings.coin amount))) = some command) :
      Terms.ofArgv? (command.argv session.settings) =
        some ⟨[sender], [session.settings.coin amount]⟩ := by
    obtain ⟨address, -, rfl⟩ := Option.map_eq_some_iff.mp h
    exact Terms.ofArgv?_execute_funds _ _ _ (session.settings.coin_ne_empty amount)
  -- By the kind of the command: a query, an execution, or one with funds.
  cases operation with
  | instantiate =>
    cases h
    exact Terms.ofArgv?_instantiate ..
  | resolveAddress =>
    cases h
    exact Terms.ofArgv?_listContracts _
  | registerAgent => exact hexecute h
  | createTask amount => exact hpay h
  | queryTasks => exact hquery h
  | proxyCall => exact hexecute h
  | queryTasksOfOwner owner => exact hquery h
  | queryTask hash => exact hquery h
  | queryTaskHash task owner deposit => exact hquery h
  | querySlotIds => exact hquery h
  | querySlotHashes slot => exact hquery h
  | validateInterval interval => exact hquery h
  | removeTask hash sender =>
    rw [hexecute h, session.senderOr_eq]
    rfl
  | refillTaskBalance hash amount sender =>
    rw [hpay h, session.senderOr_eq]
    rfl
  | fetchTasks => cases h
  | fetchSchedule => cases h
  | await => cases h
  | run => cases h
  | contract => cases h

theorem Operation.terms?_of_step?_eq_none {operation : Operation} (h : operation.step? = none) :
    operation.terms? settings = none := by
  cases operation with
  | fetchTasks => rfl
  | fetchSchedule => rfl
  | await => rfl
  | run => rfl
  | contract => rfl
  | _ => cases h

end

namespace Session

/-! ### The terms of operations -/

section

variable (session : Session)

/-- The transactions of an operation are on its terms: it sends one, if it is to send any.  Before
it says anything it may fail. -/
theorem ends_perform_terms {operation : Operation} (hrun : operation ≠ .run)
    (state : SessionState) :
    Ends (operation.perform session) state
      (fun _ final => Says state final fun issued =>
        transactions session.settings issued = (operation.terms? session.settings).toList)
      fun _ final => Says state final fun issued => issued ≠ [] →
        transactions session.settings issued = (operation.terms? session.settings).toList := by
  -- A quiet operation only asks, and a step runs the one command that is its own.
  cases hstep : operation.step? with
  | none =>
    have hasks {final : SessionState} (h : Asks state final) : Says state final fun issued =>
        transactions session.settings issued = (operation.terms? session.settings).toList := by
      refine h.2.mono fun issued hquestions => ?_
      rw [Operation.terms?_of_step?_eq_none hstep, Option.toList_none, transactions,
        List.filterMap_eq_nil_iff]
      intro exchange hmem
      exact Terms.ofArgv?_of_isQuestion (hquestions exchange hmem)
    exact (asks_perform hstep hrun state).mono (fun _ _ => hasks) fun _ _ hf =>
      (hasks hf).mono fun _ h _ => h
  | some name =>
    have hrecorded {command : NodeCommand} {final : SessionState}
        (hcommand : operation.command? session state.contract = some command)
        (h : Recorded session name command state final) : Says state final fun issued =>
          transactions session.settings issued = (operation.terms? session.settings).toList := by
      have hone := transactions_singleton session.settings ⟨some name, command, state.reply⟩
      rw [Exchange.terms?, Operation.ofArgv?_of_command? hcommand] at hone
      exact ⟨_, h.exchanges_eq, hone⟩
    refine (runsOne_perform hstep state).mono (fun _ final hd => ?_) fun _ final hf => ?_
    · obtain ⟨command, hcommand, h⟩ := hd
      exact hrecorded hcommand h
    · rcases hf with hidle | ⟨command, hcommand, h⟩
      · exact ⟨[], by simpa using hidle.1, fun hne => absurd rfl hne⟩
      · exact (hrecorded hcommand h).mono fun _ hterms _ => hterms

/-- What was done of an operation has its terms, if it came to a command. -/
theorem transactions_deed {operation : Operation} (hrun : operation ≠ .run) (state : SessionState)
    (hne : (session.deed state operation).issued ≠ []) :
    transactions session.settings (session.deed state operation).issued =
      (operation.terms? session.settings).toList := by
  have hends : Ends (operation.perform session) state
      (fun _ final => Says state final fun issued => issued ≠ [] →
        transactions session.settings issued = (operation.terms? session.settings).toList)
      fun _ final => Says state final fun issued => issued ≠ [] →
        transactions session.settings issued = (operation.terms? session.settings).toList :=
    (session.ends_perform_terms hrun state).mono (fun _ _ hd => hd.mono fun _ hterms _ => hterms)
      fun _ _ hf => hf
  obtain ⟨issued, hexchanges, hterms⟩ := hends.final
  rw [session.issued_deed hexchanges] at hne ⊢
  exact hterms hne

/-! ### The terms of a run -/

/-- Operations in a row that do not fail send one transaction for each of them that sends any. -/
theorem ends_inRow_terms {operations : List Operation}
    (hrun : ∀ operation ∈ operations, operation ≠ .run) (state : SessionState) :
    Ends (operations.forM session.attempt) state
      (fun _ final => Says state final fun issued => transactions session.settings issued =
        operations.filterMap (Operation.terms? session.settings))
      fun _ _ => True := by
  induction operations generalizing state with
  | nil => exact says_refl rfl
  | cons operation rest ih =>
    obtain ⟨hoperation, hrest⟩ := List.forall_mem_cons.mp hrun
    change Ends (session.attempt operation >>= fun _ => rest.forM session.attempt) state _ _
    rw [ends_bind, attempt, ends_bind]
    refine (session.ends_perform_terms hoperation state).mono (fun _ between hb => ?_)
      fun _ _ _ => trivial
    refine (ih hrest between).mono (fun _ final hd => ?_) fun _ _ _ => trivial
    refine hb.trans hd fun issued issued' hissued hissued' => ?_
    unfold transactions at hissued hissued' ⊢
    rw [List.filterMap_append, hissued, hissued']
    cases hterms : operation.terms? session.settings with
    | none => rw [List.filterMap_cons_none hterms]; rfl
    | some terms => rw [List.filterMap_cons_some hterms]; rfl

/-- A run that comes through has sent the transactions of its agenda. -/
theorem ends_run_terms (state : SessionState) :
    Ends session.run state
      (fun _ final => Says state final fun issued => transactions session.settings issued =
        session.agenda.filterMap (Operation.terms? session.settings))
      fun _ _ => True := by
  rw [run_eq_agenda, ends_bind]
  refine Ends.present (fun lines => ?_) fun _ _ => trivial
  rw [ends_bind]
  have hrow := session.ends_inRow_terms (fun _ => ne_run_of_mem_agenda session)
    (state.showing lines)
  refine hrow.mono (fun _ between hb => ?_) fun _ _ _ => trivial
  exact (keeps_unspoken_close session between).mono (fun _ _ hc => hb.trans_unspoken hc)
    fun _ _ _ => trivial

/-- Of the agenda of a run only the creation of tasks is paid for. -/
theorem funds_agenda :
    (session.agenda.filterMap (Operation.terms? session.settings)).flatMap Terms.funds =
      List.replicate session.settings.stakeAmounts.length
        (session.settings.coin session.settings.taskDeposit) := by
  have hcreations (amounts : List Int) : ((amounts.map Operation.createTask).filterMap
      (Operation.terms? session.settings)).flatMap Terms.funds =
        List.replicate amounts.length (session.settings.coin session.settings.taskDeposit) := by
    induction amounts with
    | nil => rfl
    | cons amount amounts ih => exact congrArg (_ :: ·) ih
  unfold agenda
  rw [List.filterMap_append, List.filterMap_append, List.flatMap_append, List.flatMap_append,
    hcreations]
  -- The steps around the creation of tasks carry nothing.
  exact (List.append_nil _)

end

/-- **Who signs and who pays.**  Whatever operations a session does, and whatever the node replies
to them, its exchanges are those of its deeds; a deed that said anything to the node sent the
transaction of its operation, on the terms of that, and no other.  A run that comes through,
wherever it begins, has paid the deposit of a task for each of its stakes, and nothing else. -/
theorem performAll_terms (session : Session) (script : List TimedReply) (now : Binary64)
    (operations : List Operation) :
    (session.performAll (.initial script now) operations).exchanges =
        (session.deeds (.initial script now) operations).flatMap Deed.issued ∧
      (∀ deed ∈ session.deeds (.initial script now) operations, deed.issued ≠ [] →
        transactions session.settings deed.issued =
          (deed.operation.terms? session.settings).toList) ∧
      ∀ state, Ends session.run state
        (fun _ final => Says state final fun issued =>
          (transactions session.settings issued).flatMap Terms.funds =
            List.replicate session.settings.stakeAmounts.length
              (session.settings.coin session.settings.taskDeposit))
        fun _ _ => True := by
  refine ⟨?_, ?_, fun state => ?_⟩
  · exact (spans_performAll session operations (.initial script now)).exchanges_eq
  · refine session.forall_mem_deeds (fun operation hrun state => ?_) operations _
    exact session.transactions_deed hrun state
  · refine (session.ends_run_terms state).mono (fun _ final hd => ?_) fun _ _ _ => trivial
    refine hd.mono fun issued hissued => ?_
    rw [hissued, session.funds_agenda]

end Session

end ContractDrill
