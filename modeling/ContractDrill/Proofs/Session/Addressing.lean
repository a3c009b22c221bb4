import ContractDrill.Proofs.Session.Frame
import ContractDrill.Proofs.Session.Progress

/-!
# Addresses

Whatever is asked of a session and in whatever order, a command that goes to a contract goes to the
one that was resolved latest (`Addressed`), and before any was resolved there is no such command.
The contract that a session remembers is the one that its exchanges tell (`latestResolved`).

The operations fall into three groups.  Those that need a contract stop at once if there is none
(`NeedsContract`).  All but the choice of the contract and the run keep the contract and heed it
(`Stays`); this is a frame.  The choice of the contract changes it exactly if the listing that it
asks for tells an address (`Chooses`); so what it is told and what the session remembers cannot come
apart (`performAll_addressRules`).
-/

namespace ContractDrill

/-- The operation asks the contract, sends it something, or tells it.  A wait does if it polls. -/
def Operation.NeedsContract (session : Session) : Operation → Prop
  | .instantiate | .resolveAddress | .run => False
  | .await => ∃ condition timeout interval, session.wait = .polling condition timeout interval
  | _ => True

namespace Exchange

/-- The address that a listing tells: the node listed the contracts of a code, and an address can be
taken from what it printed. -/
def resolved? (exchange : Exchange) : Option String :=
  match exchange.command, exchange.reply with
  | .listContracts _, .finished exitCode output _ =>
    if exitCode = 0 then (ContractAddress.readCaptured output).toOption else none
  | _, _ => none

/-- Only listings tell addresses. -/
theorem resolved?_of_not_isListing {exchange : Exchange} (h : ¬exchange.command.IsListing) :
    exchange.resolved? = none := by
  obtain ⟨step, command, reply⟩ := exchange
  cases command with
  | listContracts codeId => exact absurd trivial h
  | instantiate codeId message sender label noAdmin => rfl
  | execute contract message sender funds => rfl
  | query contract message => rfl
  | status => rfl

/-- A listing tells the address that its output is read as. -/
theorem resolved?_of_result_eq_ok (step : Option String) (codeId : Int) {reply : Reply}
    {argv : List String} {succeeded : Reply.Succeeded} (h : reply.result argv = .ok succeeded) :
    resolved? ⟨step, .listContracts codeId, reply⟩ =
      (ContractAddress.readCaptured succeeded.output).toOption := by
  obtain ⟨rfl, -⟩ := Reply.result_eq_ok_iff.mp h
  rfl

/-- A listing that failed tells none. -/
theorem resolved?_of_result_eq_error (step : Option String) (codeId : Int) {reply : Reply}
    {argv : List String} {error : Reply.Error} (h : reply.result argv = .error error) :
    resolved? ⟨step, .listContracts codeId, reply⟩ = none := by
  cases reply with
  | missing reason => rfl
  | denied reason => rfl
  | finished exitCode output errors =>
    have hcode : exitCode ≠ 0 := by
      rintro rfl
      cases h
    exact if_neg hcode

end Exchange

namespace Session

/-! ### What exchanges tell of the contract -/

/-- The address that the latest listing told, of those that told one. -/
def latestResolved (exchanges : List Exchange) : Option String :=
  (exchanges.filterMap Exchange.resolved?).getLast?

/-- Each command to a contract is addressed to the one that was resolved latest before it. -/
def Addressed (exchanges : List Exchange) : Prop :=
  ∀ earlier exchange later, exchanges = earlier ++ exchange :: later →
    ∀ address, exchange.command.addressee? = some address → latestResolved earlier = some address

/-- The session remembers the contract that its exchanges tell, and has used no other. -/
structure Accounted (state : SessionState) : Prop where
  addressed : Addressed state.exchanges
  contract_eq : state.contract = latestResolved state.exchanges

section

variable {exchanges issued : List Exchange}

/-- The latest contract is told by the later exchanges, if by any of them. -/
theorem latestResolved_append :
    latestResolved (exchanges ++ issued) =
      (latestResolved issued).or (latestResolved exchanges) := by
  unfold latestResolved
  rw [List.filterMap_append, List.getLast?_append]

/-- Exchanges without a listing tell no address. -/
theorem latestResolved_of_not_isListing (h : ∀ exchange ∈ issued, ¬exchange.command.IsListing) :
    latestResolved issued = none := by
  have hnil : issued.filterMap Exchange.resolved? = [] := by
    rw [List.filterMap_eq_nil_iff]
    intro exchange hmem
    exact Exchange.resolved?_of_not_isListing (h exchange hmem)
  rw [latestResolved, hnil]
  rfl

theorem addressed_nil : Addressed [] := by
  intro earlier exchange later h
  simp at h

/-- More exchanges have to go to the contract that is the latest at their place. -/
theorem Addressed.append (h : Addressed exchanges)
    (hissued : ∀ earlier exchange later, issued = earlier ++ exchange :: later →
      ∀ address, exchange.command.addressee? = some address →
        latestResolved (exchanges ++ earlier) = some address) :
    Addressed (exchanges ++ issued) := by
  intro earlier exchange later heq address haddressee
  rw [List.append_eq_append_iff] at heq
  rcases heq with ⟨between, rfl, hlater⟩ | ⟨between, hearlier, hlater⟩
  · exact hissued between exchange later hlater address haddressee
  · rw [List.cons_eq_append_iff] at hlater
    rcases hlater with ⟨rfl, rfl⟩ | ⟨between', rfl, rfl⟩
    · -- The command is the first one behind `exchanges`.
      rw [List.append_nil] at hearlier
      subst hearlier
      have hfirst := hissued [] exchange later rfl address haddressee
      rwa [List.append_nil] at hfirst
    · exact h earlier exchange between' hearlier address haddressee

end

/-! ### Steps that keep the contract -/

/-- The contract stays, and the commands in between heed it; none of them is a listing. -/
def Stays (state final : SessionState) : Prop :=
  final.contract = state.contract ∧ Says state final fun issued =>
    ∀ exchange ∈ issued, exchange.command.Heeds state.contract ∧ ¬exchange.command.IsListing

theorem stays_refl (state : SessionState) : Stays state state := by
  refine ⟨rfl, says_refl ?_⟩
  intro exchange hmem
  cases hmem

theorem Stays.trans {first second third : SessionState} (h : Stays first second)
    (h' : Stays second third) : Stays first third := by
  obtain ⟨hcontract, hsays⟩ := h
  obtain ⟨hcontract', hsays'⟩ := h'
  refine ⟨hcontract'.trans hcontract, hsays.trans hsays' ?_⟩
  intro issued issued' hissued hissued'
  rw [hcontract] at hissued'
  exact List.forall_mem_append.mpr ⟨hissued, hissued'⟩

theorem stays_showing (state : SessionState) (lines : List Line) :
    Stays state (state.showing lines) :=
  stays_refl state

/-- A command that heeds the contract, and does not list any, keeps it. -/
theorem stays_issued {state : SessionState} {step : Option String} {command : NodeCommand}
    (hheeds : command.Heeds state.contract) (hlisting : ¬command.IsListing) :
    Stays state (state.issued step command) := by
  refine ⟨rfl, [⟨step, command, state.reply⟩], rfl, ?_⟩
  intro exchange hmem
  obtain rfl := List.mem_singleton.mp hmem
  exact ⟨hheeds, hlisting⟩

/-- Single actions keep the contract. -/
theorem frame_stays (session : Session) : session.Frame Stays where
  refl := stays_refl
  trans := Stays.trans
  showing := stays_showing
  pausing state _ := stays_refl state
  quietly state command hheeds hquestion := by
    rw [ends_quietly]
    have hissued : Stays state (state.issued none command) :=
      stays_issued hheeds hquestion.not_isListing
    split
    · exact hissued
    · exact hissued
  logged state name command hheeds hlisting := by
    have hissued : Stays state (state.issued (some name) command) := stays_issued hheeds hlisting
    exact Ends.logged (fun _ _ _ => hissued) (fun _ _ => hissued) fun _ _ => hissued

/-- Commands that heed the contract are addressed to the latest one if it is that. -/
theorem Stays.accounted {state final : SessionState} (h : Stays state final)
    (hs : Accounted state) : Accounted final := by
  obtain ⟨hcontract, issued, hexchanges, hissued⟩ := h
  obtain ⟨haddressed, heq⟩ := hs
  -- No command asks for a listing, so none of them tells a contract.
  have hnone (part : List Exchange) (hpart : ∀ exchange ∈ part, exchange ∈ issued) :
      latestResolved (state.exchanges ++ part) = state.contract := by
    have hlistings : latestResolved part = none := by
      apply latestResolved_of_not_isListing
      intro exchange hmem
      exact (hissued exchange (hpart exchange hmem)).2
    rw [latestResolved_append, hlistings, Option.none_or, heq]
  constructor
  · rw [hexchanges]
    apply haddressed.append
    rintro earlier exchange later rfl address haddressee
    rw [hnone earlier fun _ hmem => List.mem_append_left _ hmem]
    have hheeds := (hissued exchange (by simp)).1
    exact hheeds address haddressee
  · rw [hexchanges, hnone issued fun _ hmem => hmem, hcontract]

/-! ### The choice of the contract -/

/-- Only listings were asked for, and the contract is the one they told, or the one from before if
they told none. -/
def Chooses (state final : SessionState) : Prop :=
  ∃ issued, final.exchanges = state.exchanges ++ issued ∧
    (∀ exchange ∈ issued, exchange.command.IsListing) ∧
    final.contract = (latestResolved issued).or state.contract

/-- Where the contract is chosen, what is remembered stays what the exchanges tell. -/
theorem Chooses.accounted {state final : SessionState} (h : Chooses state final)
    (hs : Accounted state) : Accounted final := by
  obtain ⟨issued, hexchanges, hlistings, hcontract⟩ := h
  obtain ⟨haddressed, heq⟩ := hs
  constructor
  · rw [hexchanges]
    apply haddressed.append
    rintro earlier exchange later rfl address haddressee
    have hlisting := hlistings exchange (by simp)
    -- A listing goes to no contract.
    obtain ⟨step, command, reply⟩ := exchange
    cases command with
    | listContracts codeId => cases haddressee
    | _ => exact hlisting.elim
  · rw [hcontract, hexchanges, latestResolved_append, heq]

/-- Whoever asks nothing and remembers the same has chosen nothing. -/
theorem chooses_refl {state final : SessionState} (hexchanges : final.exchanges = state.exchanges)
    (hcontract : final.contract = state.contract) : Chooses state final := by
  refine ⟨[], by rw [hexchanges, List.append_nil], ?_, hcontract⟩
  intro exchange hmem
  cases hmem

/-- One listing chooses what it tells. -/
theorem chooses_listing {state final : SessionState} {step : Option String} {codeId : Int}
    {reply : Reply} {told : Option String}
    (hexchanges : final.exchanges = state.exchanges ++ [⟨step, .listContracts codeId, reply⟩])
    (htold : Exchange.resolved? ⟨step, .listContracts codeId, reply⟩ = told)
    (hcontract : final.contract = told.or state.contract) : Chooses state final := by
  refine ⟨_, hexchanges, ?_, ?_⟩
  · intro exchange hmem
    obtain rfl := List.mem_singleton.mp hmem
    trivial
  · rw [hcontract, latestResolved]
    cases told with
    | none => rw [List.filterMap_cons_none htold]; rfl
    | some address => rw [List.filterMap_cons_some htold]; rfl

/-- The listing that a session asks for tells the contract that is chosen.  If the choice is
reported to have failed, the contract stays. -/
theorem ends_resolveAddress_chooses {session : Session} {state : SessionState} :
    Ends session.resolveAddress state (fun _ final => Chooses state final)
      fun failure final => Chooses state final ∧
        (failure.isReported = true → final.contract = state.contract) := by
  unfold resolveAddress
  rw [ends_bind]
  refine Ends.present (fun titled => ?_) fun error titled => ⟨chooses_refl rfl rfl, fun _ => rfl⟩
  rw [ends_bind]
  refine Ends.logged (fun succeeded lines hr => ?_) (fun error hr => ?_) fun reason hr => ?_
  · have htold := Exchange.resolved?_of_result_eq_ok (some "resolve") session.settings.codeId hr
    rw [ends_bind, ends_orFail]
    cases hread : ContractAddress.readCaptured succeeded.output with
    | error error =>
      rw [hread] at htold
      exact ⟨chooses_listing rfl htold rfl, fun _ => rfl⟩
    | ok address =>
      rw [hread] at htold
      dsimp only
      rw [ends_bind, ends_modify, ends_bind]
      -- The contract is chosen by now, and stays so if it cannot be shown.
      refine Ends.present (fun shown => ?_) fun error shown => ⟨?_, fun hreported => ?_⟩
      · exact chooses_listing rfl htold rfl
      · exact chooses_listing rfl htold rfl
      · cases hreported
  · have htold := Exchange.resolved?_of_result_eq_error (some "resolve") session.settings.codeId hr
    exact ⟨chooses_listing rfl htold rfl, fun _ => rfl⟩
  · have htold := Exchange.resolved?_of_result_eq_error (some "resolve") session.settings.codeId hr
    exact ⟨chooses_listing rfl htold rfl, fun _ => rfl⟩

/-! ### Steps that need a contract -/

/-- The step stops without a word to the node if there is no contract. -/
def Idles {α : Type} (x : SessionM α) : Prop :=
  ∀ state, state.contract = none → Ends x state (fun _ _ => False)
    fun _ final => final.exchanges = state.exchanges ∧ final.log = state.log

section

variable {α β : Type} {session : Session}

theorem Idles.bind {x : SessionM α} (hx : Idles x) (f : α → SessionM β) : Idles (x >>= f) := by
  intro state hc
  rw [ends_bind]
  exact (hx state hc).mono (fun _ _ hfalse => hfalse.elim) fun _ _ hf => hf

/-- There is no contract to give where none was resolved. -/
theorem idles_contract : Idles contract := by
  intro state hc
  rw [ends_contract, hc]
  exact ⟨rfl, rfl⟩

/-- A title may be shown first. -/
theorem idles_titled {title : Report} {f : Unit → SessionM α} (hf : Idles (f ())) :
    Idles (session.present title >>= f) := by
  intro state hc
  rw [ends_bind]
  exact Ends.present (fun lines => hf (state.showing lines) hc) fun _ _ => ⟨rfl, rfl⟩

theorem idles_execute {name : String} {message : Message} {sender : String}
    {funds : Option String} : Idles (session.execute name message sender funds) :=
  idles_contract.bind _

theorem idles_ask {name : String} {message : Message} : Idles (session.ask name message) :=
  idles_contract.bind _

theorem idles_askQuietly {message : Message} : Idles (session.askQuietly message) :=
  idles_contract.bind _

/-- A wait that polls stops at its first look. -/
theorem idles_await {condition : Condition} {timeout interval : Binary64}
    (hw : session.wait = .polling condition timeout interval) : Idles session.await := by
  unfold await
  rw [hw]
  refine idles_titled fun state hc => ?_
  unfold Polling.wait Polling.poll
  simp only [ends_bind, ends_get]
  have hlook : Idles session.fetchSchedule := idles_askQuietly.bind _
  exact (hlook state hc).mono (fun _ _ hfalse => hfalse.elim) fun _ _ hf => hf

/-- An operation that needs a contract stops at once if there is none. -/
theorem idles_perform {operation : Operation} (h : operation.NeedsContract session) :
    Idles (operation.perform session) := by
  cases operation with
  | instantiate => exact h.elim
  | resolveAddress => exact h.elim
  | run => exact h.elim
  | await =>
    obtain ⟨condition, timeout, interval, hw⟩ := h
    exact (idles_await hw).bind _
  -- What is left shows a title, and then asks for the contract.
  | registerAgent => exact (idles_titled idles_execute).bind _
  | createTask amount => exact (idles_titled idles_execute).bind _
  | queryTasks => exact (idles_titled idles_ask).bind _
  | fetchTasks => exact (idles_askQuietly.bind _).bind _
  | fetchSchedule => exact (idles_askQuietly.bind _).bind _
  | proxyCall => exact (idles_titled idles_execute).bind _
  | queryTasksOfOwner owner => exact (idles_titled idles_ask).bind _
  | queryTask hash => exact (idles_titled idles_ask).bind _
  | queryTaskHash task owner deposit => exact (idles_titled idles_ask).bind _
  | querySlotIds => exact (idles_titled idles_ask).bind _
  | querySlotHashes slot => exact (idles_titled idles_ask).bind _
  | validateInterval interval => exact (idles_titled idles_ask).bind _
  | removeTask hash sender => exact (idles_titled idles_execute).bind _
  | refillTaskBalance hash amount sender => exact (idles_titled idles_execute).bind _
  | contract => exact idles_contract.bind _

end

/-! ### Operations in a row -/

/-- Every operation keeps the account of the contract. -/
theorem perform_accounted (session : Session) (operation : Operation) {state : SessionState}
    (hs : Accounted state) :
    Ends (operation.perform session) state (fun _ => Accounted) fun _ => Accounted := by
  have hframe : session.Frame fun state final => Accounted state → Accounted final :=
    (frame_stays session).weaken (fun h => h.accounted) fun h h' hs => h' (h hs)
  have hresolve : Keeps (fun state final => Accounted state → Accounted final)
      session.resolveAddress := by
    intro state
    exact ends_resolveAddress_chooses.mono (fun _ _ hd => hd.accounted)
      fun _ _ hf => hf.1.accounted
  have hkeeps := hframe.perform_of_resolveAddress hresolve operation state
  exact hkeeps.mono (fun _ _ hd => hd hs) fun _ _ hf => hf hs

theorem accounted_initial (script : List TimedReply) (now : Binary64) :
    Accounted (.initial script now) where
  addressed := addressed_nil
  contract_eq := rfl

/-- The rules that a session in the given state follows for its contract. -/
structure AddressRules (session : Session) (state : SessionState) : Prop where
  /-- Each command to a contract went to the one that was resolved latest before it. -/
  addressed : Addressed state.exchanges
  /-- The session remembers the contract that was resolved latest. -/
  contract_eq : state.contract = latestResolved state.exchanges
  /-- While there is none, what needs a contract fails without a command and without a record. -/
  idle : latestResolved state.exchanges = none → ∀ operation : Operation,
    operation.NeedsContract session → Ends (operation.perform session) state (fun _ _ => False)
      fun _ final => final.exchanges = state.exchanges ∧ final.log = state.log
  /-- A choice of the contract that is reported to have failed leaves the contract as it was. -/
  resolve_failed : Ends (Operation.resolveAddress.perform session) state (fun _ _ => True)
    fun failure final => failure.isReported = true → final.contract = state.contract
  /-- Only the choice of the contract and a run change the contract. -/
  kept : ∀ operation : Operation, operation ≠ .resolveAddress → operation ≠ .run →
    Ends (operation.perform session) state (fun _ final => final.contract = state.contract)
      fun _ final => final.contract = state.contract

/-- **The contract of a session.**  Whatever operations a session does, and whatever the node
replies to them, it is left in a state that follows the rules. -/
theorem performAll_addressRules (session : Session) (script : List TimedReply) (now : Binary64)
    (operations : List Operation) :
    session.AddressRules (session.performAll (.initial script now) operations) := by
  -- The invariant holds behind each of the operations, by induction on them.
  have haccounted : Accounted (session.performAll (.initial script now) operations) := by
    apply performAll_induction _ (accounted_initial script now)
    intro operation state hs
    exact perform_accounted session operation hs
  generalize session.performAll (.initial script now) operations = state at haccounted
  obtain ⟨haddressed, hcontract⟩ := haccounted
  refine ⟨haddressed, hcontract, ?_, ?_, ?_⟩
  · intro hnone operation hneeds
    exact idles_perform hneeds state (hcontract.trans hnone)
  · unfold Operation.perform
    rw [ends_bind]
    exact ends_resolveAddress_chooses.mono (fun _ _ _ => trivial) fun _ _ hf => hf.2
  · intro operation hresolve hrun
    have hkeeps := (frame_stays session).perform hresolve hrun state
    exact hkeeps.mono (fun _ _ hd => hd.1) fun _ _ hf => hf.1

end Session

end ContractDrill
