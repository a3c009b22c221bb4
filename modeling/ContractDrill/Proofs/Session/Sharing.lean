import ContractDrill.Proofs.Node.Chain
import ContractDrill.Proofs.Session.Addressing

/-!
# Runs that share a chain

A run makes a contract, and works with the one that is listed last when it asks for the contracts of
its code.  Nothing carries the address of the new contract from one command to the other; so another
run may come in between.

`addressee_madeLast` says which contract a run works with: the one made last before its listing,
which is its own exactly if no other run has made one since.  `not_forall_owns` is a history in
which one has.

The proof follows the exchanges of a run out of a common history (`ofRun`): up to the first command
that goes to a contract they are a successful instantiation and a listing (`run_opening`).
-/

namespace ContractDrill

namespace Session

/-! ### The first commands of a run -/

section

variable {session : Session} {command : NodeCommand} {issued : List Exchange}

theorem Complete.exists_eq_singleton (h : Complete {[command]} issued) :
    ∃ exchange, issued = [exchange] ∧ exchange.command = command ∧ exchange.Accepted := by
  have hmap : issued.map Exchange.command = [command] := h.spells
  obtain ⟨exchange, rfl, hcommand⟩ := List.map_eq_singleton_iff.mp hmap
  exact ⟨exchange, rfl, hcommand, h.accepted exchange (List.mem_singleton_self _)⟩

theorem CutShort.command_eq {failure : Failure} (h : CutShort {[command]} failure issued) :
    ∀ exchange ∈ issued, exchange.command = command := by
  obtain ⟨word, hword, hprefix⟩ := h.begins
  obtain rfl : word = [command] := hword
  intro exchange hmem
  have hcommand := hprefix.subset (List.mem_map_of_mem hmem)
  exact List.mem_singleton.mp hcommand

/-- No command goes to a contract, or those that do come behind an instantiation and a listing that
went well, and go to the contract that was listed. -/
def OpensWell (session : Session) (exchanges : List Exchange) : Prop :=
  (∀ exchange ∈ exchanges, exchange.command.addressee? = none) ∨
    ∃ made listed rest address, exchanges = made :: listed :: rest ∧
      made.Makes session.settings.codeId ∧ listed.Lists session.settings.codeId address ∧
      ∀ exchange ∈ rest, exchange.command.Heeds (some address)

/-- Every run opens well. -/
theorem ends_run_opensWell (session : Session) (script : List TimedReply) (now : Binary64) :
    Ends session.run (.initial script now) (fun _ final => session.OpensWell final.exchanges)
      fun _ final => session.OpensWell final.exchanges := by
  rw [run_eq, ends_bind]
  refine (follows_opening.ends _ rfl).mono (fun _ opened hopened => ?_) fun failure final hf => ?_
  · obtain ⟨made, hopened, hmade, houtput, herrors, hreply, -⟩ :=
      (hopened.2.mono fun _ => Complete.exists_eq_singleton).of_initial
    have hmakes : made.Makes session.settings.codeId := by
      refine ⟨⟨_, _, _, _, hmade⟩, houtput, herrors, hreply⟩
    rw [ends_bind]
    refine ends_resolveAddress.mono (fun address found hfound => ?_) fun failure final hf => ?_
    · obtain ⟨hcontract, issued, hexchanges, hcomplete, listed', hmem, hlists⟩ := hfound
      obtain ⟨listed, rfl, hlisted, -⟩ := hcomplete.exists_eq_singleton
      obtain rfl := List.mem_singleton.mp hmem
      rw [hopened] at hexchanges
      rw [ends_bind]
      -- Behind the listing the contract is fixed, and no command goes to another one.
      have hexercise := (frame_stays session).exercise found
      have hopens {final : SessionState} (hstays : Stays found final) :
          session.OpensWell final.exchanges := by
        obtain ⟨-, rest, hrest, hheeds⟩ := hstays
        right
        refine ⟨made, listed', rest, address, ?_, hmakes, hlists, ?_⟩
        · rw [hrest, hexchanges]
          rfl
        · intro exchange hmem
          rw [← hcontract]
          exact (hheeds exchange hmem).1
      refine hexercise.mono (fun _ final hstays => ?_) fun _ final hstays => hopens hstays
      rw [ends_contract]
      split
      · exact hopens hstays
      · exact hopens hstays
    · -- The listing was not accepted, and nothing came behind it.
      obtain ⟨issued, hexchanges, hcut⟩ := hf
      left
      rw [hexchanges, hopened]
      refine List.forall_mem_append.mpr ⟨?_, ?_⟩
      · intro exchange hmem
        rw [List.mem_singleton.mp hmem, hmade]
        rfl
      · intro exchange hmem
        rw [hcut.command_eq exchange hmem]
        rfl
  · have hcut := hf.of_initial
    left
    intro exchange hmem
    rw [hcut.command_eq exchange hmem]
    rfl

/-- In front of a command that goes to a contract, a run has made a contract and found the one that
the command goes to. -/
theorem run_opening {script : List TimedReply} {now : Binary64} {earlier later : List Exchange}
    {exchange : Exchange} {address : String}
    (hsplit : (session.run.run (.initial script now)).2.exchanges = earlier ++ exchange :: later)
    (haddressee : exchange.command.addressee? = some address) :
    ∃ made listed rest, earlier = made :: listed :: rest ∧
      made.Makes session.settings.codeId ∧ listed.Lists session.settings.codeId address := by
  have hopens := (ends_run_opensWell session script now).final
  rw [hsplit] at hopens
  rcases hopens with hnone | ⟨made, listed, rest, listing, heq, hmakes, hlists, hheeds⟩
  · have hnot := hnone exchange (List.mem_append_right _ List.mem_cons_self)
    rw [hnot] at haddressee
    cases haddressee
  · -- Neither the instantiation nor the listing goes to a contract.
    have hfront : exchange ∉ [made, listed] := by
      intro hmem
      rcases List.mem_pair.mp hmem with rfl | rfl
      · obtain ⟨⟨message, sender, label, noAdmin, hmade⟩, -⟩ := hmakes
        rw [hmade] at haddressee
        cases haddressee
      · rw [hlists.1] at haddressee
        cases haddressee
    have hrest : ∃ between, earlier = [made, listed] ++ between ∧
        rest = between ++ exchange :: later := by
      have heq' : earlier ++ exchange :: later = [made, listed] ++ rest := heq
      rcases List.append_eq_append_iff.mp heq' with ⟨between, hmade, hlater⟩ | h
      · cases between with
        | nil => exact ⟨[], by rw [hmade, List.append_nil, List.append_nil], hlater.symm⟩
        | cons first between =>
          obtain ⟨rfl, -⟩ := List.cons.inj hlater
          exact absurd (hmade ▸ List.mem_append_right _ List.mem_cons_self) hfront
      · exact h
    obtain ⟨between, rfl, rfl⟩ := hrest
    have hheeded := hheeds exchange (List.mem_append_right _ List.mem_cons_self) address haddressee
    rw [Option.some.inj hheeded] at hlists
    exact ⟨made, listed, between, rfl, hmakes, hlists⟩

end

/-! ### Histories of several runs -/

section

variable {ι : Type} [DecidableEq ι]

/-- The exchanges with one run, out of a history of several. -/
def ofRun (runner : ι) (history : List (ι × Exchange)) : List Exchange :=
  history.filterMap fun entry => if entry.1 = runner then some entry.2 else none

theorem ofRun_append (runner : ι) (history history' : List (ι × Exchange)) :
    ofRun runner (history ++ history') = ofRun runner history ++ ofRun runner history' :=
  List.filterMap_append

/-- The first exchange with a run stands behind exchanges with others. -/
theorem exists_of_ofRun_eq_cons {runner : ι} {history : List (ι × Exchange)} {exchange : Exchange}
    {rest : List Exchange} (h : ofRun runner history = exchange :: rest) :
    ∃ front back, history = front ++ (runner, exchange) :: back ∧
      (∀ entry ∈ front, entry.1 ≠ runner) ∧ ofRun runner back = rest := by
  obtain ⟨front, ⟨other, exchange'⟩, back, hhistory, hfront, hfound, hback⟩ :=
    List.filterMap_eq_cons_iff.mp h
  by_cases hother : other = runner
  · simp only [hother, if_true, Option.some.injEq] at hfound
    refine ⟨front, back, ?_, ?_, hback⟩
    · rw [hhistory, hother, hfound]
    · intro entry hmem heq
      have hnone := hfront entry hmem
      rw [if_pos heq] at hnone
      cases hnone
  · rw [if_neg hother] at hfound
    cases hfound

/-- A history of runs with the same code against one chain, each as far as it has come.  No run has
made a contract before. -/
structure SharesChain (session : ι → Session) (codeId : Int) (chain : Chain ι)
    (history : List (ι × Exchange)) (final : Chain ι) : Prop where
  codeId_eq : ∀ runner, (session runner).settings.codeId = codeId
  unmade : ∀ contract ∈ chain codeId, contract.maker = none
  serves : chain.Serves history final
  runs : ∀ runner, ∃ script now,
    ofRun runner history <+: ((session runner).run.run (.initial script now)).2.exchanges

/-- A command that goes to a contract comes behind an instantiation and a listing of the same run,
which has nothing said before or in between. -/
theorem SharesChain.exists_opening {session : ι → Session} {codeId : Int} {chain final : Chain ι}
    {history : List (ι × Exchange)} (h : SharesChain session codeId chain history final)
    {runner : ι} {earlier later : List (ι × Exchange)} {exchange : Exchange} {address : String}
    (hsplit : history = earlier ++ (runner, exchange) :: later)
    (haddressee : exchange.command.addressee? = some address) :
    ∃ front made middle listed back,
      earlier = front ++ (runner, made) :: middle ++ (runner, listed) :: back ∧
        (∀ entry ∈ front ++ middle, entry.1 ≠ runner) ∧
        made.Makes codeId ∧ listed.Lists codeId address := by
  obtain ⟨script, now, more, hrun⟩ := h.runs runner
  have hone : ofRun runner ((runner, exchange) :: later) = exchange :: ofRun runner later := by
    simp [ofRun]
  rw [hsplit, ofRun_append, hone, List.append_assoc, List.cons_append] at hrun
  obtain ⟨made, listed, rest, hearlier, hmakes, hlists⟩ := run_opening hrun.symm haddressee
  rw [h.codeId_eq] at hmakes hlists
  obtain ⟨front, behind, rfl, hfront, hbehind⟩ := exists_of_ofRun_eq_cons hearlier
  obtain ⟨middle, back, rfl, hmiddle, -⟩ := exists_of_ofRun_eq_cons hbehind
  refine ⟨front, made, middle, listed, back, ?_, ?_, hmakes, hlists⟩
  · rw [List.append_assoc]
    rfl
  · exact List.forall_mem_append.mpr ⟨hfront, hmiddle⟩

/-- **The contract that a run works with.**  It is the one that was made last before the listing of
the run, and the run's own exactly if no other run has made one since the run made its own. -/
theorem addressee_madeLast {session : ι → Session} {codeId : Int} {chain final : Chain ι}
    {history : List (ι × Exchange)} (h : SharesChain session codeId chain history final)
    {runner : ι} {earlier later : List (ι × Exchange)} {exchange : Exchange} {address : String}
    (hsplit : history = earlier ++ (runner, exchange) :: later)
    (haddressee : exchange.command.addressee? = some address) :
    ∃ front made middle listed back before,
      earlier = front ++ (runner, made) :: middle ++ (runner, listed) :: back ∧
        (∀ entry ∈ front ++ middle, entry.1 ≠ runner) ∧
        made.Makes codeId ∧ listed.Lists codeId address ∧
        chain.Serves (front ++ (runner, made) :: middle) before ∧
        before.Serves ((runner, listed) :: back ++ (runner, exchange) :: later) final ∧
        (before codeId).getLast?.map Contract.address = some address ∧
        (final.Owns codeId runner address ↔ ∀ entry ∈ middle, ¬entry.2.Makes codeId) := by
  obtain ⟨front, made, middle, listed, back, hearlier, hothers, hmakes, hlists⟩ :=
    h.exists_opening hsplit haddressee
  -- The chain in front of the run, behind its instantiation, and at its listing.
  have hserves := h.serves
  rw [hsplit, hearlier, List.append_assoc, List.cons_append, List.append_assoc,
    List.cons_append] at hserves
  obtain ⟨begun, hfront, hserves⟩ := Chain.serves_append_iff.mp hserves
  obtain ⟨own, hmade, hserves⟩ := Chain.serves_cons_iff.mp hserves
  obtain ⟨before, hmiddle, hserves⟩ := Chain.serves_append_iff.mp hserves
  have happart : (chain codeId).Pairwise Contract.Apart := by
    apply List.pairwise_of_forall_mem_list
    intro first hfirst second hsecond hmakers
    rw [h.unmade first hfirst, h.unmade second hsecond] at hmakers
    simp at hmakers
  -- What is listed is the contract that was made last.
  obtain ⟨hcommand, output, errors, hreply, hread⟩ := hlists
  obtain ⟨listing, hlisted, hrest⟩ := Chain.serves_cons_iff.mp hserves
  have hlast : (before codeId).getLast?.map Contract.address = some address := by
    cases hlisted with
    | made hmakes' hfresh =>
      obtain ⟨⟨message, sender, label, noAdmin, hcommand'⟩, -⟩ := hmakes'
      rw [hcommand] at hcommand'
      cases hcommand'
    | other hmakes' hanswer =>
      have hlisting := hanswer codeId output errors hcommand hreply
      rw [← List.getLast?_map]
      exact ContractAddress.getLast?_of_readCaptured hlisting hread
  refine ⟨front, made, middle, listed, back, before, hearlier, hothers, hmakes,
    ⟨hcommand, output, errors, hreply, hread⟩,
    Chain.serves_append_iff.mpr ⟨begun, hfront, .cons hmade hmiddle⟩, hserves, hlast, ?_⟩
  obtain ⟨last, hcontract, rfl⟩ := Option.map_eq_some_iff.mp hlast
  have hothersLater : ∀ entry ∈ middle, entry.1 ≠ runner := by
    intro entry hentry
    exact hothers entry (List.mem_append_right _ hentry)
  exact Chain.owns_last_iff (hfront.apart happart) hmakes hmade hmiddle hothersLater hserves
    hcontract

end

/-! ### Two runs at once -/

/-- What the chain lists for two runs that have both made their contract. -/
def sharedListing : String :=
  (Json.object [("contracts", Schema.texts ["juno1first", "juno1second"])]).encode

/-- The replies to such a run, which ends when the agent is refused. -/
def sharedScript : List TimedReply :=
  [printing "", printing sharedListing, ⟨0, .finished 9 (some "") (some "")⟩]

/-- The exchanges of such a run. -/
def sharedMaking : Exchange :=
  ⟨some "instantiate", sample.instantiation, .finished 0 (some "") (some "")⟩

def sharedResolving : Exchange :=
  ⟨some "resolve", .listContracts sample.settings.codeId,
    .finished 0 (some sharedListing) (some "")⟩

def sharedRegistering : Exchange :=
  ⟨some "register_agent", sample.registration "juno1second", .finished 9 (some "") (some "")⟩

theorem ends_run_shared :
    Ends sample.run (.initial sharedScript 0) (fun _ _ => False) fun _ final =>
      final.exchanges = [sharedMaking, sharedResolving, sharedRegistering] := by
  have hread : ContractAddress.readCaptured (some sharedListing) = .ok "juno1second" := by
    decide +kernel
  unfold run instantiate resolveAddress registerAgent execute
  simp only [ends_bind, ends_modify, ends_pure, ends_orFail]
  refine Ends.shown (Report.legible_banner (by decide) (by decide) (by decide)) fun lines => ?_
  refine Ends.shown (Report.legible_stepStart (by decide +kernel) (by decide +kernel))
    fun lines => ?_
  refine Ends.logged (fun succeeded lines hr => ?_) (fun _ hr => by cases hr)
    fun _ hr => by cases hr
  refine Ends.shown (Report.legible_stepStart (by decide +kernel) (by decide +kernel))
    fun lines => ?_
  refine Ends.logged (fun succeeded lines hr => ?_) (fun _ hr => by cases hr)
    fun _ hr => by cases hr
  cases hr
  dsimp only
  rw [hread]
  dsimp only
  refine Ends.shown (Report.legible_contractResolved (by decide)) fun lines => ?_
  refine Ends.shown (Report.legible_stepStart (by decide +kernel) (by decide +kernel))
    fun lines => ?_
  rw [ends_contract]
  refine Ends.logged (fun _ _ hr => by cases hr) (fun _ hr => ?_) fun _ hr => by cases hr
  rfl

/-- The two runs, `false` and `true`, in turns. -/
def sharedHistory : List (Bool × Exchange) :=
  [(false, sharedMaking), (true, sharedMaking), (false, sharedResolving), (true, sharedResolving),
    (false, sharedRegistering), (true, sharedRegistering)]

/-- The chain behind both runs. -/
def sharedChain : Chain Bool :=
  (Chain.make (fun _ => []) sample.settings.codeId ⟨"juno1first", some false⟩).make
    sample.settings.codeId ⟨"juno1second", some true⟩

theorem sharedMaking_makes : sharedMaking.Makes sample.settings.codeId :=
  ⟨⟨_, _, _, _, rfl⟩, _, _, rfl⟩

/-- The listing shows what both runs have made. -/
theorem answers_sharedResolving (runner : Bool) :
    sharedChain.Answers runner sharedResolving sharedChain := by
  refine .other ?_ ?_
  · rintro codeId ⟨⟨message, sender, label, noAdmin, hcommand⟩, -⟩
    cases hcommand
  · intro codeId output errors hcommand hreply
    cases hcommand
    cases hreply
    have hcontracts : (sharedChain sample.settings.codeId).map Contract.address =
        ["juno1first", "juno1second"] := by
      simp [sharedChain, Chain.make]
    rw [hcontracts]
    refine ⟨_, sharedListing, rfl, Json.isTextOf_encode _, ?_, rfl⟩
    refine .object (by simp) fun member hmember => ?_
    rw [List.mem_singleton.mp hmember]
    exact (fits_texts _ _).mono (by decide)

theorem answers_sharedRegistering (runner : Bool) :
    sharedChain.Answers runner sharedRegistering sharedChain := by
  refine .other ?_ ?_
  · rintro codeId ⟨⟨message, sender, label, noAdmin, hcommand⟩, -⟩
    cases hcommand
  · intro codeId output errors hcommand
    cases hcommand

theorem sharesChain_shared :
    SharesChain (fun _ : Bool => sample) sample.settings.codeId (fun _ => []) sharedHistory
      sharedChain where
  codeId_eq _ := rfl
  unmade contract hmem := by cases hmem
  serves := by
    have hfirst : Chain.Answers (fun _ => []) false sharedMaking
        (Chain.make (fun _ => []) sample.settings.codeId ⟨"juno1first", some false⟩) := by
      refine .made sharedMaking_makes ?_
      intro code contract hmem
      cases hmem
    have hsecond : Chain.Answers
        (Chain.make (fun _ => []) sample.settings.codeId ⟨"juno1first", some false⟩) true
        sharedMaking sharedChain := by
      refine .made sharedMaking_makes ?_
      intro code contract hmem
      unfold Chain.make at hmem
      split at hmem
      · rw [List.mem_singleton.mp hmem]
        decide
      · cases hmem
    -- First both make their contracts, then both list them, and then both register.
    exact .cons hfirst <| .cons hsecond <| .cons (answers_sharedResolving _) <|
      .cons (answers_sharedResolving _) <| .cons (answers_sharedRegistering _) <|
      .cons (answers_sharedRegistering _) <| .nil _
  runs runner := by
    obtain ⟨failure, final, hrun, hexchanges⟩ := ends_run_shared.exists_eq_error
    refine ⟨sharedScript, 0, ?_⟩
    rw [hrun, hexchanges]
    cases runner <;> exact List.prefix_rfl

/-- The rule tells for the first of the two runs that it registers its agent with the contract that
was made last. -/
theorem shared_madeLast :
    sharedHistory = sharedHistory.take 4 ++ (false, sharedRegistering) :: sharedHistory.drop 5 ∧
      sharedRegistering.command.addressee? = some "juno1second" ∧
      ∃ front made middle listed back before,
        sharedHistory.take 4 = front ++ (false, made) :: middle ++ (false, listed) :: back ∧
          (∀ entry ∈ front ++ middle, entry.1 ≠ false) ∧
          made.Makes sample.settings.codeId ∧ listed.Lists sample.settings.codeId "juno1second" ∧
          Chain.Serves (fun _ => []) (front ++ (false, made) :: middle) before ∧
          before.Serves ((false, listed) :: back ++ (false, sharedRegistering) ::
            sharedHistory.drop 5) sharedChain ∧
          (before sample.settings.codeId).getLast?.map Contract.address = some "juno1second" ∧
          (sharedChain.Owns sample.settings.codeId false "juno1second" ↔
            ∀ entry ∈ middle, ¬entry.2.Makes sample.settings.codeId) :=
  ⟨rfl, rfl, addressee_madeLast sharesChain_shared rfl rfl⟩

/-- Not every run works with its own contract: of the two runs the first one registers its agent
with the contract of the second. -/
theorem not_forall_owns :
    ¬∀ (session : Bool → Session) (codeId : Int) (chain final : Chain Bool)
        (history : List (Bool × Exchange)),
      SharesChain session codeId chain history final →
      ∀ runner exchange address, (runner, exchange) ∈ history →
        exchange.command.addressee? = some address → final.Owns codeId runner address := by
  intro hall
  have hmem : (false, sharedRegistering) ∈ sharedHistory := by simp [sharedHistory]
  obtain ⟨contract, hcontract, hmaker, haddress⟩ :=
    hall _ _ _ _ _ sharesChain_shared false sharedRegistering "juno1second" hmem rfl
  simp only [sharedChain, Chain.make, if_true, List.nil_append, List.cons_append,
    List.mem_cons, List.not_mem_nil, or_false] at hcontract
  rcases hcontract with rfl | rfl
  · exact absurd haddress (by decide)
  · exact absurd hmaker (by decide)

end Session

end ContractDrill
