import ContractDrill.Proofs.Session.Invariant
import ContractDrill.Proofs.Session.Progress
import ContractDrill.Proofs.Session.Workflow

/-!
# Exit codes

The exit code of a run tells how it ended (`ofEnvironment_exitLaw`).  It is `0` exactly if the whole
workflow was carried out and every command ended well; it is the exit code of the command that
failed, if one did; and it is `1` if the run stopped although every command ended well, or did not
begin.

Two facts on a run meet here.  The exit codes on the way are an invariant: all are `0`, but for the
last one of a run that fails for a command (`ends_run_exits`).  And a run that stops for another
reason has not come to the end of a word of the workflow: the last command of such a word is a call
of the agent, and the last one of the run is a question whose answer came too late or is rejected.
-/

namespace ContractDrill

/-- The exit code of a command.  A program that is not there has one as well, but one that may not
be run has none. -/
def Reply.exitCode? : Reply → Option Int
  | .finished exitCode _ _ => some exitCode
  | .missing _ => some 127
  | .denied _ => none

theorem Reply.exitCode?_of_result_eq_ok {argv : List String} {reply : Reply}
    {succeeded : Reply.Succeeded} (h : reply.result argv = .ok succeeded) :
    reply.exitCode? = some 0 := by
  obtain ⟨rfl, -⟩ := result_eq_ok_iff.mp h
  rfl

/-- The exit code of a failure is that of its reply; a program that is not there has one as well. -/
theorem Reply.exitCode?_of_result_eq_failed {argv : List String} {reply : Reply}
    {failed : Reply.Failed} (h : reply.result argv = .error (.failed failed)) :
    reply.exitCode? = some failed.exitCode := by
  rcases result_eq_failed_iff.mp h with ⟨reason, rfl, rfl⟩ | ⟨_, _, _, rfl, -, rfl⟩
  · rfl
  · rfl

/-- The command ended well. -/
def Exchange.ExitsWell (exchange : Exchange) : Prop :=
  exchange.reply.exitCode? = some 0

namespace Session

/-! ### Exit codes on the way -/

/-- All commands ended well. -/
def AllWell (exchanges : List Exchange) : Prop :=
  ∀ exchange ∈ exchanges, exchange.ExitsWell

/-- What is known of the exchanges behind a failure. -/
def LeavesBehind (failure : Failure) (exchanges : List Exchange) : Prop :=
  match failure with
  | .command failed => failed.exitCode ≠ 0 ∧ ∃ earlier last, exchanges = earlier ++ [last] ∧
      AllWell earlier ∧ last.reply.exitCode? = some failed.exitCode
  | .denied _ => True
  | .timedOut .. => AllWell exchanges ∧ ∃ last, exchanges.getLast? = some last ∧
      last.command = .status
  | _ => AllWell exchanges

section

variable {session : Session} {state : SessionState} {step : Option String} {command : NodeCommand}

/-- A command that succeeds leaves all well. -/
theorem AllWell.issued (h : AllWell state.exchanges) {argv : List String}
    {succeeded : Reply.Succeeded} (hr : state.reply.result argv = .ok succeeded) :
    AllWell (state.issued step command).exchanges := by
  refine List.forall_mem_append.mpr ⟨h, fun exchange hmem => ?_⟩
  obtain rfl := List.mem_singleton.mp hmem
  exact Reply.exitCode?_of_result_eq_ok hr

/-- A command without a result is the first one that is not well. -/
theorem AllWell.leavesBehind (h : AllWell state.exchanges) {argv : List String}
    {error : Reply.Error} (hr : state.reply.result argv = .error error) :
    LeavesBehind (replyFailure error) (state.issued step command).exchanges := by
  cases error with
  | failed failed =>
    have hcode := Reply.exitCode?_of_result_eq_failed hr
    exact ⟨Reply.exitCode_ne_zero_of_result hr, _, _, rfl, h, hcode⟩
  | denied reason => trivial

/-- A logged command goes on where all is well, or it is the first one that is not. -/
theorem leads_logged_exits (name : String) (command : NodeCommand) :
    Leads (session.logged name command) (fun exchanges _ => AllWell exchanges)
      (fun exchanges _ => AllWell exchanges) fun failure exchanges _ =>
        LeavesBehind failure exchanges := by
  intro state hs
  refine Ends.logged (fun succeeded lines hr => ?_) (fun error hr => ?_) fun reason hr => ?_
  · exact hs.issued hr
  · exact hs.leavesBehind hr
  · exact hs.leavesBehind hr

theorem ends_quietly_exits (hs : AllWell state.exchanges)
    {done : Reply.Succeeded → SessionState → Prop}
    (hd : ∀ succeeded, AllWell (state.issued none command).exchanges →
      done succeeded (state.issued none command)) :
    Ends (session.quietly command) state done fun failure final =>
      LeavesBehind failure final.exchanges := by
  rw [ends_quietly]
  cases hr : state.reply.result (command.argv session.settings) with
  | ok succeeded => exact hd succeeded (hs.issued hr)
  | error error => exact hs.leavesBehind hr

/-- That all commands went well is an invariant of a run. -/
theorem runInvariant_exits (session : Session) :
    session.RunInvariant (fun exchanges _ => AllWell exchanges)
      (fun exchanges _ => AllWell exchanges)
      fun failure exchanges _ => LeavesBehind failure exchanges where
  fails failure hplain _ _ hs := by
    cases failure with
    | command failed => exact hplain.elim
    | timedOut wait elapsed => exact hplain.elim
    | denied reason => trivial
    | _ => exact hs
  logged name command _ _ := leads_logged_exits name command
  look condition timeout interval hw state hs := by
    rw [ends_fetchSchedule]
    split
    · exact hs
    · refine ends_quietly_exits hs fun reply hasked => ?_
      split
      · refine ends_quietly_exits hasked fun status hlooked => ?_
        split
        · -- If time is up now, the status is the latest command.
          exact ⟨hlooked, fun _ => hlooked, fun _ => ⟨hlooked, _, List.getLast?_concat, rfl⟩⟩
        · exact hlooked
      · exact hasked
  delay _ _ _ _ hs := hs
  weaken _ _ hs := hs
  agentCall name command _ := leads_logged_exits name command

/-- A run ends with all well, or with what its failure leaves behind. -/
theorem ends_run_exits (session : Session) (script : List TimedReply) (now : Binary64) :
    Ends session.run (.initial script now) (fun _ final => AllWell final.exchanges)
      fun failure final => LeavesBehind failure final.exchanges := by
  have hnil : AllWell (SessionState.initial script now).exchanges := by
    intro exchange hmem
    cases hmem
  exact (runInvariant_exits session).run _ hnil

end

/-! ### The end of the workflow -/

/-- All words end with the command. -/
def EndsWith (words : Language NodeCommand) (command : NodeCommand) : Prop :=
  ∀ word ∈ words, word.getLast? = some command

theorem EndsWith.mul_left {words words' : Language NodeCommand} {command : NodeCommand}
    (h : EndsWith words' command) : EndsWith (words * words') command := by
  rintro _ ⟨word, -, word', hword', rfl⟩
  show (word ++ word').getLast? = some command
  rw [List.getLast?_append, h word' hword', Option.some_or]

/-- The last command of the workflow is the last call of the agent. -/
theorem endsWith_workflow (session : Session) (address : String) :
    EndsWith (session.workflow address) (session.agentCall address) := by
  have hcall : EndsWith {[session.agentCall address]} (session.agentCall address) := by
    rintro _ rfl
    rfl
  have hround : EndsWith (session.roundWords address) (session.agentCall address) :=
    hcall.mul_left.mul_left
  have hrounds : EndsWith (session.roundWords address ^ rounds) (session.agentCall address) := by
    rw [rounds, pow_succ]
    exact hround.mul_left
  exact hrounds.mul_left.mul_left.mul_left.mul_left

/-- A run that comes through has spoken a word of the workflow.  The cause of a failure is the
session itself, or the latest command. -/
theorem ends_run_words (session : Session) (script : List TimedReply) (now : Binary64) :
    Ends session.run (.initial script now)
      (fun address final => final.exchanges.map Exchange.command ∈ session.workflow address)
      fun failure final => failure.IsOwn ∨
        ∃ last, final.exchanges.getLast? = some last ∧ ¬last.Accepted := by
  -- The run is taken apart at the choice of its contract, which the words behind it depend on.
  rw [run_eq, ends_bind]
  refine (follows_opening.ends _ rfl).mono (fun _ opened hopened => ?_) fun failure final hf =>
    hf.of_initial.cause
  rw [ends_bind]
  refine ends_resolveAddress.mono (fun address found hfound => ?_) fun failure final hf => ?_
  · obtain ⟨hcontract, hfound⟩ := hfound
    have hlisted := hopened.2.trans (hfound.mono fun _ h => h.1) fun _ _ => Complete.append
    rw [ends_bind]
    refine (follows_exercise.ends found hcontract).mono (fun _ final hd => ?_)
      fun failure final hf => ?_
    · have hwords := hlisted.trans hd.2 fun _ _ => Complete.append
      rw [mul_assoc] at hwords
      rw [ends_contract, hd.1]
      exact hwords.of_initial.spells
    · have hwords := hlisted.trans hf fun _ _ => Complete.append_cutShort
      exact hwords.of_initial.cause
  · have hwords := hopened.2.trans hf fun _ _ => Complete.append_cutShort
    exact hwords.of_initial.cause

/-- A run that stops although all its commands ended well has not come to the end of the
workflow. -/
theorem notMem_workflow {session : Session} {failure : Failure} {exchanges : List Exchange}
    (hwell : AllWell exchanges) (hleaves : LeavesBehind failure exchanges)
    (hreported : failure.isReported = true)
    (hcause : failure.IsOwn ∨ ∃ last, exchanges.getLast? = some last ∧ ¬last.Accepted)
    (address : String) : exchanges.map Exchange.command ∉ session.workflow address := by
  intro hword
  have hend := endsWith_workflow session address _ hword
  rw [List.getLast?_map] at hend
  obtain ⟨last, hlast, hcall⟩ := Option.map_eq_some_iff.mp hend
  -- Time is up behind a status, and a command that is not accepted is no call of the agent.
  rcases hcause with hown | ⟨rejected, hrejected, hnot⟩
  · cases failure with
    | timedOut wait elapsed =>
      obtain ⟨-, status, hstatus, hcommand⟩ := hleaves
      obtain rfl := Option.some.inj (hlast.symm.trans hstatus)
      rw [hcall] at hcommand
      cases hcommand
    | markup error => cases hreported
    | _ => exact hown.elim
  · obtain rfl := Option.some.inj (hlast.symm.trans hrejected)
    -- A call of the agent that ends well is accepted.
    have hexits := hwell last (List.mem_of_getLast? hlast)
    obtain ⟨step, command, reply⟩ := last
    obtain rfl : command = session.agentCall address := hcall
    cases reply with
    | finished exitCode output errors =>
      obtain rfl : exitCode = 0 := Option.some.inj hexits
      exact hnot ⟨output, errors, rfl, trivial⟩
    | missing reason => cases hexits
    | denied reason => cases hexits

/-! ### The exit code of a run -/

section

variable {session : Session} {state between : SessionState} {done : Int → SessionState → Prop}
  {failed : Failure → SessionState → Prop}

/-- A run that comes through has the exit code `0`. -/
theorem ends_reportedRun_of_ok {address : String}
    (hx : session.run.run state = (.ok address, between)) :
    Ends session.reportedRun state done failed ↔ done 0 between := by
  unfold reportedRun
  rw [ends_bind, ends_tryCatch, ends_bind, ends_iff_of_run_eq_ok hx]
  rfl

/-- A failure that is reported has its exit code. -/
theorem ends_reportedRun_of_error {failure : Failure}
    (hx : session.run.run state = (.error failure, between))
    (hreported : failure.isReported = true) :
    Ends session.reportedRun state done failed ↔
      Ends (session.present (Report.summary between.log) >>= fun _ =>
        session.present (Report.halt (failure.message Issue.list) failure.details)) between
        (fun _ => done failure.exitCode) failed := by
  unfold reportedRun
  rw [ends_bind, ends_tryCatch, ends_bind, ends_iff_of_run_eq_error hx, if_pos hreported]
  simp only [ends_bind, ends_get]
  rfl

/-- A failure that is not reported leaves the run as it is. -/
theorem ends_reportedRun_of_not_isReported {failure : Failure}
    (hx : session.run.run state = (.error failure, between))
    (hreported : failure.isReported = false) :
    Ends session.reportedRun state done failed ↔ failed failure between := by
  unfold reportedRun
  rw [ends_bind, ends_tryCatch, ends_bind, ends_iff_of_run_eq_error hx, hreported]
  rfl

end

/-! ### The law -/

/-- What the exit code of a session tells of its exchanges. -/
structure ExitLaw (session : Session) (script : List TimedReply) (now : Binary64) (code : Int)
    (exchanges : List Exchange) : Prop where
  /-- A command that failed was the last one and the only one that did, and tells the code. -/
  failed : ∀ exchange ∈ exchanges, ∀ exitCode, exchange.reply.exitCode? = some exitCode →
    exitCode ≠ 0 → code = exitCode ∧ ∃ earlier, exchanges = earlier ++ [exchange] ∧ AllWell earlier
  /-- A run that stopped although no command failed has the code `1`. -/
  stopped : ∀ failure final, session.run.run (.initial script now) = (.error failure, final) →
    AllWell exchanges → code = 1
  /-- The code `0` stands for the whole workflow, carried out well. -/
  zero_iff : code = 0 ↔
    ∃ address, exchanges.map Exchange.command ∈ session.workflow address ∧ AllWell exchanges

section

variable {session : Session} {script : List TimedReply} {now : Binary64} {final : SessionState}

theorem AllWell.exitCode_eq_zero {exchanges : List Exchange} (h : AllWell exchanges)
    {exchange : Exchange} (hmem : exchange ∈ exchanges) {exitCode : Int}
    (hcode : exchange.reply.exitCode? = some exitCode) : exitCode = 0 :=
  Option.some.inj (hcode.symm.trans (h exchange hmem))

/-- The law holds of a run that comes to its end. -/
theorem exitLaw_of_ok {address : String}
    (hx : session.run.run (.initial script now) = (.ok address, final)) :
    ExitLaw session script now 0 final.exchanges := by
  have hwell := (ends_iff_of_run_eq_ok hx).mp (ends_run_exits session script now)
  have hword := (ends_iff_of_run_eq_ok hx).mp (ends_run_words session script now)
  constructor
  · intro exchange hmem exitCode hcode hne
    exact absurd (hwell.exitCode_eq_zero hmem hcode) hne
  · intro failure final' hx'
    rw [hx] at hx'
    cases hx'
  · exact iff_of_true rfl ⟨address, hword, hwell⟩

/-- The law of a run that stopped although no command failed. -/
theorem exitLaw_of_allWell {failure : Failure} (hwell : AllWell final.exchanges)
    (hx : session.run.run (.initial script now) = (.error failure, final))
    (hreported : failure.isReported = true) :
    ExitLaw session script now failure.exitCode final.exchanges := by
  have hleaves := (ends_run_exits session script now).of_eq_error hx
  have hcause := (ends_run_words session script now).of_eq_error hx
  -- Only a failure for a command has an exit code of its own, and that is not well.
  have hcode : failure.exitCode = 1 := by
    cases failure with
    | command failed =>
      obtain ⟨hne, earlier, last, hlast, -, hexits⟩ := hleaves
      have hmem : last ∈ final.exchanges := hlast ▸ List.mem_concat_self
      exact absurd (hwell.exitCode_eq_zero hmem hexits) hne
    | _ => rfl
  rw [hcode]
  constructor
  · intro exchange hmem exitCode hexits hne
    exact absurd (hwell.exitCode_eq_zero hmem hexits) hne
  · intros
    rfl
  · refine iff_of_false (by decide) ?_
    rintro ⟨address, hword, -⟩
    exact notMem_workflow hwell hleaves hreported hcause address hword

/-- The law of a run that stopped for a command. -/
theorem exitLaw_of_command {failed : Reply.Failed}
    (hleaves : LeavesBehind (.command failed) final.exchanges) :
    ExitLaw session script now failed.exitCode final.exchanges := by
  obtain ⟨hne, earlier, last, hlast, hearlier, hexits⟩ := hleaves
  have hnot : ¬AllWell final.exchanges := by
    intro hwell
    have hmem : last ∈ final.exchanges := hlast ▸ List.mem_concat_self
    exact hne (hwell.exitCode_eq_zero hmem hexits)
  constructor
  · intro exchange hmem exitCode hcode hne'
    rw [hlast] at hmem
    rcases List.mem_append.mp hmem with hmem | hmem
    · exact absurd (hearlier.exitCode_eq_zero hmem hcode) hne'
    · obtain rfl := List.mem_singleton.mp hmem
      exact ⟨Option.some.inj (hexits.symm.trans hcode), earlier, hlast, hearlier⟩
  · intro _ _ _ hwell
    exact absurd hwell hnot
  · refine iff_of_false hne ?_
    rintro ⟨address, -, hwell⟩
    exact hnot hwell

/-- The law holds of a run that fails and is reported. -/
theorem exitLaw_of_error {failure : Failure}
    (hx : session.run.run (.initial script now) = (.error failure, final))
    (hreported : failure.isReported = true) :
    ExitLaw session script now failure.exitCode final.exchanges := by
  have hleaves := (ends_run_exits session script now).of_eq_error hx
  cases failure with
  | command failed => exact exitLaw_of_command hleaves
  | denied reason => cases hreported
  | timedOut wait elapsed => exact exitLaw_of_allWell hleaves.1 hx hreported
  | _ => exact exitLaw_of_allWell hleaves hx hreported

/-- A run that is reported has an exit code that follows the law. -/
theorem ends_reportedRun_exitLaw (session : Session) (script : List TimedReply) (now : Binary64) :
    Ends session.reportedRun (.initial script now)
      (fun code final => ExitLaw session script now code final.exchanges)
      fun failure _ => failure.isReported = false := by
  cases hx : session.run.run (.initial script now) with
  | mk result final =>
    cases result with
    | ok address =>
      rw [ends_reportedRun_of_ok hx]
      exact exitLaw_of_ok hx
    | error failure =>
      cases hreported : failure.isReported with
      | true =>
        have hlaw := exitLaw_of_error hx hreported
        rw [ends_reportedRun_of_error hx hreported, ends_bind]
        exact Ends.present (fun _ => Ends.present (fun _ => hlaw) fun _ _ => rfl) fun _ _ => rfl
      | false =>
        rw [ends_reportedRun_of_not_isReported hx hreported]
        exact hreported

end

/-- **The exit code of a run.**  Whatever the environment holds and whatever the node replies: if
the settings are rejected, the exit code is `1` and no command was run, and if they are accepted,
the exit code follows the law.  There is none only if the run stops for a failure that no report is
made of. -/
theorem ofEnvironment_exitLaw (environment : String → Option String) (width : Nat)
    (script : List TimedReply) (now : Binary64) :
    Ends (Run.ofEnvironment environment width) (.initial script now)
      (fun code final => match Settings.ofEnvironment environment with
        | .invalid _ => code = 1 ∧ final.exchanges = []
        | .valid settings =>
          ExitLaw (Session.ofSettings settings width) script now code final.exchanges)
      fun failure _ => failure.isReported = false := by
  unfold Run.ofEnvironment
  cases Settings.ofEnvironment environment with
  | invalid issues =>
    dsimp only
    rw [ends_bind]
    exact Ends.present (fun _ => ⟨rfl, rfl⟩) fun _ _ => rfl
  | valid settings => exact ends_reportedRun_exitLaw _ script now

end Session

end ContractDrill
