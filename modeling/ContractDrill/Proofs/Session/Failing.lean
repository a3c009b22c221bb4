import ContractDrill.Proofs.Session.Invariant
import ContractDrill.Proofs.Session.Progress

/-!
# Commands that fail a run

A run that fails for a command shows that command as the last step of its log if, and only if, the
command belongs to no look of a polling wait (`run_shown_iff`).  A look is quiet also when it fails:
the log then ends with the step in front of the wait, which went well.

The invariant of the run is that all logged steps went well; so a failure is the last step of the
log exactly if it was logged at all.
-/

namespace ContractDrill

namespace Session

/-- The log ends with the command that failed. -/
def Shows (log : List StepRecord) (failed : Reply.Failed) : Prop :=
  ∃ record, log.getLast? = some record ∧ record.argv = failed.argv ∧
    record.exitCode = failed.exitCode ∧ record.output = failed.output

/-- The last exchange is the command that failed.  The log ends with it unless it belongs to a look,
and only a session that polls looks at the schedule. -/
structure Stopped (session : Session) (failed : Reply.Failed) (exchanges : List Exchange)
    (log : List StepRecord) (last : Exchange) : Prop where
  last_eq : exchanges.getLast? = some last
  result_eq : last.result session.settings = .error (.failed failed)
  shows_iff : Shows log failed ↔ ¬last.command.IsLook
  polls : last.command.IsLook →
    ∃ condition timeout interval, session.wait = .polling condition timeout interval

/-- All steps of the log went well. -/
def WentWell (log : List StepRecord) : Prop :=
  ∀ record ∈ log, record.exitCode = 0

section

variable {session : Session} {state : SessionState} {command : NodeCommand}

/-- A log of steps that went well does not end with a command that failed. -/
theorem WentWell.not_shows {log : List StepRecord} (h : WentWell log) {argv : List String}
    {reply : Reply} {failed : Reply.Failed} (hr : reply.result argv = .error (.failed failed)) :
    ¬Shows log failed := by
  rintro ⟨record, hlast, -, hcode, -⟩
  have hzero := h record (List.mem_of_getLast? hlast)
  exact Reply.exitCode_ne_zero_of_result hr (hcode ▸ hzero)

/-- A command of the workflow is logged, whether it goes well or not. -/
theorem leads_logged {name : String} (hlook : ¬command.IsLook) :
    Leads (session.logged name command) (fun _ log => WentWell log) (fun _ log => WentWell log)
      fun failure exchanges log => ∀ failed, failure = .command failed →
        ∃ last, Stopped session failed exchanges log last := by
  intro state hs
  rw [ends_logged]
  cases hr : state.reply.result (command.argv session.settings) with
  | ok succeeded =>
    refine Ends.present (fun _ => Ends.present (fun _ => ?_) fun _ _ => ?_) fun _ _ => ?_
    · exact List.forall_mem_append.mpr ⟨hs, by simp⟩
    · exact fun _ hne => Failure.noConfusion hne
    · exact fun _ hne => Failure.noConfusion hne
  | error error =>
    cases error with
    | failed failed =>
      -- The log got its record before the run stopped.
      intro failed' heq
      obtain rfl := Failure.command.inj heq
      refine ⟨⟨some name, command, state.reply⟩, by simp, hr, iff_of_true ?_ hlook,
        fun h => absurd h hlook⟩
      exact ⟨_, List.getLast?_concat, rfl, rfl, rfl⟩
    | denied reason => exact fun _ hne => Failure.noConfusion hne

/-- A command of a look is not logged. -/
theorem ends_quietly_stopped (hlook : command.IsLook) {condition : Condition}
    {timeout interval : Binary64} (hw : session.wait = .polling condition timeout interval)
    (hs : WentWell state.log) {done : Reply.Succeeded → SessionState → Prop}
    (hd : ∀ succeeded, done succeeded (state.issued none command)) :
    Ends (session.quietly command) state done fun failure final =>
      ∀ failed, failure = .command failed →
        ∃ last, Stopped session failed final.exchanges final.log last := by
  rw [ends_quietly]
  cases hr : state.reply.result (command.argv session.settings) with
  | ok succeeded => exact hd succeeded
  | error error =>
    cases error with
    | failed failed =>
      -- The log still ends with a step that went well.
      intro failed' heq
      obtain rfl := Failure.command.inj heq
      exact ⟨⟨none, command, state.reply⟩, by simp, hr,
        iff_of_false (hs.not_shows hr) (not_not_intro hlook), fun _ => ⟨_, _, _, hw⟩⟩
    | denied reason => exact fun _ hne => Failure.noConfusion hne

/-- That all logged steps went well is an invariant of a run. -/
theorem runInvariant_stopped (session : Session) :
    session.RunInvariant (fun _ log => WentWell log) (fun _ log => WentWell log)
      fun failure exchanges log => ∀ failed, failure = .command failed →
        ∃ last, Stopped session failed exchanges log last where
  fails failure hplain _ _ _ failed heq := by
    subst heq
    exact hplain.elim
  logged _ _ hlook _ := leads_logged hlook
  look condition timeout interval hw state hs := by
    -- Both questions of a look are quiet.
    have hstatus : NodeCommand.status.IsLook := trivial
    rw [ends_fetchSchedule]
    split
    · exact fun _ hne => Failure.noConfusion hne
    · rename_i address hc
      have hslots : (slotsQuery address).IsLook := rfl
      refine ends_quietly_stopped hslots hw hs fun reply => ?_
      split
      · have hasked : WentWell (state.issued none (slotsQuery address)).log := hs
        refine ends_quietly_stopped hstatus hw hasked fun status => ?_
        split
        · exact ⟨hs, fun _ => hs, fun _ _ hne => Failure.noConfusion hne⟩
        · exact fun _ hne => Failure.noConfusion hne
      · exact fun _ hne => Failure.noConfusion hne
  delay _ _ _ _ hs := hs
  weaken _ _ hs := hs
  agentCall _ _ hcall := leads_logged hcall.not_isLook

/-- A run that fails for a command shows it in its log just if it is no look. -/
theorem ends_run_stopped (session : Session) (script : List TimedReply) (now : Binary64) :
    Ends session.run (.initial script now) (fun _ _ => True) fun failure final =>
      ∀ failed, failure = .command failed →
        ∃ last, Stopped session failed final.exchanges final.log last := by
  have hnil : WentWell (SessionState.initial script now).log := by
    intro record hmem
    cases hmem
  exact ((runInvariant_stopped session).run _ hnil).mono (fun _ _ _ => trivial) fun _ _ hf => hf

/-- **The failure that stopped a run.**  If a run fails for a command, that command was the last
one, and the log ends with it unless it belongs to a look; only a session that polls can fail for
such a command. -/
theorem run_shown_iff {session : Session} {script : List TimedReply} {now : Binary64}
    {failed : Reply.Failed} {final : SessionState}
    (h : session.run.run (.initial script now) = (.error (.command failed), final)) :
    ∃ last, Stopped session failed final.exchanges final.log last :=
  (ends_run_stopped session script now).of_eq_error h failed rfl

end

/-- The replies up to the first wait, and a failure of its first look. -/
def refusedScript : List TimedReply :=
  sampleOpening ++ [⟨0, .finished 9 (some "") (some "refused")⟩]

/-- A run whose first look is refused fails for that look. -/
theorem ends_run_refused :
    Ends sample.run (.initial refusedScript 0) (fun _ _ => False) fun failure final =>
      ∃ failed last, failure = .command failed ∧ final.exchanges.getLast? = some last ∧
        last.command.IsLook := by
  refine ends_run_sample fun state hat => ?_
  have hpoll : 0 < sampleSettings.pollTimeout := by decide +kernel
  have hwait := wait_ofSettings hpoll 80
  unfold await
  rw [ends_bind, ends_bind]
  refine Ends.present_of_legible (Report.legible_waitStart (by decide +kernel)) hat fun _ hat => ?_
  rw [sample, hwait]
  simp only [Polling.wait, Polling.poll, surroundings, ends_bind, ends_get, ends_pure]
  rw [ends_fetchSchedule, hat.contract_eq]
  dsimp only
  rw [ends_quietly, hat.reply_eq]
  exact ⟨_, _, rfl, List.getLast?_concat, rfl⟩

/-- The run with these replies fails for a command. -/
theorem exists_run_refused : ∃ failed last final,
    sample.run.run (.initial refusedScript 0) = (.error (.command failed), final) ∧
      final.exchanges.getLast? = some last ∧ last.command.IsLook := by
  obtain ⟨failure, final, hrun, failed, last, rfl, hlast, hlook⟩ := ends_run_refused.exists_eq_error
  exact ⟨failed, last, final, hrun, hlast, hlook⟩

/-- The run with these replies stops for a look, as its last exchange tells. -/
theorem run_refused_stopped : ∃ failed final last,
    sample.run.run (.initial refusedScript 0) = (.error (.command failed), final) ∧
      Stopped sample failed final.exchanges final.log last ∧ last.command.IsLook := by
  obtain ⟨failed, last, final, hrun, hlast, hlook⟩ := exists_run_refused
  obtain ⟨last', hstopped⟩ := run_shown_iff hrun
  obtain rfl := Option.some.inj (hlast.symm.trans hstopped.last_eq)
  exact ⟨failed, final, last, hrun, hstopped, hlook⟩

/-- The failure of a look is not in the log. -/
theorem run_refused_not_shown : ∃ failed final,
    sample.run.run (.initial refusedScript 0) = (.error (.command failed), final) ∧
      ¬Shows final.log failed := by
  obtain ⟨failed, last, final, hrun, hlast, hlook⟩ := exists_run_refused
  have hends := ends_run_stopped sample refusedScript 0
  obtain ⟨last', hstopped⟩ := hends.of_eq_error hrun failed rfl
  obtain rfl := Option.some.inj (hlast.symm.trans hstopped.last_eq)
  exact ⟨failed, final, hrun, fun hshows => hstopped.shows_iff.mp hshows hlook⟩

end Session

end ContractDrill
