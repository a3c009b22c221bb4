import ContractDrill.Proofs.Answer.Head
import ContractDrill.Proofs.Session.Closing
import ContractDrill.Proofs.Session.Invariant
import ContractDrill.Proofs.Wait.TimeLimit

/-!
# Statuses in a run

A run goes on behind a status only with the chain head that it tells; the first status without one
ends the run (`ends_run_allRead`).  The exit code is `1` if the status is settled, and if it is not,
the run ends without one (`ofEnvironment_statusLaw`).

The invariant of the run is that a chain head was read from every status so far.  Only the second
command of a look can break it, and then the look fails for the very error.
-/

namespace ContractDrill

theorem ChainHead.readStatus_of_statusText {output errors : Option String} {text : String}
    (h : statusText output errors = .ok text) : readStatus output errors = read text := by
  unfold readStatus
  rw [h]
  rfl

/-- A text that is rejected is settled just if its error is reported. -/
theorem ChainHead.settles_iff_isReported {text : String} {error : ChainHead.Error}
    (h : read text = .error error) : Settles text ↔ error.isReported = true := by
  unfold Settles
  rw [h]
  simp

namespace Session

/-! ### Statuses on the way -/

/-- What was made of each answer to the question for the status is as `p` says. -/
def EachStatus (p : Except ChainHead.Error ChainHead → Prop) (exchanges : List Exchange) : Prop :=
  ∀ exchange ∈ exchanges, exchange.command = .status → ∀ output errors,
    exchange.reply = .finished 0 output errors → p (ChainHead.readStatus output errors)

/-- A chain head was read from every status. -/
def AllRead (exchanges : List Exchange) : Prop :=
  EachStatus (fun result => ∃ head, result = .ok head) exchanges

/-- A chain head was read from every status but those that the failure is about. -/
def AllReadBut (failure : Failure) (exchanges : List Exchange) : Prop :=
  EachStatus (fun result => (∃ head, result = .ok head) ∨
    ∃ error, result = .error error ∧ failure = .head error) exchanges

section

variable {session : Session} {state : SessionState} {command : NodeCommand}
  {p : Except ChainHead.Error ChainHead → Prop}

theorem AllRead.but {exchanges : List Exchange} (h : AllRead exchanges) (failure : Failure) :
    AllReadBut failure exchanges :=
  fun exchange hmem hcommand output errors hreply =>
    .inl (h exchange hmem hcommand output errors hreply)

/-- One more exchange adds a status only if it is the answer to the question for it. -/
theorem EachStatus.issued (h : EachStatus p state.exchanges) (step : Option String)
    (hnew : command = .status → ∀ output errors, state.reply = .finished 0 output errors →
      p (ChainHead.readStatus output errors)) :
    EachStatus p (state.issued step command).exchanges :=
  List.forall_mem_append.mpr ⟨h, List.forall_mem_singleton.mpr hnew⟩

/-- A command that is no look brings no status. -/
theorem leads_logged_allRead (name : String) (hlook : ¬command.IsLook) :
    Leads (session.logged name command) (fun exchanges _ => AllRead exchanges)
      (fun exchanges _ => AllRead exchanges) fun failure exchanges _ =>
        AllReadBut failure exchanges := by
  intro state hs
  have hissued : AllRead (state.issued (some name) command).exchanges := by
    refine EachStatus.issued hs (some name) ?_
    rintro rfl
    exact absurd trivial hlook
  exact Ends.logged (fun _ _ _ => hissued) (fun _ _ => hissued.but _) fun _ _ => hissued.but _

/-- The status of a look is read, or the look fails for it. -/
theorem ends_status_allRead (hs : AllRead state.exchanges)
    {done : Reply.Succeeded → SessionState → Prop}
    (hd : ∀ succeeded, (∀ head, ChainHead.readStatus succeeded.output succeeded.errors = .ok head →
        AllRead (state.issued none .status).exchanges) →
      (∀ error, ChainHead.readStatus succeeded.output succeeded.errors = .error error →
        AllReadBut (.head error) (state.issued none .status).exchanges) →
      done succeeded (state.issued none .status)) :
    Ends (session.quietly .status) state done fun failure final =>
      AllReadBut failure final.exchanges := by
  rw [ends_quietly]
  cases hr : state.reply.result (NodeCommand.status.argv session.settings) with
  | ok succeeded =>
    have hreply := (Reply.result_eq_ok_iff.mp hr).1
    refine hd succeeded (fun head hread => ?_) fun error hread => ?_
    · refine EachStatus.issued hs none fun _ output errors h => ⟨head, ?_⟩
      cases hreply.symm.trans h
      exact hread
    · refine EachStatus.issued (hs.but _) none fun _ output errors h => .inr ⟨error, ?_, rfl⟩
      cases hreply.symm.trans h
      exact hread
  | error error =>
    refine EachStatus.issued (hs.but _) none fun _ output errors h => ?_
    exact absurd h (Reply.ne_finished_of_result_eq_error hr output errors)

/-- It is an invariant of a run that a chain head was read from every status so far. -/
theorem runInvariant_allRead (session : Session) :
    session.RunInvariant (fun exchanges _ => AllRead exchanges)
      (fun exchanges _ => AllRead exchanges)
      fun failure exchanges _ => AllReadBut failure exchanges where
  fails failure _ _ _ hs := hs.but failure
  logged name _ hlook _ := leads_logged_allRead name hlook
  look condition timeout interval _ state hs := by
    rw [ends_fetchSchedule]
    split
    · exact hs.but _
    · rename_i address _
      rw [ends_quietly]
      have hasked : AllRead (state.issued none (slotsQuery address)).exchanges :=
        EachStatus.issued hs none fun h => nomatch h
      split
      · split
        · refine ends_status_allRead hasked fun status hread hrejected => ?_
          split
          · rename_i head hhead
            have hlooked := hread head hhead
            exact ⟨hlooked, fun _ => hlooked, fun _ => hlooked.but _⟩
          · rename_i error hhead
            exact hrejected error hhead
        · exact hasked.but _
      · exact hasked.but _
  delay _ _ _ _ hs := hs
  weaken _ _ hs := hs
  agentCall name _ hcall := leads_logged_allRead name hcall.not_isLook

/-- A run that comes through has read all its statuses, and one that fails has read them all but
the one it fails for. -/
theorem ends_run_allRead (session : Session) (script : List TimedReply) (now : Binary64) :
    Ends session.run (.initial script now) (fun _ final => AllRead final.exchanges)
      fun failure final => AllReadBut failure final.exchanges := by
  have hnil : AllRead (SessionState.initial script now).exchanges := by
    intro exchange hmem
    cases hmem
  exact (runInvariant_allRead session).run _ hnil

/-! ### The law -/

/-- The node answered the question for the status with the text. -/
def TellsStatus (exchanges : List Exchange) (text : String) : Prop :=
  ∃ step output errors, ⟨step, .status, .finished 0 output errors⟩ ∈ exchanges ∧
    ChainHead.statusText output errors = .ok text

/-- A run that is told a status reads it or fails for it. -/
theorem read_of_tellsStatus {script : List TimedReply} {now : Binary64} {text : String}
    (h : TellsStatus (session.run.run (.initial script now)).2.exchanges text) :
    (∃ head, ChainHead.read text = .ok head) ∨
      ∃ error, ChainHead.read text = .error error ∧
        (session.run.run (.initial script now)).1 = .error (.head error) := by
  obtain ⟨step, output, errors, hmem, htext⟩ := h
  have hends := ends_run_allRead session script now
  rw [← ChainHead.readStatus_of_statusText htext]
  cases hrun : session.run.run (.initial script now) with
  | mk result final =>
    rw [hrun] at hmem
    cases result with
    | ok address =>
      have hread := (ends_iff_of_run_eq_ok hrun).mp hends
      exact .inl (hread _ hmem rfl output errors rfl)
    | error failure =>
      rcases hends.of_eq_error hrun _ hmem rfl output errors rfl with hread | ⟨error, herror, rfl⟩
      · exact .inl hread
      · exact .inr ⟨error, herror, rfl⟩

end

/-- **What becomes of a status.**  A text is settled unless it is beyond the depth of the decoder or
tells of an infinite height.  Whatever the environment holds and whatever else the node replies, a
run that is told the text as its status reads a chain head from it, or fails for it; then the exit
code is `1` if the text is settled, and if it is not, the run ends with the failure. -/
theorem ofEnvironment_statusLaw (text : String) :
    (ChainHead.Settles text ↔
      ¬Json.IsTooDeep .usual text ∧ ¬ChainHead.HasInfiniteHeight text) ∧
    ∀ (environment : String → Option String) (settings : Settings) (width : Nat)
      (script : List TimedReply) (now : Binary64),
      Settings.ofEnvironment environment = .valid settings →
      TellsStatus ((Session.ofSettings settings width).run.run (.initial script now)).2.exchanges
        text →
      (∃ head, ChainHead.read text = .ok head) ∨
      ∃ error, ChainHead.read text = .error error ∧
        ((Session.ofSettings settings width).run.run (.initial script now)).1 =
          .error (.head error) ∧
        (ChainHead.Settles text →
          ((Run.ofEnvironment environment width).run (.initial script now)).1 = .ok 1) ∧
        (¬ChainHead.Settles text →
          ((Run.ofEnvironment environment width).run (.initial script now)).1 =
            .error (.head error)) := by
  refine ⟨ChainHead.settles_iff, fun environment settings width script now hsettings htold => ?_⟩
  refine (read_of_tellsStatus htold).imp_right ?_
  rintro ⟨error, hread, hresult⟩
  have hcloses : ((Run.ofEnvironment environment width).run (.initial script now)).1 =
      if error.isReported then .ok 1 else .error (.head error) := by
    unfold Run.ofEnvironment
    rw [hsettings]
    exact run_reportedRun (Prod.ext hresult rfl)
  refine ⟨error, hread, hresult, fun hsettles => ?_, fun hescapes => ?_⟩
  · rw [hcloses, if_pos ((ChainHead.settles_iff_isReported hread).mp hsettles)]
  · rw [hcloses, if_neg fun h => hescapes ((ChainHead.settles_iff_isReported hread).mpr h)]

/-! ### A status that is rejected -/

/-- Settings that poll for five seconds. -/
def polledSettings : Settings :=
  { Settings.default with pollTimeout := .ofInt 5 }

/-- The replies up to the first wait, and a status that is no object. -/
def arrayStatusScript : List TimedReply :=
  [printing "", printing "\x7b\"contracts\":[\"juno1\"]\x7d", printing "", printing "",
    printing "", printing "[]", printing "[0,[],0,[]]", printing "[]"]

/-- The session with these settings. -/
def polled : Session :=
  .ofSettings polledSettings 80

/-- A task of the session is created. -/
theorem Ends.createTask_of_finished {state : SessionState} {rest : List TimedReply} {amount : Int}
    {done : Unit → SessionState → Prop} {failed : Failure → SessionState → Prop}
    (hdescription : Report.Plain
      s!"delegate {polledSettings.coin amount} to {polledSettings.validator}")
    (hat : state.At (printing "" :: rest) (some "juno1") 0)
    (hd : ∀ final, final.At rest (some "juno1") 0 → done () final) :
    Ends (polled.createTask amount) state done failed := by
  have hzero : (0 : Binary64) + 0 = 0 := by decide +kernel
  unfold createTask
  rw [ends_bind]
  refine Ends.present_of_legible (Report.legible_stepStart (by decide +kernel) hdescription) hat
    fun _ hat => ?_
  refine Ends.execute_of_finished hat (by decide) fun final hat => ?_
  rw [hzero] at hat
  exact hd final hat

theorem ends_run_arrayStatus :
    Ends polled.run (.initial arrayStatusScript 0) (fun _ _ => False) fun _ final =>
      TellsStatus final.exchanges "[]" := by
  have hzero : (0 : Binary64) + 0 = 0 := by decide +kernel
  have hpoll : 0 < polledSettings.pollTimeout := by decide +kernel
  have haddress : ContractAddress.readCaptured
      (some "\x7b\"contracts\":[\"juno1\"]\x7d") = .ok "juno1" := by decide +kernel
  have hslots : Payload.readCaptured SlotHashes.read (some "[0,[],0,[]]") = .ok ⟨0, [], 0, []⟩ := by
    decide +kernel
  have hhead : (ChainHead.readStatus (some "[]") (some "")).toOption = none := by decide +kernel
  have htext : ChainHead.statusText (some "[]") (some "") = .ok "[]" :=
    eq_ok_of_toOption (by decide +kernel)
  have hcreations : polled.settings.stakeAmounts.forM polled.createTask =
      polled.createTask 10000 >>= fun _ => polled.createTask 20000 >>= fun _ => pure ⟨⟩ := rfl
  have hrounds : (List.replicate rounds ()).forM (fun _ => polled.round) =
      polled.round >>= fun _ => [()].forM fun _ => polled.round := rfl
  have hat : (SessionState.initial arrayStatusScript 0).At arrayStatusScript none 0 :=
    ⟨rfl, rfl, rfl⟩
  unfold run instantiate resolveAddress registerAgent
  rw [hcreations, hrounds]
  unfold round queryTasks ask await
  simp only [ends_bind, ends_modify, ends_pure, ends_orFail]
  -- The contract is made and found.
  refine Ends.present_of_legible
    (Report.legible_banner (by decide) (by decide) (by decide)) hat fun _ hat => ?_
  refine Ends.present_of_legible
    (Report.legible_stepStart (by decide +kernel) (by decide +kernel)) hat fun _ hat => ?_
  refine Ends.logged_of_finished hat fun _ hat => ?_
  rw [hzero] at hat
  refine Ends.present_of_legible
    (Report.legible_stepStart (by decide +kernel) (by decide +kernel)) hat fun _ hat => ?_
  refine Ends.logged_of_finished hat fun _ hat => ?_
  rw [hzero] at hat
  rw [haddress]
  refine Ends.present_of_legible (Report.legible_contractResolved (by decide))
    ⟨hat.script_eq, rfl, hat.now_eq⟩ fun _ hat => ?_
  -- The agent registers, and two tasks are created.
  refine Ends.present_of_legible
    (Report.legible_stepStart (by decide +kernel) (by decide +kernel)) hat fun _ hat => ?_
  refine Ends.execute_of_finished hat (by decide) fun _ hat => ?_
  rw [hzero] at hat
  refine Ends.createTask_of_finished (by decide +kernel) hat fun _ hat => ?_
  refine Ends.createTask_of_finished (by decide +kernel) hat fun _ hat => ?_
  -- The first look of the first wait is told of no chain head.
  refine Ends.present_of_legible
    (Report.legible_stepStart (by decide +kernel) (by decide +kernel)) hat fun _ hat => ?_
  rw [ends_contract, hat.contract_eq]
  refine Ends.logged_of_finished hat fun _ hat => ?_
  rw [hzero] at hat
  refine Ends.present_of_legible (Report.legible_waitStart (by decide +kernel)) hat fun _ hat => ?_
  rw [polled, wait_ofSettings hpoll]
  simp only [Polling.wait, Polling.poll, surroundings, ends_bind, ends_get, ends_pure]
  rw [ends_fetchSchedule, hat.contract_eq]
  refine Ends.quietly_of_finished hat fun hat => ?_
  rw [hslots]
  refine Ends.quietly_of_finished hat fun _ => ?_
  split
  · rename_i head hread
    rw [hread] at hhead
    cases hhead
  · refine ⟨none, some "[]", some "", List.mem_append_right _ (List.mem_singleton.mpr ?_), htext⟩
    rw [hat.reply_eq]

theorem settles_arrayStatus : ChainHead.Settles "[]" := by
  have hreported : (match ChainHead.read "[]" with
      | .error error => error.isReported
      | .ok _ => false) = true := by decide +kernel
  split at hreported
  · rename_i error hread
    exact (ChainHead.settles_iff_isReported hread).mpr hreported
  · cases hreported

/-- The run with these replies fails for the status, and closes with the exit code `1`. -/
theorem run_arrayStatus :
    Settings.ofEnvironment (Wait.limitedTo "5") = .valid polledSettings ∧
      TellsStatus (polled.run.run (.initial arrayStatusScript 0)).2.exchanges "[]" ∧
      (∃ error, (polled.run.run (.initial arrayStatusScript 0)).1 = .error (.head error)) ∧
      ((Run.ofEnvironment (Wait.limitedTo "5") 80).run (.initial arrayStatusScript 0)).1 =
        .ok 1 := by
  have hread : readNumber "5".toList = some (.ofInt 5) := by decide +kernel
  have hsettings : Settings.ofEnvironment (Wait.limitedTo "5") = .valid polledSettings :=
    Wait.ofEnvironment_limitedTo (by decide +kernel) hread (by decide +kernel)
  obtain ⟨failure, final, hrun, htold⟩ := ends_run_arrayStatus.exists_eq_error
  have htold' : TellsStatus (polled.run.run (.initial arrayStatusScript 0)).2.exchanges "[]" := by
    rw [hrun]
    exact htold
  have hnone : (ChainHead.read "[]").toOption = none := by decide +kernel
  rcases (ofEnvironment_statusLaw "[]").2 _ _ 80 _ _ hsettings htold' with
    ⟨head, hhead⟩ | ⟨error, -, hresult, hcode, -⟩
  · rw [hhead] at hnone
    cases hnone
  · exact ⟨hsettings, htold', ⟨error, hresult⟩, hcode settles_arrayStatus⟩

end Session

end ContractDrill
