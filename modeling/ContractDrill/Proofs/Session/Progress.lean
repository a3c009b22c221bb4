import ContractDrill.Proofs.Session.Reporting
import ContractDrill.Proofs.Session.Waiting
import ContractDrill.Session.Run

/-!
# Steps that go well

A step goes well if what it shows is legible and its command is answered with exit code `0`.  The
rules here follow such steps forward, with an eye on the replies that are left, on the contract and
on the clock (`SessionState.At`).

`ends_run_sample` follows a session to its first wait.
-/

namespace ContractDrill

open Report

theorem eq_ok_of_toOption {ε α : Type} {result : Except ε α} {value : α}
    (h : result.toOption = some value) : result = .ok value := by
  cases result with
  | ok other => exact congrArg Except.ok (Option.some.inj h)
  | error error => cases h

namespace SessionState

variable {state : SessionState} {rest : List TimedReply} {address : Option String}
  {now t : Binary64} {reply : Reply}

/-- The state has the script, the contract and the clock. -/
structure At (script : List TimedReply) (address : Option String) (now : Binary64)
    (state : SessionState) : Prop where
  script_eq : state.script = script
  contract_eq : state.contract = address
  now_eq : state.now = now

theorem At.reply_eq (hat : state.At (⟨t, reply⟩ :: rest) address now) : state.reply = reply := by
  rw [SessionState.reply, hat.script_eq]
  rfl

/-- A command takes its reply from the script, and the time of the reply goes by. -/
theorem At.issued (hat : state.At (⟨t, reply⟩ :: rest) address now) (step : Option String)
    (command : NodeCommand) : (state.issued step command).At rest address (now + t) := by
  obtain ⟨hscript, hcontract, hnow⟩ := hat
  refine ⟨?_, hcontract, ?_⟩
  · rw [issued_script, hscript]
    rfl
  · simp only [SessionState.issued, hscript, hnow]
    rfl

end SessionState

namespace Session

section

variable {session : Session} {state : SessionState} {rest : List TimedReply} {address : String}
  {contract : Option String} {now t : Binary64} {output errors : Option String}
  {command : NodeCommand} {failed : Failure → SessionState → Prop}

/-- A legible report is shown. -/
theorem Ends.shown {report : Report} {done : Unit → SessionState → Prop} (h : Legible report)
    (hd : ∀ lines, done () (state.showing lines)) :
    Ends (session.present report) state done failed :=
  (ends_present_of_none (snd_present_of_legible h session.width)).mpr (hd _)

/-- A command and what it printed can always be shown, so a logged command fails only for its
reply. -/
theorem Ends.logged {name : String} {done : Reply.Succeeded → SessionState → Prop}
    (hok : ∀ succeeded lines, state.reply.result (command.argv session.settings) = .ok succeeded →
      done succeeded (((state.issued (some name) command).showing lines).logging
        ⟨name, succeeded.argv, 0, succeeded.output.getD ""⟩))
    (hfailed : ∀ error,
      state.reply.result (command.argv session.settings) = .error (.failed error) →
      failed (.command error) ((state.issued (some name) command).logging
        ⟨name, error.argv, error.exitCode, error.output⟩))
    (hdenied : ∀ reason,
      state.reply.result (command.argv session.settings) = .error (.denied reason) →
      failed (.denied reason) (state.issued (some name) command)) :
    Ends (session.logged name command) state done failed := by
  rw [ends_logged]
  cases hr : state.reply.result (command.argv session.settings) with
  | ok succeeded =>
    refine Ends.shown (legible_nodeCall _) fun lines => Ends.shown (legible_echo _) fun more => ?_
    -- The command and its echo are shown one behind the other.
    rw [SessionState.showing_showing]
    exact hok succeeded _ hr
  | error error =>
    cases error with
    | failed error => exact hfailed error hr
    | denied reason => exact hdenied reason hr

/-- A legible report is shown, and nothing else changes. -/
theorem Ends.present_of_legible {report : Report} {done : Unit → SessionState → Prop}
    (h : Legible report) (hat : state.At rest contract now)
    (hd : ∀ final, final.At rest contract now → done () final) :
    Ends (session.present report) state done failed :=
  Ends.shown h fun _ => hd _ ⟨hat.script_eq, hat.contract_eq, hat.now_eq⟩

/-- A logged command that is answered well. -/
theorem Ends.logged_of_finished {name : String} {done : Reply.Succeeded → SessionState → Prop}
    (hat : state.At (⟨t, .finished 0 output errors⟩ :: rest) contract now)
    (hd : ∀ final, final.At rest contract (now + t) →
      done ⟨command.argv session.settings, output, errors⟩ final) :
    Ends (session.logged name command) state done failed := by
  have hresult : state.reply.result (command.argv session.settings) =
      .ok ⟨command.argv session.settings, output, errors⟩ := by
    rw [hat.reply_eq]
    rfl
  refine Ends.logged (fun succeeded lines hr => ?_) (fun error hr => ?_) fun reason hr => ?_
  · rw [hresult] at hr
    obtain rfl := Except.ok.inj hr
    have hissued := hat.issued (some name) command
    exact hd _ ⟨hissued.script_eq, hissued.contract_eq, hissued.now_eq⟩
  · rw [hresult] at hr
    cases hr
  · rw [hresult] at hr
    cases hr

/-- A quiet command that is answered well. -/
theorem Ends.quietly_of_finished {done : Reply.Succeeded → SessionState → Prop}
    (hat : state.At (⟨t, .finished 0 output errors⟩ :: rest) contract now)
    (hd : (state.issued none command).At rest contract (now + t) →
      done ⟨command.argv session.settings, output, errors⟩ (state.issued none command)) :
    Ends (session.quietly command) state done failed := by
  rw [ends_quietly, hat.reply_eq]
  exact hd (hat.issued none command)

/-- A message to the contract that is answered well. -/
theorem Ends.execute_of_finished {name : String} {message : Message} {sender : String}
    {funds : Option String} {done : Unit → SessionState → Prop}
    (hat : state.At (⟨t, .finished 0 output errors⟩ :: rest) (some address) now)
    (hname : Plain ("✓ " ++ name))
    (hd : ∀ final, final.At rest (some address) (now + t) → done () final) :
    Ends (session.execute name message sender funds) state done failed := by
  unfold execute
  rw [ends_bind, ends_contract, hat.contract_eq]
  dsimp only
  rw [ends_bind]
  refine Ends.logged_of_finished hat fun _ hfinal => ?_
  exact Ends.present_of_legible (legible_stepDone hname) hfinal hd

/-- A look whose two answers can be read. -/
theorem Ends.fetchSchedule_of_finished {statusOutput statusErrors : Option String}
    {t' : Binary64} {slots : SlotHashes} {head : ChainHead}
    {done : SlotSchedule → SessionState → Prop}
    (hat : state.At (⟨t, .finished 0 output errors⟩ ::
      ⟨t', .finished 0 statusOutput statusErrors⟩ :: rest) (some address) now)
    (hslots : Payload.readCaptured SlotHashes.read output = .ok slots)
    (hhead : ChainHead.readStatus statusOutput statusErrors = .ok head)
    (hd : ∀ final, final.At rest (some address) (now + t + t') →
      done (slots.against head) final) :
    Ends session.fetchSchedule state done failed := by
  rw [ends_fetchSchedule, hat.contract_eq]
  refine Ends.quietly_of_finished hat fun hbetween => ?_
  rw [hslots]
  refine Ends.quietly_of_finished hbetween fun hfinal => ?_
  rw [hhead]
  exact hd _ hfinal

/-- A wait that polls and finds at once what it waits for. -/
theorem Ends.await_of_holds {condition : Condition} {timeout interval : Binary64}
    {statusOutput statusErrors : Option String} {t' : Binary64} {slots : SlotHashes}
    {head : ChainHead} {done : Unit → SessionState → Prop}
    (hwait : session.wait = .polling condition timeout interval)
    (hdescription : Plain ("… " ++ session.wait.description))
    (hat : state.At (⟨t, .finished 0 output errors⟩ ::
      ⟨t', .finished 0 statusOutput statusErrors⟩ :: rest) (some address) now)
    (hslots : Payload.readCaptured SlotHashes.read output = .ok slots)
    (hhead : ChainHead.readStatus statusOutput statusErrors = .ok head)
    (hholds : condition.holds (slots.against head) = true)
    (hreport : Legible (pollStatus (slots.against head).due.length (slots.against head).slotted
      head.height (now + t + t' - now)))
    (hd : ∀ final, final.At rest (some address) (now + t + t') → done () final) :
    Ends session.await state done failed := by
  unfold await
  rw [ends_bind]
  refine Ends.present_of_legible (legible_waitStart hdescription) hat fun between hat => ?_
  rw [hwait]
  simp only [Polling.wait, Polling.poll, surroundings, ends_bind, ends_get, ends_pure]
  -- The first look finds what is waited for, so nothing is paused.
  refine Ends.fetchSchedule_of_finished hat hslots hhead fun looked hlooked => ?_
  rw [hlooked.now_eq, hat.now_eq]
  refine Ends.present_of_legible hreport hlooked fun final hfinal => ?_
  rw [Polling.next_of_holds _ hholds]
  exact hd final hfinal

end

/-! ### A session on its way to its first wait -/

/-- Settings that create no task and poll for five seconds. -/
def sampleSettings : Settings :=
  { Settings.default with stakeAmounts := [], pollTimeout := .ofInt 5 }

/-- The session with these settings. -/
def sample : Session :=
  .ofSettings sampleSettings 80

/-- The reply of a program that ends well, at once, and prints `output`. -/
def printing (output : String) : TimedReply :=
  ⟨0, .finished 0 (some output) (some "")⟩

/-- The replies to the commands in front of the first wait. -/
def sampleOpening : List TimedReply :=
  [printing "", printing "\x7b\"contracts\":[\"juno1\"]\x7d", printing "", printing "[]"]

/-- With these replies the session comes to its first wait. -/
theorem ends_run_sample {rest : List TimedReply} {done : String → SessionState → Prop}
    {failed : Failure → SessionState → Prop}
    (h : ∀ state, state.At rest (some "juno1") 0 →
      Ends (sample.await >>= fun _ => sample.proxyCall) state (fun _ _ => False) failed) :
    Ends sample.run (.initial (sampleOpening ++ rest) 0) done failed := by
  have hzero : (0 : Binary64) + 0 = 0 := by decide +kernel
  have haddress : ContractAddress.readCaptured
      (some "\x7b\"contracts\":[\"juno1\"]\x7d") = .ok "juno1" := by decide +kernel
  have hcreations : sample.settings.stakeAmounts.forM sample.createTask = pure ⟨⟩ := rfl
  have hrounds : (List.replicate rounds ()).forM (fun _ => sample.round) =
      sample.round >>= fun _ => [()].forM fun _ => sample.round := rfl
  have hat : (SessionState.initial (sampleOpening ++ rest) 0).At
      (printing "" :: printing "\x7b\"contracts\":[\"juno1\"]\x7d" :: printing "" ::
        printing "[]" :: rest) none 0 := ⟨rfl, rfl, rfl⟩
  unfold run instantiate resolveAddress registerAgent
  rw [hcreations, hrounds]
  unfold round queryTasks ask
  simp only [ends_bind, ends_modify, ends_pure, ends_orFail]
  -- The contract is made and found.
  refine Ends.present_of_legible (legible_banner (by decide) (by decide) (by decide)) hat
    fun _ hat => ?_
  refine Ends.present_of_legible (legible_stepStart (by decide +kernel) (by decide +kernel)) hat
    fun _ hat => ?_
  refine Ends.logged_of_finished hat fun _ hat => ?_
  rw [hzero] at hat
  refine Ends.present_of_legible (legible_stepStart (by decide +kernel) (by decide +kernel)) hat
    fun _ hat => ?_
  refine Ends.logged_of_finished hat fun _ hat => ?_
  rw [hzero] at hat
  rw [haddress]
  refine Ends.present_of_legible (legible_contractResolved (by decide))
    ⟨hat.script_eq, rfl, hat.now_eq⟩ fun _ hat => ?_
  -- The agent registers, and there is no stake.
  refine Ends.present_of_legible (legible_stepStart (by decide +kernel) (by decide +kernel)) hat
    fun _ hat => ?_
  refine Ends.execute_of_finished hat (by decide) fun _ hat => ?_
  rw [hzero] at hat
  -- The first round looks at the tasks.
  refine Ends.present_of_legible (legible_stepStart (by decide +kernel) (by decide +kernel)) hat
    fun _ hat => ?_
  rw [ends_contract, hat.contract_eq]
  refine Ends.logged_of_finished hat fun state hat => ?_
  rw [hzero] at hat
  have hround := h state hat
  rw [ends_bind] at hround
  refine hround.mono (fun _ between hawaited => ?_) fun _ _ hf => hf
  exact hawaited.mono (fun _ _ hfalse => hfalse.elim) fun _ _ hf => hf

end Session

end ContractDrill
