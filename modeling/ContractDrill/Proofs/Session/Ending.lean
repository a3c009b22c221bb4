import ContractDrill.Session.Run

/-!
# How steps of a session end

`Ends x state done failed` says how the step `x` ends when it begins in `state`: `done` holds of
its value and of the state behind it, or `failed` of its failure and of that state.

The end of a sequence is the end of its first step, followed by that of the rest (`ends_bind`), so
a statement about a workflow is taken apart from the front until only commands are left.  What a
command does to the state is `SessionState.issued`; a step that shows something can fail for its
markup, and changes nothing but what is shown (`ends_present`).
-/

namespace ContractDrill

/-! ### Failures, replies and states -/

/-- The session itself is the cause of the failure: its time limit, or what it was to show. -/
def Failure.IsOwn : Failure → Prop
  | .timedOut .. | .markup _ => True
  | _ => False

namespace Reply

/-- A command succeeds just if its program ends with code 0. -/
theorem result_eq_ok_iff {argv : List String} {reply : Reply} {succeeded : Succeeded} :
    reply.result argv = .ok succeeded ↔
      reply = .finished 0 succeeded.output succeeded.errors ∧ succeeded.argv = argv := by
  obtain ⟨argv', output, errors⟩ := succeeded
  cases reply with
  | missing reason => simp [result]
  | denied reason => simp [result]
  | finished exitCode output' errors' =>
    by_cases h : exitCode = 0
    · simp [result, h, eq_comm (a := argv), and_comm (a := argv' = argv)]
    · simp only [result, h, if_false, finished.injEq, false_and, reduceCtorEq]

/-- A command without a result did not end well. -/
theorem ne_finished_of_result_eq_error {argv : List String} {reply : Reply} {error : Error}
    (h : reply.result argv = .error error) (output errors : Option String) :
    reply ≠ .finished 0 output errors := by
  rintro rfl
  cases h

/-- A command fails if its program is not there, or has an exit code other than `0`. -/
theorem result_eq_failed_iff {argv : List String} {reply : Reply} {failed : Failed} :
    reply.result argv = .error (.failed failed) ↔
      (∃ reason, reply = .missing reason ∧ failed = ⟨argv, missingExitCode, "", reason⟩) ∨
        ∃ exitCode output errors, reply = .finished exitCode output errors ∧ exitCode ≠ 0 ∧
          failed = ⟨argv, exitCode, output.getD "", errors.getD ""⟩ := by
  cases reply with
  | missing reason => simp [result, eq_comm]
  | denied reason => simp [result]
  | finished exitCode output errors =>
    by_cases hcode : exitCode = 0
    · simp [result, hcode]
    · simp only [result, hcode, if_false]
      constructor
      · intro h
        cases h
        exact .inr ⟨exitCode, output, errors, rfl, hcode, rfl⟩
      · rintro (⟨reason, hreply, -⟩ | ⟨_, _, _, hreply, -, rfl⟩)
        · cases hreply
        · cases hreply
          rfl

theorem result_eq_denied_iff {argv : List String} {reply : Reply} {reason : String} :
    reply.result argv = .error (.denied reason) ↔ reply = .denied reason := by
  cases reply with
  | missing reason' => simp [result]
  | denied reason' => simp [result]
  | finished exitCode output errors =>
    by_cases hcode : exitCode = 0
    · simp [result, hcode]
    · simp [result, hcode]

/-- A command that failed has an exit code other than `0`. -/
theorem exitCode_ne_zero_of_result {argv : List String} {reply : Reply} {failed : Failed}
    (h : reply.result argv = .error (.failed failed)) : failed.exitCode ≠ 0 := by
  rcases result_eq_failed_iff.mp h with ⟨reason, -, rfl⟩ | ⟨exitCode, output, errors, -, hne, rfl⟩
  · exact (by decide : missingExitCode ≠ 0)
  · exact hne

end Reply

namespace SessionState

/-- The reply to the next command. -/
def reply (state : SessionState) : Reply :=
  (state.script.head?.map TimedReply.reply).getD .silent

/-- The state behind the next command, of the step `step` if it belongs to one. -/
def issued (state : SessionState) (step : Option String) (command : NodeCommand) :
    SessionState where
  script := state.script.tail
  now := (state.script.head?.map fun next => state.now + next.duration).getD state.now
  exchanges := state.exchanges ++ [⟨step, command, state.reply⟩]
  pauses := state.pauses
  log := state.log
  contract := state.contract
  shown := state.shown

/-- The state behind some more lines on the screen. -/
def showing (state : SessionState) (lines : List Line) : SessionState :=
  { state with shown := state.shown ++ lines }

/-- The state behind a record in the log. -/
def logging (state : SessionState) (step : StepRecord) : SessionState :=
  { state with log := state.log ++ [step] }

/-- The state behind a pause. -/
def pausing (state : SessionState) (duration : Binary64) : SessionState :=
  { state with pauses := state.pauses ++ [duration], now := state.now + duration }

/-- The state behind the choice of a contract. -/
def resolving (state : SessionState) (address : String) : SessionState :=
  { state with contract := some address }

variable (state : SessionState) (step : Option String) (command : NodeCommand)
  (lines : List Line) (entry : StepRecord) (duration : Binary64) (address : String)

@[simp] theorem issued_exchanges :
    (state.issued step command).exchanges = state.exchanges ++ [⟨step, command, state.reply⟩] := rfl
@[simp] theorem issued_log : (state.issued step command).log = state.log := rfl
@[simp] theorem issued_contract : (state.issued step command).contract = state.contract := rfl
@[simp] theorem issued_script : (state.issued step command).script = state.script.tail := rfl

@[simp] theorem showing_exchanges : (state.showing lines).exchanges = state.exchanges := rfl
@[simp] theorem showing_log : (state.showing lines).log = state.log := rfl
@[simp] theorem showing_contract : (state.showing lines).contract = state.contract := rfl
@[simp] theorem showing_script : (state.showing lines).script = state.script := rfl

theorem showing_showing (more : List Line) :
    (state.showing lines).showing more = state.showing (lines ++ more) := by
  simp [showing]

@[simp] theorem logging_exchanges : (state.logging entry).exchanges = state.exchanges := rfl
@[simp] theorem logging_log : (state.logging entry).log = state.log ++ [entry] := rfl
@[simp] theorem logging_contract : (state.logging entry).contract = state.contract := rfl
@[simp] theorem logging_script : (state.logging entry).script = state.script := rfl

@[simp] theorem pausing_exchanges : (state.pausing duration).exchanges = state.exchanges := rfl
@[simp] theorem pausing_log : (state.pausing duration).log = state.log := rfl
@[simp] theorem pausing_contract : (state.pausing duration).contract = state.contract := rfl
@[simp] theorem pausing_script : (state.pausing duration).script = state.script := rfl

@[simp] theorem resolving_exchanges : (state.resolving address).exchanges = state.exchanges := rfl
@[simp] theorem resolving_log : (state.resolving address).log = state.log := rfl
@[simp] theorem resolving_contract : (state.resolving address).contract = some address := rfl
@[simp] theorem resolving_script : (state.resolving address).script = state.script := rfl

end SessionState

namespace Session

/-! ### Ends -/

/-- The step `x`, begun in `state`, ends with a value and a state of which `done` holds, or with a
failure and a state of which `failed` does. -/
def Ends {α : Type} (x : SessionM α) (state : SessionState) (done : α → SessionState → Prop)
    (failed : Failure → SessionState → Prop) : Prop :=
  match x.run state with
  | (.ok value, final) => done value final
  | (.error failure, final) => failed failure final

section

variable {α β : Type} {state : SessionState} {done : α → SessionState → Prop}
  {failed : Failure → SessionState → Prop}

@[simp] theorem ends_pure (value : α) :
    Ends (pure value) state done failed ↔ done value state := Iff.rfl

@[simp] theorem ends_throw (failure : Failure) :
    Ends (throw failure : SessionM α) state done failed ↔ failed failure state := Iff.rfl

/-- A sequence ends as its first step does, and then as the rest does. -/
@[simp] theorem ends_bind {x : SessionM α} {f : α → SessionM β}
    {done : β → SessionState → Prop} :
    Ends (x >>= f) state done failed ↔
      Ends x state (fun value between => Ends (f value) between done failed) failed := by
  have run_bind : (x >>= f).run state = match x.run state with
      | (.ok value, between) => (f value).run between
      | (.error failure, between) => (.error failure, between) := by
    unfold ExceptT.run
    simp only [bind, ExceptT.bind, ExceptT.mk, StateT.bind, ExceptT.bindCont]
    cases x state with
    | mk result between => cases result <;> rfl
  unfold Ends
  rw [run_bind]
  cases x.run state with
  | mk result between => cases result <;> rfl

/-- A function is applied to the value that a step ends with. -/
@[simp] theorem ends_map {x : SessionM α} {f : α → β} {done : β → SessionState → Prop} :
    Ends (f <$> x) state done failed ↔
      Ends x state (fun value => done (f value)) failed := by
  rw [map_eq_pure_bind, ends_bind]
  rfl

/-- A failure that is caught is what the handler makes of it. -/
theorem ends_tryCatch {x : SessionM α} {handler : Failure → SessionM α} :
    Ends (tryCatch x handler) state done failed ↔
      Ends x state done fun failure between => Ends (handler failure) between done failed := by
  have run_tryCatch : (tryCatch x handler).run state = match x.run state with
      | (.ok value, between) => (.ok value, between)
      | (.error failure, between) => (handler failure).run between := by
    unfold ExceptT.run
    simp only [tryCatch, tryCatchThe, MonadExceptOf.tryCatch, ExceptT.tryCatch, ExceptT.mk, bind,
      StateT.bind]
    cases x state with
    | mk result between => cases result <;> rfl
  unfold Ends
  rw [run_tryCatch]
  cases x.run state with
  | mk result between => cases result <;> rfl

@[simp] theorem ends_get {done : SessionState → SessionState → Prop} :
    Ends get state done failed ↔ done state state := Iff.rfl

@[simp] theorem ends_modify (f : SessionState → SessionState)
    {done : PUnit → SessionState → Prop} :
    Ends (modify f) state done failed ↔ done ⟨⟩ (f state) := Iff.rfl

/-- Weaker conditions hold at the same end. -/
theorem Ends.mono {x : SessionM α} {done' : α → SessionState → Prop}
    {failed' : Failure → SessionState → Prop} (h : Ends x state done failed)
    (hd : ∀ value final, done value final → done' value final)
    (hf : ∀ failure final, failed failure final → failed' failure final) :
    Ends x state done' failed' := by
  unfold Ends at h ⊢
  cases hx : x.run state with
  | mk result final =>
    rw [hx] at h
    cases result with
    | ok value => exact hd value final h
    | error failure => exact hf failure final h

/-- What two statements say of the same end, it does at once. -/
theorem Ends.and {x : SessionM α} {done' : α → SessionState → Prop}
    {failed' : Failure → SessionState → Prop} (h : Ends x state done failed)
    (h' : Ends x state done' failed') :
    Ends x state (fun value final => done value final ∧ done' value final)
      fun failure final => failed failure final ∧ failed' failure final := by
  unfold Ends at h h' ⊢
  cases hx : x.run state with
  | mk result final =>
    rw [hx] at h h'
    cases result with
    | ok value => exact ⟨h, h'⟩
    | error failure => exact ⟨h, h'⟩

/-- A step that cannot fail has a value. -/
theorem Ends.exists_eq_ok {x : SessionM α} (h : Ends x state done fun _ _ => False) :
    ∃ value final, x.run state = (.ok value, final) ∧ done value final := by
  unfold Ends at h
  cases hx : x.run state with
  | mk result final =>
    rw [hx] at h
    cases result with
    | ok value => exact ⟨value, final, rfl, h⟩
    | error failure => exact h.elim

/-- A step that cannot have a value fails. -/
theorem Ends.exists_eq_error {x : SessionM α} (h : Ends x state (fun _ _ => False) failed) :
    ∃ failure final, x.run state = (.error failure, final) ∧ failed failure final := by
  unfold Ends at h
  cases hx : x.run state with
  | mk result final =>
    rw [hx] at h
    cases result with
    | ok value => exact h.elim
    | error failure => exact ⟨failure, final, rfl, h⟩

/-- How a step ends is read off its run, where that yields a value. -/
theorem ends_iff_of_run_eq_ok {x : SessionM α} {value : α} {final : SessionState}
    (hx : x.run state = (.ok value, final)) : Ends x state done failed ↔ done value final := by
  unfold Ends
  rw [hx]

theorem ends_iff_of_run_eq_error {x : SessionM α} {failure : Failure} {final : SessionState}
    (hx : x.run state = (.error failure, final)) :
    Ends x state done failed ↔ failed failure final := by
  unfold Ends
  rw [hx]

/-- What is true of every failure is true of the failure that came. -/
theorem Ends.of_eq_error {x : SessionM α} {failure : Failure} {final : SessionState}
    (h : Ends x state done failed) (hx : x.run state = (.error failure, final)) :
    failed failure final :=
  (ends_iff_of_run_eq_error hx).mp h

/-- What is true at both ends is true of the state behind the step. -/
theorem Ends.final {x : SessionM α} {p : SessionState → Prop}
    (h : Ends x state (fun _ => p) fun _ => p) : p (x.run state).2 := by
  unfold Ends at h
  cases hx : x.run state with
  | mk result final =>
    rw [hx] at h
    cases result with
    | ok value => exact h
    | error failure => exact h

/-- A loop over a list keeps what each of its steps keeps. -/
theorem ends_forM {inv : SessionState → Prop} {f : β → SessionM PUnit} {items : List β}
    (h : ∀ item ∈ items, ∀ state, inv state → Ends (f item) state (fun _ => inv) failed)
    (hs : inv state) : Ends (items.forM f) state (fun _ => inv) failed := by
  induction items generalizing state with
  | nil => exact hs
  | cons item items ih =>
    change Ends (f item >>= fun _ => items.forM f) state _ _
    rw [ends_bind]
    refine (h item (List.mem_cons_self ..) state hs).mono (fun _ between hb => ?_) fun _ _ hf => hf
    exact ih (fun item' hi => h item' (List.mem_cons_of_mem _ hi)) hb

/-! ### Single actions -/

/-- A result ends well, or with the failure that is made of its error. -/
theorem ends_orFail {ε : Type} {failure : ε → Failure} (result : Except ε α) :
    Ends (orFail failure result) state done failed ↔ match result with
      | .ok value => done value state
      | .error error => failed (failure error) state := by
  cases result <;> rfl

/-- A report is shown, up to wrong markup. -/
theorem ends_present {session : Session} {report : Report} {done : Unit → SessionState → Prop} :
    Ends (session.present report) state done failed ↔
      match report.present session.width with
      | (lines, none) => done () (state.showing lines)
      | (lines, some error) => failed (.markup error) (state.showing lines) := by
  unfold present
  cases h : report.present session.width with
  | mk lines error => cases error <;> simp [SessionState.showing]

/-- A report that does not end in an error is shown. -/
theorem ends_present_of_none {session : Session} {report : Report}
    {done : Unit → SessionState → Prop} (h : (report.present session.width).2 = none) :
    Ends (session.present report) state done failed ↔
      done () (state.showing (report.present session.width).1) := by
  rw [ends_present]
  split
  · rename_i heq
    rw [heq]
  · rename_i heq
    rw [heq] at h
    cases h

/-- What does not hang on what is shown holds behind a report if it holds in front of it. -/
theorem Ends.present {session : Session} {report : Report} {done : Unit → SessionState → Prop}
    (hd : ∀ lines, done () (state.showing lines))
    (hf : ∀ error lines, failed (.markup error) (state.showing lines)) :
    Ends (session.present report) state done failed := by
  rw [ends_present]
  split
  · exact hd _
  · exact hf _ _

@[simp] theorem ends_record {entry : StepRecord} {done : Unit → SessionState → Prop} :
    Ends (record entry) state done failed ↔ done () (state.logging entry) := Iff.rfl

@[simp] theorem ends_pause {duration : Binary64} {done : Unit → SessionState → Prop} :
    Ends (pause duration) state done failed ↔ done () (state.pausing duration) := Iff.rfl

/-- Issuing a command never fails; its result is that of the next reply. -/
theorem ends_issue {session : Session} {step : Option String} {command : NodeCommand}
    {done : Except Reply.Error Reply.Succeeded → SessionState → Prop} :
    Ends (session.issue step command) state done failed ↔
      done (state.reply.result (command.argv session.settings)) (state.issued step command) := by
  obtain ⟨script, _, _, _, _, _, _⟩ := state
  cases script <;> rfl

/-- The contract is the one that was resolved; without one the step fails. -/
@[simp] theorem ends_contract {done : String → SessionState → Prop} :
    Ends contract state done failed ↔ match state.contract with
      | some address => done address state
      | none => failed .unresolved state := by
  unfold contract
  cases h : state.contract <;> simp [h]

/-! ### Commands -/

/-- A quiet command is issued and nothing else happens. -/
theorem ends_quietly {session : Session} {command : NodeCommand}
    {done : Reply.Succeeded → SessionState → Prop} :
    Ends (session.quietly command) state done failed ↔
      match state.reply.result (command.argv session.settings) with
      | .ok succeeded => done succeeded (state.issued none command)
      | .error error => failed (replyFailure error) (state.issued none command) := by
  rw [quietly, ends_bind, ends_issue, ends_orFail]
  cases state.reply.result (command.argv session.settings) <;> rfl

/-- The records that a logged command can leave, for each result of it. -/
theorem ends_logged {session : Session} {name : String} {command : NodeCommand}
    {done : Reply.Succeeded → SessionState → Prop} :
    Ends (session.logged name command) state done failed ↔
      match state.reply.result (command.argv session.settings) with
      | .ok succeeded =>
        Ends (session.present (Report.nodeCall succeeded.argv)) (state.issued (some name) command)
          (fun _ between => Ends (session.present (Report.echo (succeeded.output.getD ""))) between
            (fun _ final => done succeeded
              (final.logging ⟨name, succeeded.argv, 0, succeeded.output.getD ""⟩)) failed) failed
      | .error (.failed error) => failed (.command error)
          ((state.issued (some name) command).logging
            ⟨name, error.argv, error.exitCode, error.output⟩)
      | .error (.denied reason) => failed (.denied reason) (state.issued (some name) command) := by
  rw [logged, ends_bind, ends_issue]
  cases state.reply.result (command.argv session.settings) with
  | ok succeeded => simp
  | error error => cases error <;> simp

end

/-- The step runs the command, and ends with what came of it unless the command or the session
fails. -/
def Runs (x : SessionM Reply.Succeeded) (step : Option String) (command : NodeCommand) : Prop :=
  ∀ state, Ends x state
    (fun succeeded final => final.contract = state.contract ∧
      final.exchanges = state.exchanges ++ [⟨step, command, state.reply⟩] ∧
      state.reply = .finished 0 succeeded.output succeeded.errors)
    fun failure final => final.exchanges = state.exchanges ++ [⟨step, command, state.reply⟩] ∧
      (failure.IsOwn ∨ ∀ output errors, state.reply ≠ .finished 0 output errors)

section

variable {session : Session} {command : NodeCommand}

/-- A quiet command belongs to no step. -/
theorem runs_quietly : Runs (session.quietly command) none command := by
  intro state
  rw [ends_quietly]
  cases hr : state.reply.result (command.argv session.settings) with
  | ok succeeded => exact ⟨rfl, rfl, (Reply.result_eq_ok_iff.mp hr).1⟩
  | error error => exact ⟨rfl, .inr (Reply.ne_finished_of_result_eq_error hr)⟩

/-- A logged command belongs to the step that it is logged for. -/
theorem runs_logged {name : String} : Runs (session.logged name command) (some name) command := by
  intro state
  rw [ends_logged]
  cases hr : state.reply.result (command.argv session.settings) with
  | ok succeeded =>
    have hreply := (Reply.result_eq_ok_iff.mp hr).1
    refine Ends.present (fun _ => Ends.present (fun _ => ?_) fun _ _ => ?_) fun _ _ => ?_
    · exact ⟨rfl, rfl, hreply⟩
    · exact ⟨rfl, .inl trivial⟩
    · exact ⟨rfl, .inl trivial⟩
  | error error =>
    have hrejected := Reply.ne_finished_of_result_eq_error hr
    cases error with
    | failed failed => exact ⟨rfl, .inr hrejected⟩
    | denied reason => exact ⟨rfl, .inr hrejected⟩

end

end Session

end ContractDrill
