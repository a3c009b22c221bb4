import ContractDrill.Proofs.Number.Characters
import ContractDrill.Proofs.Screen.Table
import ContractDrill.Proofs.Session.Deeds
import ContractDrill.Proofs.Session.ExitCode

/-!
# How a run closes

A run that stops shows its log as a table, and then why it stopped.  Both can always be shown: the
reason is escaped, and of each command the table has the first words, which are no markup
(`ends_run_showsPlain`).  So a failure that is reported always comes to its exit code, and one that
is not leaves the run as it is (`run_reportedRun`).
-/

namespace ContractDrill

open Markup

/-! ### Plain texts -/

namespace Markup

theorem IsPlain.append {s t : List Char} (hs : IsPlain s) (ht : IsPlain t) : IsPlain (s ++ t) :=
  List.forall_mem_append.mpr ⟨hs, ht⟩

theorem ne_of_isNumeric {c : Char} (h : IsNumeric c) : c ≠ '[' ∧ c ≠ '\\' := by
  rcases h with hdigit | rfl | rfl | rfl | rfl
  · exact ⟨ne_of_isDigit hdigit (by decide), ne_of_isDigit hdigit (by decide)⟩
  all_goals decide

theorem isPlain_of_allNumeric {s : List Char} (h : AllNumeric s) : IsPlain s :=
  fun c hc => ne_of_isNumeric (h c hc)

end Markup

namespace Report

theorem plain_repr (n : Nat) : Plain (toString n) := by
  show IsPlain (Nat.repr n).toList
  rw [Nat.toList_repr]
  exact isPlain_of_allNumeric (allNumeric_toDigits n)

theorem plain_toString (n : Int) : Plain (toString n) := by
  unfold Plain
  rw [toList_toString]
  exact isPlain_of_allNumeric (allNumeric_integerLiteral n)

/-- A plain text that is cut stays plain, with the mark that is put for its end. -/
theorem plain_cutAfter {s : String} (h : Plain s) (size : Nat) : Plain (cutAfter size s) := by
  unfold cutAfter
  split
  · unfold Plain
    rw [String.toList_ofList]
    exact IsPlain.append (fun c hc => h c (List.mem_of_mem_take hc)) (by decide)
  · exact h

/-! ### The reports at the end -/

/-- The reason of a halt is shown, whatever it is. -/
theorem legible_halt (reason : String) (details : List String) : Legible (halt reason details) := by
  have hnone : ∀ piece ∈ ([] : List Piece), piece.IsSound := by simp
  have hwhite : IsStyle "bold white".toList := isStyle_of_mem (by decide)
  have hreason : isLegible s!"[bold white]{literally reason}[/bold white]" = true :=
    isLegible_of_escaped hnone hwhite reason.toList (by simp [toString, literally])
  have hpanel := (Block.legible_text .running hreason).panel (some "  HALT  ".toList) ⟨0, 2⟩
  have hdetails : Legible (details.flatMap echo) := by
    intro block hblock
    obtain ⟨output, -, hecho⟩ := List.mem_flatMap.mp hblock
    exact legible_echo output block hecho
  refine List.forall_mem_append.mpr ⟨List.forall_mem_append.mpr ⟨?_, hdetails⟩, ?_⟩
  · exact List.forall_mem_cons.mpr ⟨legible_blank, legible_singleton hpanel⟩
  · exact legible_singleton legible_blank

/-- The mark of an exit code is legible, whatever the code. -/
theorem isLegible_exitMark (exitCode : Int) : isLegible (exitMark exitCode) = true := by
  have hred : IsStyle "bold red".toList := isStyle_of_checksStyle (by decide +kernel)
  unfold exitMark
  split
  · refine isLegible_of_pieces [.styled "bold green" "0"] ?_ (by simp [Piece.chars])
    exact List.forall_mem_singleton.mpr (sound_styled (by decide) (by decide))
  · refine isLegible_of_pieces [.styled "bold red" (toString exitCode)] ?_
      (by simp [Piece.chars, toString])
    exact List.forall_mem_singleton.mpr ⟨hred, plain_toString exitCode⟩

/-- The words of a command that the summary shows. -/
def summaryWords (argv : List String) : String :=
  " ".intercalate ((argv.drop 1).take 3)

/-- A summary shows nothing of the step but plain texts. -/
def ShowsPlain (step : StepRecord) : Prop :=
  Plain step.name ∧ Plain (summaryWords step.argv)

theorem isLegible_summaryRow {step : StepRecord} (h : ShowsPlain step) (number : Nat) :
    ∀ s ∈ summaryRow number step, isLegible s = true := by
  have hnumber := isLegible_of_isPlain (plain_repr number)
  have hname := isLegible_of_isPlain h.1
  have hwords := isLegible_of_isPlain (plain_cutAfter h.2 60)
  simp only [summaryRow, List.forall_mem_cons, List.not_mem_nil, false_imp_iff, implies_true,
    and_true]
  exact ⟨hnumber, hname, isLegible_exitMark _, hwords⟩

theorem isLegible_summaryTable {log : List StepRecord} (h : ∀ step ∈ log, ShowsPlain step) :
    (summaryTable log).IsLegible where
  headers := by
    have hheader {s : String} (hs : Plain s) := isLegible_of_isPlain hs
    simp only [summaryTable, List.forall_mem_cons, List.not_mem_nil, false_imp_iff, implies_true,
      and_true]
    exact ⟨hheader (by decide), hheader (by decide), hheader (by decide), hheader (by decide)⟩
  cells := by
    intro row hrow
    obtain ⟨⟨step, index⟩, hstep, rfl⟩ := List.mem_map.mp hrow
    exact isLegible_summaryRow (h step (List.fst_mem_of_mem_zipIdx hstep)) _

/-- The log is shown if each of its steps is. -/
theorem legible_summary {log : List StepRecord} (h : ∀ step ∈ log, ShowsPlain step) :
    Legible (summary log) := by
  have htable := Table.legible_block (isLegible_summaryTable h)
  exact List.forall_mem_cons.mpr ⟨legible_blank, legible_singleton (htable.panel _ _)⟩

end Report

/-! ### The log of a run -/

open Report

/-- Of every command but the status the first words are fixed. -/
theorem NodeCommand.plain_summaryWords {command : NodeCommand} (h : command ≠ .status)
    (settings : Settings) : Plain (summaryWords (command.argv settings)) := by
  cases command with
  | instantiate codeId message sender label noAdmin =>
    exact (by decide : Plain (" ".intercalate ["tx", "wasm", "instantiate"]))
  | execute contract message sender funds =>
    exact (by decide : Plain (" ".intercalate ["tx", "wasm", "execute"]))
  | listContracts codeId =>
    exact (by decide : Plain (" ".intercalate ["query", "wasm", "list-contract-by-code"]))
  | query contract message =>
    exact (by decide : Plain (" ".intercalate ["query", "wasm", "contract-state"]))
  | status => exact absurd rfl h

theorem Operation.plain_step {operation : Operation} {name : String}
    (h : operation.step? = some name) : Plain name := by
  cases operation <;> cases h <;> decide

/-- No step of its own is to tell the latest block. -/
theorem Operation.command?_ne_status (session : Session) (contract : Option String)
    (operation : Operation) : operation.command? session contract ≠ some .status := by
  cases operation <;> cases contract <;>
    simp [command?, Session.instantiation, Session.registration, Session.creation,
      Session.tasksQuery, Session.agentCall]

/-- What is recorded of an exchange is shown plain: its name, and the first words of its command. -/
theorem Exchange.showsPlain_of_record? {settings : Settings} {name : String} {exchange : Exchange}
    {step : StepRecord} (hname : Plain name) (hcommand : exchange.command ≠ .status)
    (h : exchange.record? settings (some name) = some step) : ShowsPlain step := by
  have hwords := NodeCommand.plain_summaryWords hcommand settings
  obtain ⟨step?, command, reply⟩ := exchange
  cases reply with
  | finished exitCode output errors =>
    obtain rfl := Option.some.inj h
    exact ⟨hname, hwords⟩
  | missing reason =>
    obtain rfl := Option.some.inj h
    exact ⟨hname, hwords⟩
  | denied reason => cases h

namespace Session

variable {session : Session}

/-- An operation that is a step issues no status. -/
theorem issued_ne_status {operation : Operation} {name : String}
    (hname : operation.step? = some name) (state : SessionState) :
    ∀ exchange ∈ (session.deed state operation).issued, exchange.command ≠ .status := by
  have hissued : Ends (operation.perform session) state
      (fun _ final => ∃ issued, final.exchanges = state.exchanges ++ issued ∧
        ∀ exchange ∈ issued, exchange.command ≠ .status)
      fun _ final => ∃ issued, final.exchanges = state.exchanges ++ issued ∧
        ∀ exchange ∈ issued, exchange.command ≠ .status := by
    have hone {command : NodeCommand} {final : SessionState}
        (hcommand : operation.command? session state.contract = some command)
        (h : Recorded session name command state final) : ∃ issued,
        final.exchanges = state.exchanges ++ issued ∧
          ∀ exchange ∈ issued, exchange.command ≠ .status := by
      refine ⟨_, h.exchanges_eq, List.forall_mem_singleton.mpr ?_⟩
      rintro rfl
      exact Operation.command?_ne_status _ _ _ hcommand
    -- An operation with a step issues one command of its own, or none.
    refine (runsOne_perform hname state).mono (fun _ final hd => ?_) fun _ final hf => ?_
    · obtain ⟨command, hcommand, h⟩ := hd
      exact hone hcommand h
    · rcases hf with hidle | ⟨command, hcommand, h⟩
      · exact ⟨[], by simpa using hidle.1, by simp⟩
      · exact hone hcommand h
  obtain ⟨issued, hexchanges, hcommands⟩ := hissued.final
  rwa [session.issued_deed hexchanges]

/-- The records of a deed can be shown. -/
theorem showsPlain_deed (session : Session) (operation : Operation) (state : SessionState) :
    ∀ step ∈ (session.deed state operation).records session.settings, ShowsPlain step := by
  intro step hstep
  obtain ⟨exchange, hexchange, hrecord⟩ := List.mem_filterMap.mp hstep
  change exchange.record? session.settings operation.step? = some step at hrecord
  cases hname : operation.step? with
  | none =>
    rw [hname] at hrecord
    cases hrecord
  | some name =>
    rw [hname] at hrecord
    exact Exchange.showsPlain_of_record? (Operation.plain_step hname)
      (issued_ne_status hname state exchange hexchange) hrecord

/-- The whole log of a run can be shown. -/
theorem ends_run_showsPlain (session : Session) (script : List TimedReply) (now : Binary64) :
    Ends session.run (.initial script now)
      (fun _ final => ∀ step ∈ final.log, ShowsPlain step)
      fun _ final => ∀ step ∈ final.log, ShowsPlain step := by
  -- The log is made of the records of the deeds.
  have hlog {final : SessionState}
      (h : session.Spans (session.deedsOf (.initial script now) .run) (.initial script now) final) :
      ∀ step ∈ final.log, ShowsPlain step := by
    have hdeeds : ∀ deed ∈ session.deedsOf (.initial script now) .run,
        ∀ step ∈ deed.records session.settings, ShowsPlain step :=
      session.forall_mem_deedsOf (fun operation _ => session.showsPlain_deed operation) _ _
    intro step hstep
    rw [h.log_eq] at hstep
    obtain ⟨deed, hdeed, hrecord⟩ := List.mem_flatMap.mp hstep
    exact hdeeds deed hdeed step hrecord
  exact (session.ends_run_spans (.initial script now)).mono (fun _ _ hd => hlog hd)
    fun _ _ hf => hlog hf

/-! ### The end of a reported run -/

theorem run_fst_eq_ok {α : Type} {x : SessionM α} {state : SessionState} {value : α}
    (h : Ends x state (fun value' _ => value' = value) fun _ _ => False) :
    (x.run state).1 = .ok value := by
  obtain ⟨value', final, hrun, rfl⟩ := h.exists_eq_ok
  rw [hrun]

theorem run_fst_eq_error {α : Type} {x : SessionM α} {state : SessionState} {failure : Failure}
    (h : Ends x state (fun _ _ => False) fun failure' _ => failure' = failure) :
    (x.run state).1 = .error failure := by
  obtain ⟨failure', final, hrun, rfl⟩ := h.exists_eq_error
  rw [hrun]

/-- **How a run that fails closes.**  A failure that is reported comes to its exit code; one that is
not is how the run ends. -/
theorem run_reportedRun {script : List TimedReply} {now : Binary64} {failure : Failure}
    {final : SessionState}
    (h : session.run.run (.initial script now) = (.error failure, final)) :
    (session.reportedRun.run (.initial script now)).1 =
      if failure.isReported then .ok failure.exitCode else .error failure := by
  have hlog := (session.ends_run_showsPlain script now).of_eq_error h
  cases hreported : failure.isReported with
  | true =>
    apply run_fst_eq_ok
    rw [ends_reportedRun_of_error h hreported, ends_bind]
    exact Ends.shown (legible_summary hlog) fun _ => Ends.shown (legible_halt _ _) fun _ => rfl
  | false =>
    apply run_fst_eq_error
    rw [ends_reportedRun_of_not_isReported h hreported]

end Session

end ContractDrill
