import ContractDrill.Proofs.Session.Single

/-!
# Deeds

What a session did is a list of deeds: each operation that was begun, with the exchanges that came
of it.  A run is no deed of its own, it is the operations of its agenda, up to the first one that
fails (`run_eq_agenda`).

The deeds of a session account for all that it said to the node, and its log is what they leave
behind, record by record (`performAll_log`).
-/

namespace ContractDrill

/-- An operation that was begun, and the exchanges that came of it. -/
structure Deed where
  operation : Operation
  issued : List Exchange

/-- The records that a deed leaves. -/
def Deed.records (settings : Settings) (deed : Deed) : List StepRecord :=
  deed.issued.filterMap (Exchange.record? settings deed.operation.step?)

namespace Session

/-! ### The deeds of a session -/

/-- What the operation, begun in `state`, says to the node. -/
def deed (session : Session) (state : SessionState) (operation : Operation) : Deed where
  operation := operation
  issued := ((operation.perform session).run state).2.exchanges.drop state.exchanges.length

/-- The operations of a run. -/
def agenda (session : Session) : List Operation :=
  [.instantiate, .resolveAddress, .registerAgent] ++
    session.settings.stakeAmounts.map .createTask ++
    (List.replicate rounds [.queryTasks, .await, .proxyCall]).flatten

/-- The deeds of operations in a row, of which the first that fails is the last. -/
def deedsInRow (session : Session) : SessionState → List Operation → List Deed
  | _, [] => []
  | state, operation :: rest =>
    session.deed state operation ::
      match (operation.perform session).run state with
      | (.ok _, between) => session.deedsInRow between rest
      | (.error _, _) => []

/-- The deeds of an operation: the operation itself, or what is done of the agenda of a run. -/
def deedsOf (session : Session) (state : SessionState) : Operation → List Deed
  | .run =>
    match (session.present (Report.banner session.settings)).run state with
    | (.ok _, begun) => session.deedsInRow begun session.agenda
    | (.error _, _) => []
  | operation => [session.deed state operation]

/-- The deeds of a session that does some operations, each whether or not the ones before it
failed. -/
def deeds (session : Session) : SessionState → List Operation → List Deed
  | _, [] => []
  | state, operation :: rest =>
    session.deedsOf state operation ++
      session.deeds ((operation.perform session).run state).2 rest

/-! ### Runs -/

/-- Does an operation for what it does. -/
def attempt (session : Session) (operation : Operation) : SessionM Unit := do
  let _ ← operation.perform session

/-- How a run ends once its agenda is done. -/
def close (session : Session) : SessionM String := do
  session.present (Report.summary (← get).log)
  session.present (Report.completed (← contract))
  contract

/-- A run shows its banner, attempts its agenda and closes. -/
theorem run_eq_agenda (session : Session) :
    session.run = session.present (Report.banner session.settings) >>= fun _ =>
      session.agenda.forM session.attempt >>= fun _ => session.close := by
  have hcreations : forM (session.settings.stakeAmounts.map Operation.createTask) session.attempt =
      forM session.settings.stakeAmounts session.createTask := by
    induction session.settings.stakeAmounts with
    | nil => rfl
    | cons amount amounts ih =>
      rw [List.map_cons, List.forM_cons, List.forM_cons, ih]
      simp only [attempt, Operation.perform, bind_assoc, pure_bind]
  -- A round is three operations of the agenda.
  have hrounds : forM (List.replicate rounds [Operation.queryTasks, .await, .proxyCall]).flatten
      session.attempt = forM (List.replicate rounds ()) fun _ => session.round := by
    simp only [rounds, round, List.replicate, List.flatten_cons, List.flatten_nil, List.append_nil,
      List.forM_append, List.forM_cons, List.forM_nil, attempt, Operation.perform, bind_assoc,
      pure_bind]
  unfold agenda run close
  simp only [List.forM_eq_forM, List.forM_append, hcreations, hrounds]
  simp only [List.forM_cons, List.forM_nil, attempt, Operation.perform, bind_assoc, pure_bind]

/-! ### What deeds account for -/

/-- The deeds lead from `state` to `final`: all that was said on the way was said in them, and all
that was recorded are the records that they leave. -/
structure Spans (session : Session) (deeds : List Deed) (state final : SessionState) : Prop where
  exchanges_eq : final.exchanges = state.exchanges ++ deeds.flatMap Deed.issued
  log_eq : final.log = state.log ++ deeds.flatMap (Deed.records session.settings)

section

variable {session : Session} {state between final : SessionState}

theorem spans_nil (h : Unspoken state final) : session.Spans [] state final where
  exchanges_eq := by simpa using h.1
  log_eq := by simpa using h.2

theorem Spans.append {deeds deeds' : List Deed} (h : session.Spans deeds state between)
    (h' : session.Spans deeds' between final) : session.Spans (deeds ++ deeds') state final where
  exchanges_eq := by
    rw [h'.exchanges_eq, h.exchanges_eq, List.flatMap_append, List.append_assoc]
  log_eq := by
    rw [h'.log_eq, h.log_eq, List.flatMap_append, List.append_assoc]

/-- What neither speaks to the node nor logs needs no deed. -/
theorem Spans.append_unspoken {deeds : List Deed} (h : session.Spans deeds state between)
    (h' : Unspoken between final) : session.Spans deeds state final := by
  have happend := h.append (spans_nil h')
  rwa [List.append_nil] at happend

end

section

variable (session : Session)

/-- The log of an operation other than the run is made of the exchanges that came of it. -/
theorem exists_issued_of_perform {operation : Operation} (hrun : operation ≠ .run) :
    Keeps (fun state final => ∃ issued, final.exchanges = state.exchanges ++ issued ∧
      final.log = state.log ++
        issued.filterMap (Exchange.record? session.settings operation.step?))
      (operation.perform session) := by
  intro state
  -- An operation without a step leaves no record, whatever it asks.
  cases hstep : operation.step? with
  | none =>
    have hasks {final : SessionState} (h : Asks state final) : ∃ issued,
        final.exchanges = state.exchanges ++ issued ∧
          final.log = state.log ++ issued.filterMap (Exchange.record? session.settings none) := by
      obtain ⟨hlog, issued, hissued, -⟩ := h
      have hnone : issued.filterMap (Exchange.record? session.settings none) = [] :=
        List.filterMap_eq_nil_iff.mpr fun _ _ => rfl
      exact ⟨issued, hissued, by rw [hnone, hlog, List.append_nil]⟩
    exact (asks_perform hstep hrun state).mono (fun _ _ => hasks) fun _ _ => hasks
  | some name =>
    have hrecorded {command : NodeCommand} {final : SessionState}
        (h : Recorded session name command state final) : ∃ issued,
        final.exchanges = state.exchanges ++ issued ∧ final.log = state.log ++
          issued.filterMap (Exchange.record? session.settings (some name)) := by
      refine ⟨_, h.exchanges_eq, ?_⟩
      rw [h.log_eq, List.filterMap_cons, List.filterMap_nil]
      cases Exchange.record? session.settings (some name) ⟨some name, command, state.reply⟩ <;> rfl
    refine (runsOne_perform hstep state).mono (fun _ final hd => ?_) fun _ final hf => ?_
    · obtain ⟨command, -, h⟩ := hd
      exact hrecorded h
    · rcases hf with hidle | ⟨command, -, h⟩
      · exact ⟨[], by simpa using hidle.1, by simpa using hidle.2⟩
      · exact hrecorded h

/-- The exchanges of a deed are those that its operation adds. -/
theorem issued_deed {operation : Operation} {state : SessionState} {issued : List Exchange}
    (h : ((operation.perform session).run state).2.exchanges = state.exchanges ++ issued) :
    (session.deed state operation).issued = issued := by
  rw [deed, h, List.drop_left]

/-- An operation other than a run is accounted for by its deed. -/
theorem spans_perform {operation : Operation} (hrun : operation ≠ .run) (state : SessionState) :
    session.Spans [session.deed state operation] state
      ((operation.perform session).run state).2 := by
  obtain ⟨issued, hexchanges, hlog⟩ := (exists_issued_of_perform session hrun state).final
  have hissued := session.issued_deed hexchanges
  constructor
  · rw [hexchanges, List.flatMap_singleton, hissued]
  · rw [hlog, List.flatMap_singleton, Deed.records, hissued]
    rfl

/-- Operations in a row are spanned by their deeds, whether they fail or not. -/
theorem ends_inRow {operations : List Operation} (hrun : ∀ operation ∈ operations, operation ≠ .run)
    (state : SessionState) :
    Ends (operations.forM session.attempt) state
      (fun _ final => session.Spans (session.deedsInRow state operations) state final)
      fun _ final => session.Spans (session.deedsInRow state operations) state final := by
  induction operations generalizing state with
  | nil => exact spans_nil ⟨rfl, rfl⟩
  | cons operation rest ih =>
    obtain ⟨hoperation, hrest⟩ := List.forall_mem_cons.mp hrun
    have hfirst := spans_perform session hoperation state
    change Ends (session.attempt operation >>= fun _ => rest.forM session.attempt) state _ _
    rw [ends_bind, attempt, ends_bind]
    cases hx : (operation.perform session).run state with
    | mk result between =>
      rw [hx] at hfirst
      rw [deedsInRow, hx]
      -- A failure ends the row, so the deeds end with that of the operation that failed.
      cases result with
      | error failure =>
        rw [ends_iff_of_run_eq_error hx]
        exact hfirst
      | ok value =>
        rw [ends_iff_of_run_eq_ok hx]
        exact (ih hrest between).mono (fun _ _ hd => hfirst.append hd) fun _ _ hd =>
          hfirst.append hd

theorem ne_run_of_mem_agenda {operation : Operation} (h : operation ∈ session.agenda) :
    operation ≠ .run := by
  rintro rfl
  simp [agenda, rounds] at h

theorem keeps_unspoken_close : Keeps Unspoken session.close := by
  intro state
  unfold close
  simp only [ends_bind, ends_get]
  refine Ends.present (fun lines => ?_) fun _ _ => ⟨rfl, rfl⟩
  rw [ends_contract]
  split
  · refine Ends.present (fun more => ?_) fun _ _ => ⟨rfl, rfl⟩
    rw [ends_contract]
    split
    · exact ⟨rfl, rfl⟩
    · exact ⟨rfl, rfl⟩
  · exact ⟨rfl, rfl⟩

/-- A run is spanned by what is done of its agenda. -/
theorem ends_run_spans (state : SessionState) :
    Ends session.run state (fun _ final => session.Spans (session.deedsOf state .run) state final)
      fun _ final => session.Spans (session.deedsOf state .run) state final := by
  have hbanner : Unspoken state
      ((session.present (Report.banner session.settings)).run state).2 :=
    (keeps_unspoken_present _ state).final
  rw [run_eq_agenda, ends_bind]
  cases hx : (session.present (Report.banner session.settings)).run state with
  | mk result begun =>
    rw [hx] at hbanner
    rw [deedsOf, hx]
    -- A run whose banner cannot be shown has no deed.
    cases result with
    | error failure =>
      rw [ends_iff_of_run_eq_error hx]
      exact spans_nil hbanner
    | ok value =>
      rw [ends_iff_of_run_eq_ok hx, ends_bind]
      have hrow := ends_inRow session (fun _ => ne_run_of_mem_agenda session) begun
      refine hrow.mono (fun _ done hd => ?_) fun _ _ hd => (spans_nil hbanner).append hd
      have hdone := (spans_nil hbanner).append hd
      exact (keeps_unspoken_close session done).mono (fun _ _ hc => hdone.append_unspoken hc)
        fun _ _ hc => hdone.append_unspoken hc

/-- An operation is accounted for by its deeds, be it a run or not. -/
theorem spans_deedsOf (operation : Operation) (state : SessionState) :
    session.Spans (session.deedsOf state operation) state
      ((operation.perform session).run state).2 := by
  by_cases hrun : operation = .run
  · subst hrun
    have hends : Ends (Operation.run.perform session) state
        (fun _ final => session.Spans (session.deedsOf state .run) state final)
        fun _ final => session.Spans (session.deedsOf state .run) state final := by
      rw [Operation.perform, ends_bind]
      exact ends_run_spans session state
    exact hends.final
  · have hsingle : session.deedsOf state operation = [session.deed state operation] := by
      cases operation with
      | run => exact absurd rfl hrun
      | _ => rfl
    rw [hsingle]
    exact spans_perform session hrun state

/-- Whatever a session does is spanned by its deeds. -/
theorem spans_performAll (operations : List Operation) (state : SessionState) :
    session.Spans (session.deeds state operations) state
      (session.performAll state operations) := by
  induction operations generalizing state with
  | nil => exact spans_nil ⟨rfl, rfl⟩
  | cons operation rest ih => exact (spans_deedsOf session operation state).append (ih _)

/-! ### What deeds have in common -/

variable {p : Deed → Prop}

theorem forall_mem_deedsInRow
    (h : ∀ operation, operation ≠ .run → ∀ state, p (session.deed state operation))
    {operations : List Operation} (hrun : ∀ operation ∈ operations, operation ≠ .run)
    (state : SessionState) : ∀ deed ∈ session.deedsInRow state operations, p deed := by
  induction operations generalizing state with
  | nil => exact fun _ hmem => absurd hmem List.not_mem_nil
  | cons operation rest ih =>
    obtain ⟨hoperation, hrest⟩ := List.forall_mem_cons.mp hrun
    rw [deedsInRow]
    refine List.forall_mem_cons.mpr ⟨h operation hoperation state, ?_⟩
    split
    · exact ih hrest _
    · exact fun _ hmem => absurd hmem List.not_mem_nil

/-- What all deeds share holds of those of a run as well. -/
theorem forall_mem_deedsOf
    (h : ∀ operation, operation ≠ .run → ∀ state, p (session.deed state operation))
    (operation : Operation) (state : SessionState) :
    ∀ deed ∈ session.deedsOf state operation, p deed := by
  unfold deedsOf
  split
  · split
    · exact session.forall_mem_deedsInRow h (fun _ => ne_run_of_mem_agenda session) _
    · exact fun _ hmem => absurd hmem List.not_mem_nil
  · rename_i hrun
    intro deed hmem
    obtain rfl := List.mem_singleton.mp hmem
    exact h operation hrun state

/-- What is true of every operation but the run, wherever it begins, is true of all deeds. -/
theorem forall_mem_deeds
    (h : ∀ operation, operation ≠ .run → ∀ state, p (session.deed state operation))
    (operations : List Operation) (state : SessionState) :
    ∀ deed ∈ session.deeds state operations, p deed := by
  induction operations generalizing state with
  | nil => exact fun _ hmem => absurd hmem List.not_mem_nil
  | cons operation rest ih =>
    exact List.forall_mem_append.mpr ⟨session.forall_mem_deedsOf h operation state, ih _⟩

end

/-- **The log of a session.**  Whatever operations a session does, and whatever the node replies to
them, the exchanges are those of its deeds, one behind the other, and the log has the records that
the deeds leave, in the same order; and whatever is done next, no record is lost or changed. -/
theorem performAll_log (session : Session) (script : List TimedReply) (now : Binary64)
    (operations more : List Operation) :
    (session.performAll (.initial script now) operations).exchanges =
        (session.deeds (.initial script now) operations).flatMap Deed.issued ∧
      (session.performAll (.initial script now) operations).log =
        (session.deeds (.initial script now) operations).flatMap
          (Deed.records session.settings) ∧
      (session.performAll (.initial script now) operations).log <+:
        (session.performAll (.initial script now) (operations ++ more)).log := by
  have hspans := spans_performAll session operations (.initial script now)
  refine ⟨hspans.exchanges_eq, hspans.log_eq, ?_⟩
  have hmore := spans_performAll session more
    (session.performAll (.initial script now) operations)
  have happend : session.performAll (.initial script now) (operations ++ more) =
      session.performAll (session.performAll (.initial script now) operations) more :=
    List.foldl_append
  rw [happend, hmore.log_eq]
  exact List.prefix_append _ _

end Session

end ContractDrill
