import ContractDrill.Proofs.Session.Ending

/-!
# Waits of a session

A polling wait looks at the schedule again and again.  A look is two quiet commands, of which the
first asks the contract for its slots and the second asks the node for its latest block
(`fetchSchedule_eq`).

`ends_poll` is the rule for the loop: an invariant that counts the looks left has to be kept by a
look that goes on.  The looks that a wait is allowed are enough (`ends_poll_ne_none`), because a
look that comes back with a schedule has used up a reply of the script, and without replies there is
no schedule.
-/

namespace ContractDrill

/-- The schedule of some slots, read against a chain head. -/
def SlotHashes.against (slots : SlotHashes) (head : ChainHead) : SlotSchedule where
  blockSlot := slots.blockSlot
  blockHashes := slots.blockHashes
  timeSlot := slots.timeSlot
  timeHashes := slots.timeHashes
  height := head.height
  headTime := head.time

namespace Session

/-- The command that asks a contract for its earliest slots. -/
def slotsQuery (address : String) : NodeCommand :=
  .query address (Message.querySlotHashes none).text

/-- Settings with a time limit ask for a wait that polls for one due task. -/
theorem wait_ofSettings {settings : Settings} (hpoll : 0 < settings.pollTimeout) (width : Nat) :
    (Session.ofSettings settings width).wait =
      .polling (.dueAtLeast 1) settings.pollTimeout settings.pollInterval :=
  if_pos hpoll

/-! ### A look at the schedule -/

section

variable {session : Session} {state : SessionState} {done : SlotSchedule → SessionState → Prop}
  {failed : Failure → SessionState → Prop}

/-- A look is two commands, each with its output read before anything else is done. -/
theorem fetchSchedule_eq : session.fetchSchedule = contract >>= fun address =>
    (session.quietly (slotsQuery address) >>= fun reply =>
      orFail .slots (Payload.readCaptured SlotHashes.read reply.output)) >>= fun slots =>
    (session.quietly .status >>= fun status =>
      orFail .head (ChainHead.readStatus status.output status.errors)) >>= fun head =>
    pure (slots.against head) := by
  unfold fetchSchedule askQuietly
  simp only [bind_assoc, pure_bind]
  rfl

/-- A look without a contract fails; else it is two commands, each of which can end it. -/
theorem ends_fetchSchedule :
    Ends session.fetchSchedule state done failed ↔ match state.contract with
      | none => failed .unresolved state
      | some address =>
        Ends (session.quietly (slotsQuery address)) state (fun reply between =>
          match Payload.readCaptured SlotHashes.read reply.output with
          | .ok slots =>
            Ends (session.quietly .status) between (fun status final =>
              match ChainHead.readStatus status.output status.errors with
              | .ok head => done (slots.against head) final
              | .error error => failed (.head error) final) failed
          | .error error => failed (.slots error) between) failed := by
  rw [fetchSchedule_eq, ends_bind, ends_contract]
  cases state.contract with
  | none => rfl
  | some address =>
    simp only [ends_bind, ends_pure, ends_orFail]
    refine iff_of_eq (congrArg (Ends _ state · failed) ?_)
    ext reply between
    cases Payload.readCaptured SlotHashes.read reply.output with
    | error error => rfl
    | ok slots =>
      refine iff_of_eq (congrArg (Ends _ between · failed) ?_)
      ext status final
      cases ChainHead.readStatus status.output status.errors <;> rfl

/-- A look that comes back with a schedule has used up a reply of the script. -/
theorem ends_fetchSchedule_script :
    Ends session.fetchSchedule state
      (fun _ final => final.script.length < state.script.length) fun _ _ => True := by
  rw [ends_fetchSchedule]
  cases hc : state.contract with
  | none => trivial
  | some address =>
    dsimp only
    rw [ends_quietly]
    cases hr : state.reply.result ((slotsQuery address).argv session.settings) with
    | error error => trivial
    | ok reply =>
      dsimp only
      cases hs : Payload.readCaptured SlotHashes.read reply.output with
      | error error => trivial
      | ok slots =>
        have hscript : state.script ≠ [] := by
          intro hnil
          -- Behind the end of the script comes a reply without a word, which gives no slots.
          simp only [SessionState.reply, hnil] at hr
          cases hr
          cases hs
        rw [ends_quietly]
        dsimp only
        split
        · split
          · have := List.length_pos_iff.mpr hscript
            simp only [SessionState.issued_script, List.length_tail]
            omega
          · trivial
        · trivial

end

/-! ### The loop -/

section

variable {session : Session} {polling : Polling Binary64 SlotSchedule} {start : Binary64}
  {failed : Failure → SessionState → Prop}

/-- What the loop keeps: `inv looks` holds while `looks` looks are left.  Each look ends in a
report, which may fail for its markup. -/
theorem ends_poll_of_present (inv : Nat → SessionState → Prop)
    {done : Option (Polling.Outcome Binary64 SlotSchedule) → SessionState → Prop}
    (h0 : ∀ state, inv 0 state → done none state)
    (h : ∀ looks state, inv (looks + 1) state →
      Ends session.fetchSchedule state (fun schedule between =>
        Ends (session.present (Report.pollStatus schedule.due.length schedule.slotted
            schedule.height (between.now - start))) between
          (fun _ shown => match polling.next schedule (between.now - start) with
            | .done outcome => done (some outcome) shown
            | .pause duration => inv looks (shown.pausing duration)) failed) failed)
    {looks : Nat} {state : SessionState} (hs : inv looks state) :
    Ends (polling.poll session.surroundings start looks) state done failed := by
  induction looks generalizing state with
  | zero => exact h0 state hs
  | succ looks ih =>
    have hlook := h looks state hs
    simp only [Polling.poll, surroundings, ends_bind, ends_get, ends_pure] at hlook ⊢
    refine hlook.mono (fun schedule between hb => hb.mono (fun _ shown hnext => ?_)
      fun _ _ hf => hf) fun _ _ hf => hf
    cases hn : polling.next schedule (between.now - start) with
    | done outcome =>
      rw [hn] at hnext
      exact hnext
    | pause duration =>
      rw [hn] at hnext
      rw [ends_bind]
      exact ih hnext

/-- What does not hang on what is shown is kept if the looks keep it. -/
theorem ends_poll (inv : Nat → SessionState → Prop)
    {done : Option (Polling.Outcome Binary64 SlotSchedule) → SessionState → Prop}
    (h0 : ∀ state, inv 0 state → done none state)
    (h : ∀ looks state, inv (looks + 1) state →
      Ends session.fetchSchedule state (fun schedule between =>
        (∀ error lines, failed (.markup error) (between.showing lines)) ∧ ∀ lines,
          match polling.next schedule (between.now - start) with
          | .done outcome => done (some outcome) (between.showing lines)
          | .pause duration => inv looks ((between.showing lines).pausing duration)) failed)
    {looks : Nat} {state : SessionState} (hs : inv looks state) :
    Ends (polling.poll session.surroundings start looks) state done failed := by
  refine ends_poll_of_present inv h0 (fun looks state hs => ?_) hs
  refine (h looks state hs).mono (fun schedule between hb => ?_) fun _ _ hf => hf
  obtain ⟨hmarkup, hnext⟩ := hb
  exact Ends.present hnext hmarkup

/-- As many looks as there are replies, and one, are enough for any wait. -/
theorem ends_poll_ne_none {looks : Nat} {state : SessionState}
    (h : state.script.length < looks) :
    Ends (polling.poll session.surroundings start looks) state (fun outcome _ => outcome ≠ none)
      fun _ _ => True := by
  refine ends_poll (fun looks state => state.script.length < looks)
    (fun state hs => absurd hs (Nat.not_lt_zero _)) (fun looks state hs => ?_) h
  refine ends_fetchSchedule_script.mono (fun schedule between hb => ⟨?_, fun lines => ?_⟩)
    fun _ _ _ => trivial
  · intros
    trivial
  · split
    · exact Option.some_ne_none _
    · exact Nat.lt_of_lt_of_le hb (Nat.le_of_lt_succ hs)

end

end Session

end ContractDrill
