import ContractDrill.Proofs.Session.Invariant
import ContractDrill.Proofs.Session.Progress

/-!
# Calls of the agent

A session that polls lets its agent run tasks only when some are due: right in front of each call
stand the two commands of a look that found a slot which the chain had reached
(`run_callsWhenDue`).

The invariant is the property itself.  A command that is no call of the agent keeps it, and a call
keeps it behind a look that ended the wait, since nothing is said to the node in between.
-/

namespace ContractDrill

namespace Session

/-- The exchanges end in a look at the schedule that found something due: the contract told its
slots, the node told its latest block, and a slot with hashes had been reached by it. -/
def EndsDue (exchanges : List Exchange) : Prop :=
  ∃ front address output errors statusOutput statusErrors,
    exchanges = front ++
      [⟨none, slotsQuery address, .finished 0 output errors⟩,
        ⟨none, .status, .finished 0 statusOutput statusErrors⟩] ∧
    ∃ slots head, Payload.readCaptured SlotHashes.read output = .ok slots ∧
      ChainHead.readStatus statusOutput statusErrors = .ok head ∧
      ((slots.blockHashes ≠ [] ∧ 0 < slots.blockSlot ∧ slots.blockSlot ≤ head.height) ∨
        (slots.timeHashes ≠ [] ∧ 0 < slots.timeSlot ∧ slots.timeSlot ≤ head.time))

/-- Each call of an agent comes right behind a look that found something due. -/
def CallsWhenDue (exchanges : List Exchange) : Prop :=
  ∀ earlier call later, exchanges = earlier ++ call :: later → call.command.IsAgentCall →
    EndsDue earlier

theorem callsWhenDue_nil : CallsWhenDue [] := by
  intro earlier call later h
  simp at h

/-- One more exchange needs a look in front of it only if it is a call of an agent. -/
theorem CallsWhenDue.concat {exchanges : List Exchange} {exchange : Exchange}
    (h : CallsWhenDue exchanges) (hx : exchange.command.IsAgentCall → EndsDue exchanges) :
    CallsWhenDue (exchanges ++ [exchange]) := by
  intro earlier call later heq hcall
  -- The call is the exchange that came last, or stands among those in front of it.
  rcases List.eq_nil_or_concat later with rfl | ⟨later', last, rfl⟩
  · obtain ⟨rfl, hlast⟩ := List.append_inj' heq rfl
    obtain rfl := List.singleton_inj.mp hlast
    exact hx hcall
  · have heq' : exchanges ++ [exchange] = (earlier ++ call :: later') ++ [last] := by
      simpa using heq
    obtain ⟨hfront, -⟩ := List.append_inj' heq' rfl
    exact h earlier call later' hfront hcall

/-! ### A look that ends the wait -/

/-- If a task is due, a slot with hashes has been reached. -/
theorem exists_reached_of_holds {schedule : SlotSchedule}
    (h : (Condition.dueAtLeast 1).holds schedule = true) :
    (schedule.blockHashes ≠ [] ∧ 0 < schedule.blockSlot ∧ schedule.blockSlot ≤ schedule.height) ∨
      (schedule.timeHashes ≠ [] ∧ 0 < schedule.timeSlot ∧
        schedule.timeSlot ≤ schedule.headTime) := by
  have hlength : 0 < schedule.due.length := by
    have hone := of_decide_eq_true h
    omega
  obtain ⟨hash, hmem⟩ := List.exists_mem_of_length_pos hlength
  rcases List.mem_append.mp hmem with hblock | htime
  · rw [SlotSchedule.mem_reached_iff] at hblock
    exact .inl ⟨List.ne_nil_of_mem hblock.2, hblock.1⟩
  · rw [SlotSchedule.mem_reached_iff] at htime
    exact .inr ⟨List.ne_nil_of_mem htime.2, htime.1⟩

/-- A look is no call of an agent, and what it finds due is due. -/
theorem ends_fetchSchedule_due {session : Session} {state : SessionState}
    (hs : CallsWhenDue state.exchanges) :
    Ends session.fetchSchedule state
      (fun schedule final => CallsWhenDue final.exchanges ∧
        ((Condition.dueAtLeast 1).holds schedule = true → EndsDue final.exchanges))
      fun _ final => CallsWhenDue final.exchanges := by
  rw [ends_fetchSchedule]
  split
  · exact hs
  · rename_i address hc
    -- Neither of the two questions is a call, so both keep the property, whatever they are told.
    refine (runs_quietly state).mono (fun reply between hb => ?_) fun _ between hf => ?_
    · obtain ⟨-, hasked, hreply⟩ := hb
      have hbetween : CallsWhenDue between.exchanges := hasked ▸ hs.concat False.elim
      cases hslots : Payload.readCaptured SlotHashes.read reply.output with
      | error error => exact hbetween
      | ok slots =>
        refine (runs_quietly between).mono (fun status final hd => ?_) fun _ final hf => ?_
        · obtain ⟨-, hlooked, hstatus⟩ := hd
          have hfinal : CallsWhenDue final.exchanges := hlooked ▸ hbetween.concat False.elim
          cases hhead : ChainHead.readStatus status.output status.errors with
          | error error => exact hfinal
          | ok head =>
            refine ⟨hfinal, fun hholds => ?_⟩
            refine ⟨state.exchanges, address, reply.output, reply.errors, status.output,
              status.errors, ?_, slots, head, hslots, hhead, exists_reached_of_holds hholds⟩
            rw [hlooked, hasked, hreply, hstatus, List.append_assoc]
            rfl
        · exact hf.1 ▸ hbetween.concat False.elim
    · exact hf.1 ▸ hs.concat False.elim

/-! ### The run -/

/-- A session that polls for one due task keeps the invariant. -/
theorem runInvariant_callsWhenDue {settings : Settings} (width : Nat)
    (hpoll : 0 < settings.pollTimeout) :
    (Session.ofSettings settings width).RunInvariant (fun exchanges _ => CallsWhenDue exchanges)
      (fun exchanges _ => CallsWhenDue exchanges ∧ EndsDue exchanges)
      fun _ exchanges _ => CallsWhenDue exchanges where
  fails _ _ _ _ hi := hi
  logged name command _ hcall state hs := by
    refine (runs_logged state).mono (fun _ final hd => ?_) fun _ final hf => ?_
    · exact hd.2.1 ▸ hs.concat fun h => absurd h hcall
    · exact hf.1 ▸ hs.concat fun h => absurd h hcall
  look condition timeout interval hw state hs := by
    rw [wait_ofSettings hpoll] at hw
    obtain ⟨rfl, -⟩ := Wait.polling.inj hw
    refine (ends_fetchSchedule_due hs).mono (fun _ final hd => ?_) fun _ _ hf => hf
    exact ⟨hd.1, fun hholds => ⟨hd.1, hd.2 hholds⟩, fun _ => hd.1⟩
  delay seconds hw := by
    rw [wait_ofSettings hpoll] at hw
    cases hw
  weaken _ _ hr := hr.1
  agentCall name command _ state hs := by
    -- The look that ended the wait is still the latest that was said to the node.
    refine (runs_logged state).mono (fun _ final hd => ?_) fun _ final hf => ?_
    · exact hd.2.1 ▸ hs.1.concat fun _ => hs.2
    · exact hf.1 ▸ hs.1.concat fun _ => hs.2

/-- **No call before work is due.**  A session that polls lets its agent run tasks only right behind
a look that found something due. -/
theorem run_callsWhenDue {settings : Settings} (hpoll : 0 < settings.pollTimeout) (width : Nat)
    (script : List TimedReply) (now : Binary64) :
    CallsWhenDue
      ((Session.ofSettings settings width).run.run (.initial script now)).2.exchanges := by
  have hrun := (runInvariant_callsWhenDue width hpoll).run (.initial script now) callsWhenDue_nil
  exact hrun.final

/-- A status that tells of block 1. -/
def sampleStatus : String :=
  "\x7b\"SyncInfo\":\x7b\"latest_block_height\":\"1\"," ++
    "\"latest_block_time\":\"1970-01-01T00:00:00Z\"\x7d\x7d"

/-- The replies to a look that finds a task of block 1 due, and to a call that fails. -/
def dueReplies : List TimedReply :=
  [printing "[1,[\"a\"],0,[]]", printing sampleStatus, ⟨0, .finished 9 (some "") (some "")⟩]

/-- With these replies the agent is called. -/
theorem ends_run_dueReplies :
    Ends sample.run (.initial (sampleOpening ++ dueReplies) 0) (fun _ _ => False)
      fun _ final => ∃ call ∈ final.exchanges, call.command.IsAgentCall := by
  have hpoll : 0 < sampleSettings.pollTimeout := by decide +kernel
  have hwait := wait_ofSettings hpoll 80
  have hslots : Payload.readCaptured SlotHashes.read (some "[1,[\"a\"],0,[]]") =
      .ok ⟨1, ["a"], 0, []⟩ := by decide +kernel
  have hhead : (ChainHead.readStatus (some sampleStatus) (some "")).toOption = some ⟨1, 0⟩ := by
    decide +kernel
  refine ends_run_sample fun state hat => ?_
  rw [ends_bind]
  refine Ends.await_of_holds hwait (by decide +kernel) hat hslots (eq_ok_of_toOption hhead)
    (by decide +kernel) (Report.legible_pollStatus (by decide +kernel)) fun between hbetween => ?_
  unfold proxyCall
  dsimp only
  rw [ends_bind]
  refine Ends.present_of_legible (Report.legible_stepStart (by decide +kernel) (by decide +kernel))
    hbetween fun called hcalled => ?_
  unfold execute
  rw [ends_bind, ends_contract, hcalled.contract_eq]
  dsimp only
  rw [ends_bind, ends_logged, hcalled.reply_eq]
  exact ⟨_, List.mem_append_right _ (List.mem_singleton_self _), rfl⟩

/-- The agent is called, and right behind a look that found the task. -/
theorem exists_call_of_dueReplies :
    ∃ earlier call later,
      (sample.run.run (.initial (sampleOpening ++ dueReplies) 0)).2.exchanges =
        earlier ++ call :: later ∧ call.command.IsAgentCall ∧ EndsDue earlier := by
  have hpoll : 0 < sampleSettings.pollTimeout := by decide +kernel
  obtain ⟨failure, final, hrun, call, hmem, hcall⟩ := ends_run_dueReplies.exists_eq_error
  obtain ⟨earlier, later, hsplit⟩ := List.append_of_mem hmem
  have hexchanges : (sample.run.run (.initial (sampleOpening ++ dueReplies) 0)).2.exchanges =
      earlier ++ call :: later := by
    rw [hrun]
    exact hsplit
  exact ⟨earlier, call, later, hexchanges, hcall,
    run_callsWhenDue hpoll 80 (sampleOpening ++ dueReplies) 0 earlier call later hexchanges hcall⟩

end Session

end ContractDrill
