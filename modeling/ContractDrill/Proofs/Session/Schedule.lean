import ContractDrill.Proofs.Answer.Printed
import ContractDrill.Proofs.Session.Progress

/-!
# A look at the schedule

A look gives back the schedule that the contract and the node print, whatever its slots, its hashes
and its head (`fetchSchedule_of_prints`): no digit of a slot and no nanosecond of the head is lost
on the way, so that what is due is decided on the exact numbers.
-/

namespace ContractDrill

namespace SlotSchedule

/-- The slots of a schedule, as the contract answers with them. -/
def slots (schedule : SlotSchedule) : SlotHashes :=
  ⟨schedule.blockSlot, schedule.blockHashes, schedule.timeSlot, schedule.timeHashes⟩

/-- The chain head of a schedule. -/
def head (schedule : SlotSchedule) : ChainHead :=
  ⟨schedule.height, schedule.headTime⟩

/-- A node can print the schedule: its integers are not too long, and its head has a date. -/
structure IsPrintable (schedule : SlotSchedule) : Prop where
  blockSlot : FitsSigned schedule.blockSlot
  timeSlot : FitsSigned schedule.timeSlot
  height : FitsNumeral schedule.height
  headTime : Timestamp.InCalendar schedule.headTime

end SlotSchedule

theorem Condition.dueAtLeast_holds_iff (count : Int) (schedule : SlotSchedule) :
    (dueAtLeast count).holds schedule = true ↔ count ≤ schedule.due.length :=
  decide_eq_true_iff

namespace Session

/-- A look whose commands both end well, and print a schedule, comes back with that schedule; and
what is due by it are the hashes of the slots that are set and that the head has reached. -/
theorem fetchSchedule_of_prints (session : Session) {state : SessionState} {address : String}
    (hcontract : state.contract = some address) {schedule : SlotSchedule}
    (hprintable : schedule.IsPrintable) {answer status : Json}
    (hanswer : schedule.slots.IsAnswer answer) (hstatus : schedule.head.IsStatus status)
    {answerText statusText : String} (hanswerText : answer.IsTextOf answerText)
    (hstatusText : status.IsTextOf statusText) {errors statusOutput statusErrors : Option String}
    (hprints : ChainHead.Prints statusText statusOutput statusErrors) {t t' : Binary64}
    {rest : List TimedReply}
    (hscript : state.script = ⟨t, .finished 0 (some answerText) errors⟩ ::
      ⟨t', .finished 0 statusOutput statusErrors⟩ :: rest) :
    (session.fetchSchedule.run state).1 = .ok schedule ∧
      ∀ count : Int, (Condition.dueAtLeast count).holds schedule = true ↔
        count ≤ (if 0 < schedule.blockSlot ∧ schedule.blockSlot ≤ schedule.height
            then schedule.blockHashes.length else 0) +
          (if 0 < schedule.timeSlot ∧ schedule.timeSlot ≤ schedule.headTime
            then schedule.timeHashes.length else 0) := by
  have hslots : Payload.readCaptured SlotHashes.read (some answerText) = .ok schedule.slots :=
    SlotHashes.read_of_isAnswer hanswer hprintable.blockSlot hprintable.timeSlot hanswerText
  have hhead : ChainHead.readStatus statusOutput statusErrors = .ok schedule.head :=
    ChainHead.readStatus_of_isStatus hstatus hprintable.height hprintable.headTime hstatusText
      hprints
  -- What is read does not depend on how the schedule was printed, and what is due only on what was
  -- read.
  constructor
  · have hlook : Ends session.fetchSchedule state (fun found _ => found = schedule)
        fun _ _ => False :=
      Ends.fetchSchedule_of_finished ⟨hscript, hcontract, rfl⟩ hslots hhead fun _ _ => rfl
    obtain ⟨found, final, heq, rfl⟩ := hlook.exists_eq_ok
    rw [heq]
  · intro count
    rw [Condition.dueAtLeast_holds_iff, SlotSchedule.length_due]
    norm_cast

/-! ### A slot that has just come -/

/-- A schedule whose time slot is the very nanosecond of its head. -/
def punctual : SlotSchedule :=
  ⟨-7, ["a"], 1651399200123456789, ["\"b\"", "é😀"], 12, 1651399200123456789⟩

/-- An answer with its slots, wrapped, and with one of them as a text. -/
def punctualAnswer : Json :=
  .object [("data", .array [.string "-7", Schema.texts punctual.blockHashes,
    .integer punctual.timeSlot, Schema.texts punctual.timeHashes])]

/-- A status with its head. -/
def punctualStatus : Json :=
  .object [("SyncInfo", .object [("latest_block_height", .string "12"),
    ("latest_block_time", .string (Timestamp.write punctual.headTime))])]

/-- A session that has found its contract, on a node that prints the answer to its output and the
status to its errors. -/
def punctualState : SessionState :=
  { SessionState.initial [printing punctualAnswer.encode,
      ⟨0, .finished 0 (some "\n") (some punctualStatus.encodeSpaced)⟩] 0 with
    contract := some "juno1" }

/-- The slot counts as reached in its own nanosecond, and the other, below zero, does not. -/
theorem fetchSchedule_punctual :
    punctual.IsPrintable ∧ punctual.slots.IsAnswer punctualAnswer ∧
      punctual.head.IsStatus punctualStatus ∧
      (sample.fetchSchedule.run punctualState).1 = .ok punctual ∧
      (Condition.dueAtLeast 2).holds punctual = true ∧
      ¬ (Condition.dueAtLeast 3).holds punctual = true := by
  have hprintable : punctual.IsPrintable := ⟨by decide, by decide, by decide, by decide, by decide⟩
  have hanswer : punctual.slots.IsAnswer punctualAnswer :=
    ⟨.string "-7", .integer punctual.timeSlot, .inr rfl, .inl rfl, .inr rfl⟩
  have hstatus : punctual.head.IsStatus punctualStatus := ⟨.string "12", .inr rfl, rfl⟩
  have hcontract : punctualState.contract = some "juno1" := rfl
  obtain ⟨hfound, hdue⟩ := fetchSchedule_of_prints sample hcontract hprintable hanswer hstatus
    (Json.isTextOf_encode _) (Json.isTextOf_encodeSpaced _) (.inr ⟨rfl, "\n", rfl, by decide⟩) rfl
  refine ⟨hprintable, hanswer, hstatus, hfound, (hdue 2).mpr (by decide), ?_⟩
  rw [hdue 3]
  decide

end Session

end ContractDrill
