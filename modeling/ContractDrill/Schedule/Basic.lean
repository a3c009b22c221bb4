import ContractDrill.Schema.Record

/-!
# Slot schedules

The contract keeps the tasks that wait for a block in one queue and those that wait for a time in
another, each ordered by slot.  A `SlotSchedule` is the earliest slot of either queue beside the
chain head it was read against.  A slot is due once the head has reached it; slot 0 means that the
queue is empty.

A `Condition` on a schedule is what a polling wait waits for.
-/

namespace ContractDrill

open Schema

/-- The earliest slots with the hashes of their tasks, and the chain head. -/
structure SlotSchedule where
  blockSlot : Int
  blockHashes : List String
  /-- In nanoseconds from 1970. -/
  timeSlot : Int
  timeHashes : List String
  height : Int
  /-- The time of the head block, in nanoseconds from 1970. -/
  headTime : Int
  deriving DecidableEq

namespace SlotSchedule

/-- The schedule without any task, at the start of the chain. -/
def empty : SlotSchedule := ⟨0, [], 0, [], 0, 0⟩

/-- The schedule that a value describes. -/
def ofJson : Reader SlotSchedule :=
  record fun members =>
    SlotSchedule.mk <$> optional "block_slot" 0 integer members
      <*> optional "block_hashes" [] (list text) members
      <*> optional "time_slot" 0 integer members
      <*> optional "time_hashes" [] (list text) members
      <*> optional "height" 0 integer members
      <*> optional "block_time_ns" 0 integer members

/-- The object that describes a schedule. -/
def toJson (schedule : SlotSchedule) : Json :=
  .object [("block_slot", .integer schedule.blockSlot),
    ("block_hashes", texts schedule.blockHashes),
    ("time_slot", .integer schedule.timeSlot),
    ("time_hashes", texts schedule.timeHashes),
    ("height", .integer schedule.height),
    ("block_time_ns", .integer schedule.headTime)]

/-! ### What is due -/

/-- The hashes of a slot that `head` has reached. -/
def reached (slot head : Int) (hashes : List String) : List String :=
  if 0 < slot ∧ slot ≤ head then hashes else []

/-- The hashes of the tasks that can be run now. -/
def due (schedule : SlotSchedule) : List String :=
  reached schedule.blockSlot schedule.height schedule.blockHashes ++
    reached schedule.timeSlot schedule.headTime schedule.timeHashes

/-- How many tasks the two slots hold. -/
def slotted (schedule : SlotSchedule) : Nat :=
  schedule.blockHashes.length + schedule.timeHashes.length

theorem mem_reached_iff {slot head : Int} {hashes : List String} {hash : String} :
    hash ∈ reached slot head hashes ↔ (0 < slot ∧ slot ≤ head) ∧ hash ∈ hashes := by
  unfold reached
  split <;> simp [*]

theorem length_reached (slot head : Int) (hashes : List String) :
    (reached slot head hashes).length = if 0 < slot ∧ slot ≤ head then hashes.length else 0 := by
  unfold reached
  split <;> rfl

theorem length_due (schedule : SlotSchedule) :
    schedule.due.length =
      (if 0 < schedule.blockSlot ∧ schedule.blockSlot ≤ schedule.height
        then schedule.blockHashes.length else 0) +
      if 0 < schedule.timeSlot ∧ schedule.timeSlot ≤ schedule.headTime
        then schedule.timeHashes.length else 0 := by
  unfold due
  rw [List.length_append, length_reached, length_reached]

/-- At most the tasks of the two slots are due. -/
theorem length_due_le (schedule : SlotSchedule) : schedule.due.length ≤ schedule.slotted := by
  unfold due reached slotted
  split <;> split <;> simp

end SlotSchedule

/-! ### Conditions -/

/-- A test of schedules, and the name by which messages call it. -/
structure Condition where
  name : String
  holds : SlotSchedule → Bool

/-- The condition that at least `count` tasks are due. -/
def Condition.dueAtLeast (count : Int) : Condition where
  name := s!"due_at_least({count})"
  holds schedule := decide (count ≤ schedule.due.length)

end ContractDrill
