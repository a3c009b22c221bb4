import ContractDrill.Answer.Payload
import ContractDrill.Task.Request

/-!
# Answers of the contract

The contract answers with its stored tasks, where whatever counts as absent is the empty list, or
with four values: the block slot with its hashes and the time slot with its hashes.
-/

namespace ContractDrill

open Schema

/-! ### Task lists -/

namespace TaskList

/-- The tasks that a payload lists. -/
def ofJson (payload : Json) : Verdict (List StoredTask) :=
  Schema.list StoredTask.ofJson (if payload.isFalsy then .array [] else payload)

/-- The tasks that the answer with the given text lists. -/
def read (text : String) : Except Payload.Error (List StoredTask) :=
  Payload.readAs ofJson text

/-- The array of some tasks. -/
def toJson (tasks : List StoredTask) : Json :=
  .array (tasks.map (·.toJson .asNull))

end TaskList

/-! ### Slot hashes -/

/-- The earliest slot of either kind, with the hashes of its tasks. -/
structure SlotHashes where
  blockSlot : Int
  blockHashes : List String
  timeSlot : Int
  timeHashes : List String
  deriving DecidableEq

namespace SlotHashes

/-- The value at a position, which has to be there. -/
def part {α : Type} (item : Reader α) (values : List Json) (position : Nat) : Verdict α :=
  Verdict.under (.index position)
    (match values[position]? with
    | some value => item value
    | none => .broken .missing)

/-- The slots that a payload gives.  Of more than four values none is looked at. -/
def ofJson : Reader SlotHashes
  | .array values =>
    if 4 < values.length then .broken .tooLong
    else
      SlotHashes.mk <$> part integer values 0 <*> part (list text) values 1
        <*> part integer values 2 <*> part (list text) values 3
  | _ => .broken .tupleType

/-- The array of the four values. -/
def toJson (slots : SlotHashes) : Json :=
  .array [.integer slots.blockSlot, texts slots.blockHashes,
    .integer slots.timeSlot, texts slots.timeHashes]

/-- The slots that the answer with the given text gives. -/
def read (text : String) : Except Payload.Error SlotHashes :=
  Payload.readAs ofJson text

end SlotHashes

end ContractDrill
