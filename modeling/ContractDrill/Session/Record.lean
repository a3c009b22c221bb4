import ContractDrill.Schema.Record

/-!
# Step records

The log of a session has one record for each logged command that came to an end.
-/

namespace ContractDrill

open Schema

/-- What a step ran and what came back. -/
structure StepRecord where
  name : String
  argv : List String
  exitCode : Int
  output : String
  deriving DecidableEq

/-- The record that a value describes. -/
def StepRecord.ofJson : Reader StepRecord :=
  record fun members =>
    StepRecord.mk <$> required "name" text members
      <*> required "argv" (list text) members
      <*> optional "returncode" 0 integer members
      <*> optional "stdout" "" text members

/-- The object that describes a record. -/
def StepRecord.toJson (step : StepRecord) : Json :=
  .object [("name", .string step.name),
    ("argv", texts step.argv),
    ("returncode", .integer step.exitCode),
    ("stdout", .string step.output)]

end ContractDrill
