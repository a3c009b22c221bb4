/-!
# Verdicts

Checking a value against a schema either yields what the value means or says all that is wrong
with it: an `Issue` names a rule and the path to the place where the value breaks it.  Verdicts of
several parts are joined by `<*>`, which keeps the issues of both sides, in their order; so the
issues of a record are listed field by field.  The rules, their names and the paths are those of
pydantic 2.14; the sentence that it writes for an issue is left out.
-/

namespace ContractDrill

/-- One step from a value to a part of it. -/
inductive Step where
  | key (name : String)
  | index (position : Nat)
  deriving DecidableEq

/-- A rule that a value can break. -/
inductive Rule where
  | missing
  | modelType
  | stringType
  | dictType
  | listType
  | tupleType
  | tooShort
  | tooLong
  | intType
  | intParsing
  | intParsingSize
  | intFromFloat
  | finiteNumber
  | floatType
  | floatParsing
  | greaterThanEqual
  | greaterThan
  | boolType
  | boolParsing
  | jsonInvalid
  | jsonType
  deriving DecidableEq

/-- The word for a rule in a report. -/
def Rule.word : Rule → String
  | missing => "missing"
  | modelType => "model_type"
  | stringType => "string_type"
  | dictType => "dict_type"
  | listType => "list_type"
  | tupleType => "tuple_type"
  | tooShort => "too_short"
  | tooLong => "too_long"
  | intType => "int_type"
  | intParsing => "int_parsing"
  | intParsingSize => "int_parsing_size"
  | intFromFloat => "int_from_float"
  | finiteNumber => "finite_number"
  | floatType => "float_type"
  | floatParsing => "float_parsing"
  | greaterThanEqual => "greater_than_equal"
  | greaterThan => "greater_than"
  | boolType => "bool_type"
  | boolParsing => "bool_parsing"
  | jsonInvalid => "json_invalid"
  | jsonType => "json_type"

/-- A rule that is broken at a place. -/
structure Issue where
  rule : Rule
  path : List Step
  deriving DecidableEq

/-- The text of a step. -/
def Step.text : Step → String
  | key name => name
  | index position => toString position

/-- What a report says of an issue. -/
def Issue.text (issue : Issue) : String :=
  ".".intercalate (issue.path.map Step.text) ++ ": " ++ issue.rule.word

/-- What a report says of some issues, a line for each. -/
def Issue.list (issues : List Issue) : String :=
  "\n".intercalate (issues.map Issue.text)

/-- The same issue seen from a value that holds the place's value under `step`. -/
def Issue.under (step : Step) (issue : Issue) : Issue :=
  { issue with path := step :: issue.path }

/-- What a value means, or all that is wrong with it. -/
inductive Verdict (α : Type) where
  | valid (value : α)
  | invalid (issues : List Issue)

namespace Verdict

variable {α β : Type}

/-- The verdict that one rule is broken by the value itself. -/
def broken (rule : Rule) : Verdict α :=
  .invalid [⟨rule, []⟩]

/-- The issues of a verdict. -/
def issues : Verdict α → List Issue
  | valid _ => []
  | invalid issues => issues

/-- The function applied to the value, when both are valid, else the issues of both. -/
def ap : Verdict (α → β) → Verdict α → Verdict β
  | valid f, valid a => valid (f a)
  | f, a => invalid (f.issues ++ a.issues)

instance : Applicative Verdict where
  pure := valid
  seq f a := ap f (a ())

/-- The verdict on the part of a value that lies under `step`. -/
def under (step : Step) : Verdict α → Verdict α
  | valid a => valid a
  | invalid issues => invalid (issues.map (·.under step))

/-- The value, checked once more. -/
def andThen (verdict : Verdict α) (check : α → Verdict β) : Verdict β :=
  match verdict with
  | valid a => check a
  | invalid issues => invalid issues

@[simp] theorem pure_eq_valid (a : α) : (pure a : Verdict α) = valid a := rfl

@[simp] theorem valid_seq_valid (f : α → β) (a : α) : valid f <*> valid a = valid (f a) := rfl

@[simp] theorem map_valid (f : α → β) (a : α) : f <$> valid a = valid (f a) := rfl

@[simp] theorem under_valid (step : Step) (a : α) : under step (valid a) = valid a := rfl

theorem map_eq_valid_iff {f : α → β} {verdict : Verdict α} {b : β} :
    f <$> verdict = valid b ↔ ∃ a, verdict = valid a ∧ f a = b := by
  cases verdict <;> simp [Functor.map, ap]

theorem under_eq_valid_iff {step : Step} {verdict : Verdict α} {a : α} :
    under step verdict = valid a ↔ verdict = valid a := by
  cases verdict <;> simp [under]

/-- Two verdicts join to a valid one exactly when both are valid. -/
theorem seq_eq_valid_iff {f : Verdict (α → β)} {a : Verdict α} {b : β} :
    f <*> a = valid b ↔ ∃ g x, f = valid g ∧ a = valid x ∧ g x = b := by
  cases f <;> cases a <;> simp [Seq.seq, ap]

end Verdict

end ContractDrill
