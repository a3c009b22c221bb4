import ContractDrill.Json.Value
import ContractDrill.Schema.Verdict
import ContractDrill.Text.Numeral

/-!
# Scalars of a schema

What a field of each scalar kind accepts.  A number may come as a text, an integer as a number
without a fraction, and a truth value as a number or as one of a few words.  These are the lax rules
of pydantic 2.14.
-/

namespace ContractDrill

namespace Schema

/-- A text. -/
def text : Json → Verdict String
  | .string value => .valid value
  | _ => .broken .stringType

/-- A free-form object; its members are taken as they are. -/
def freeForm : Json → Verdict Json.Members
  | .object members => .valid members
  | _ => .broken .dictType

/-! ### Numbers -/

/-- The rule that a text breaks when it is no integer. -/
def numeralRule : NumeralFault → Rule
  | .malformed => .intParsing
  | .tooLong _ => .intParsingSize

/-- The first magnitude that a 64-bit word does not hold with either sign: `2 ^ 63`. -/
abbrev wordBound : Nat := 0x8000000000000000

/-- The integer that a number without a fraction equals, if its magnitude is below `2 ^ 63`. -/
def integerOfNumber (x : Binary64) : Verdict Int :=
  if x.isFinite then
    match x.toInt? with
    | none => .broken .intFromFloat
    | some n => if n.natAbs < wordBound then .valid n else .broken .intParsingSize
  else .broken .finiteNumber

/-- An integer. -/
def integer : Json → Verdict Int
  | .bool value => .valid (if value then 1 else 0)
  | .integer value => .valid value
  | .number value => integerOfNumber value
  | .string value =>
    match readWhole value.toList with
    | .ok n => .valid n
    | .error fault => .broken (numeralRule fault)
  | _ => .broken .intType

/-- A number; an integer beyond the finite ones is of the wrong type. -/
def number : Json → Verdict Binary64
  | .bool value => .valid (.ofInt (if value then 1 else 0))
  | .integer value =>
    if (Binary64.ofInt value).isFinite then .valid (.ofInt value) else .broken .floatType
  | .number value => .valid value
  | .string value =>
    match readNumber value.toList with
    | some x => .valid x
    | none => .broken .floatParsing
  | _ => .broken .floatType

/-- A number that is not below `0`. -/
def nonnegative (value : Json) : Verdict Binary64 :=
  (number value).andThen fun x => if 0 ≤ x then .valid x else .broken .greaterThanEqual

/-- A number above `0`. -/
def positive (value : Json) : Verdict Binary64 :=
  (number value).andThen fun x => if 0 < x then .valid x else .broken .greaterThan

/-! ### Truth values -/

/-- The words for a truth value, in lower case. -/
def truthWord? (s : String) : Option Bool :=
  if s ∈ ["0", "off", "f", "false", "n", "no"] then some false
  else if s ∈ ["1", "on", "t", "true", "y", "yes"] then some true
  else none

/-- The truth value of an integer: only `0` and `1` have one. -/
def truthOfInteger (n : Int) : Verdict Bool :=
  if n = 0 then .valid false
  else if n = 1 then .valid true
  else if -wordBound ≤ n ∧ n < wordBound then .broken .boolParsing
  else .broken .boolType

/-- A truth value. -/
def truth : Json → Verdict Bool
  | .bool value => .valid value
  | .integer value => truthOfInteger value
  | .number value =>
    match value.toInt? with
    -- Of the numbers the lowest word is left out.
    | some n => if n = -wordBound then .broken .boolType else truthOfInteger n
    | none => .broken .boolType
  | .string value =>
    match truthWord? (String.ofList (value.toList.map Char.toLower)) with
    | some b => .valid b
    | none => .broken .boolParsing
  | _ => .broken .boolType

end Schema

end ContractDrill
