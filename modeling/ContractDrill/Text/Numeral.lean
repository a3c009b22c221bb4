import ContractDrill.Number.Binary64
import ContractDrill.Text.CharacterClass
import ContractDrill.Text.Quoted

/-!
# Numbers written by people

Settings and node answers carry numbers as texts, under three rules:

* `readInteger` takes digits of any script, as a node prints a height, with white space around them,
  a sign in front, and a single `_` between two digits;
* `readWhole` takes an integer in plain form, as JSON writes it, and whatever `plainForm` makes such
  a text of: white space, a plus sign, leading zeros, zeros behind a point and single `_` go (the
  integers of pydantic 2.14);
* `readNumber` takes a decimal number with an optional exponent, or the name of a value that is not
  finite, either with white space around it or with single `_` between its characters.
-/

namespace ContractDrill

/-- Why a text is no integer. -/
inductive NumeralFault where
  | malformed
  | tooLong (digits : Nat)
  deriving DecidableEq

/-- A numeral may have this many digits. -/
def maxNumeralDigits : Nat := 4300

/-- The integer has no more digits than a numeral may have. -/
def FitsNumeral (n : Int) : Prop :=
  (Nat.toDigits 10 n.natAbs).length ≤ maxNumeralDigits
  deriving Decidable

/-- The integer has no more digits than a numeral may have even if its minus sign is taken for one,
as pydantic 2.13 takes it. -/
def FitsSigned (n : Int) : Prop :=
  (Nat.toDigits 10 n.natAbs).length + (decide (n < 0)).toNat ≤ maxNumeralDigits
  deriving Decidable

/-- What a report says of an integer with too many digits. -/
def digitLimitMessage (count : Nat) : String :=
  s!"Exceeds the limit ({maxNumeralDigits} digits) for integer string conversion: " ++
    s!"value has {count} digits; use sys.set_int_max_str_digits() to increase the limit"

/-- What a report says of a text that is no integer; the quote of a malformed one is cut short. -/
def NumeralFault.message (text : String) : NumeralFault → String
  | malformed =>
    "invalid literal for int() with base 10: " ++ String.ofList ((quoted text).toList.take 200)
  | tooLong digits => digitLimitMessage digits

/-- The digits of a row in which a single `_` may stand between two digits. -/
def groupedDigits : List Char → Option (List Char)
  | [] => none
  | [c] => if c.isDigit then some [c] else none
  | c :: '_' :: rest => if c.isDigit then (groupedDigits rest).map (c :: ·) else none
  | c :: rest => if c.isDigit then (groupedDigits rest).map (c :: ·) else none

/-- Whether a minus sign stands in front, and what is left behind the sign. -/
def splitSign (s : List Char) : Bool × List Char :=
  match s with
  | '-' :: rest => (true, rest)
  | '+' :: rest => (false, rest)
  | s => (false, s)

/-- The integer of a sign and a magnitude. -/
def withSign (negative : Bool) (magnitude : Nat) : Int :=
  if negative then -magnitude else magnitude

/-! ### Integers with digits of any script -/

/-- The character reduced to ASCII: of the others, blanks become spaces, digits the digits `0` to
`9`, and all else a character that is in no number. -/
def asciiForm (c : Char) : Char :=
  if c.toNat < 0x80 then c
  else if isBlank c then ' '
  else match digitValue? c with
    | some value => Nat.digitChar value
    | none => '?'

/-- The integer of a text with digits of any script. -/
def readInteger (s : List Char) : Except NumeralFault Int :=
  let (negative, body) := splitSign ((s.map asciiForm).dropWhile isAsciiSpace)
  let row := body.takeWhile fun c => c.isDigit || c = '_'
  match groupedDigits row with
  | none => .error .malformed
  | some digits =>
    -- The digits are counted before what stands behind them is looked at.
    if maxNumeralDigits < digits.length then .error (.tooLong digits.length)
    else if (body.drop row.length).all isAsciiSpace then
      .ok (withSign negative (digitsToNat digits))
    else .error .malformed

/-! ### Single underscores -/

/-- The text without its `_`, if it has some, but none at an end and no two together. -/
def ungrouped? (s : List Char) : Option (List Char) :=
  let groups := s.splitOnP (· = '_')
  if 1 < groups.length ∧ groups.all (· ≠ []) then some groups.flatten else none

/-! ### Integers of settings and payloads -/

/-- Whether a minus sign stands in front, and what is left behind it. -/
def splitMinus (s : List Char) : Bool × List Char :=
  match s with
  | '-' :: rest => (true, rest)
  | s => (false, s)

/-- The integer of a text in plain form: `0`, or digits that do not begin with it, possibly behind
a minus sign.  As in pydantic 2.14 the sign is none of the digits that a numeral may have; for
pydantic 2.13 it is one, so there `-` and 4300 digits are too many. -/
def readPlain (s : List Char) : Except NumeralFault Int :=
  let (negative, body) := splitMinus s
  if body.head? = some '0' then
    if body.length = 1 then .ok 0 else .error .malformed
  else
    let digits := body.takeWhile Char.isDigit
    -- The digits are counted before what stands behind them is looked at.
    if maxNumeralDigits < digits.length then .error (.tooLong digits.length)
    else if digits = [] ∨ digits.length < body.length then .error .malformed
    else .ok (withSign negative (digitsToNat digits))

/-- What a number keeps of a row of zeros and `_` that goes on with `s`, `last` being the latest of
the row: nothing in front of another digit or a minus sign, else `last`. -/
def skipZeros (last : Char) (s : List Char) : Option (List Char) :=
  match s with
  | [] => some [last]
  | c :: rest =>
    if c = '0' ∨ c = '_' then skipZeros c rest
    else if c.isDigit ∨ c = '-' then some (c :: rest)
    else if c = '.' then some (last :: c :: rest)
    else none

/-- The text without leading zeros, if it begins with a digit or a minus sign. -/
def dropZeros (s : List Char) : Option (List Char) :=
  match s with
  | [] => none
  | c :: rest =>
    if c = '0' then skipZeros c rest
    else if c.isDigit ∨ c = '-' then some (c :: rest)
    else none

/-- The text without the point and the zeros at its end, if it has both. -/
def dropPointZeros (s : List Char) : List Char :=
  let whole := s.takeWhile (· ≠ '.')
  let zeros := s.drop (whole.length + 1)
  if zeros ≠ [] ∧ zeros.all (· = '0') then whole else s

/-- The text of an integer brought to plain form, if it is close to it.  A sign may be followed by
a minus sign only behind zeros. -/
def plainForm (s : List Char) : Option (List Char) :=
  match trimBy isSpace s with
  | '+' :: '-' :: _ => none
  | trimmed =>
    let (negative, body) := splitSign trimmed
    (dropZeros body).map fun digits =>
      let whole := dropPointZeros digits
      let plain := (ungrouped? whole).getD whole
      if negative then '-' :: plain else plain

/-- The integer of a text with digits `0` to `9`.  Only in plain form it can have too many. -/
def readWhole (s : List Char) : Except NumeralFault Int :=
  match readPlain s with
  | .error .malformed =>
    match (plainForm s).map readPlain with
    | some (.ok n) => .ok n
    | _ => .error .malformed
  | result => result

/-! ### Decimal numbers -/

/-- The value that is not finite with the given name, in any case. -/
def namedNumber? (negative : Bool) (s : List Char) : Option Binary64 :=
  match s.map Char.toLower with
  | ['i', 'n', 'f'] => some (.infinity negative)
  | ['i', 'n', 'f', 'i', 'n', 'i', 't', 'y'] => some (.infinity negative)
  | ['n', 'a', 'n'] => some .nan
  | _ => none

/-- The digits before and behind the point of a mantissa; one of the two rows may be empty. -/
def mantissaDigits (s : List Char) : Option (List Char × List Char) :=
  let whole := s.takeWhile (· ≠ '.')
  let behind := s.drop (whole.length + 1)
  if (whole ≠ [] ∨ behind ≠ []) ∧ whole.all Char.isDigit ∧ behind.all Char.isDigit then
    some (whole, behind)
  else none

/-- The exponent behind the mantissa, at its `e`. -/
def exponentValue (s : List Char) : Option Int :=
  match s with
  | [] => some 0
  | _ :: rest =>
    let (negative, digits) := splitSign rest
    if digits ≠ [] ∧ digits.all Char.isDigit then some (withSign negative (digitsToNat digits))
    else none

/-- The number of a text without white space and `_`. -/
def readDecimal (s : List Char) : Option Binary64 :=
  let (negative, body) := splitSign s
  match namedNumber? negative body with
  | some value => some value
  | none =>
    let mantissa := body.takeWhile fun c => c ≠ 'e' ∧ c ≠ 'E'
    match mantissaDigits mantissa, exponentValue (body.drop mantissa.length) with
    | some (whole, behind), some exponent =>
      some (.ofDecimal negative (digitsToNat (whole ++ behind)) (exponent - behind.length))
    | _, _ => none

/-- The number of a text. -/
def readNumber (s : List Char) : Option Binary64 :=
  match readDecimal (trimBy isSpace s) with
  | some value => some value
  | none => (ungrouped? s).bind readDecimal

end ContractDrill
