import ContractDrill.Calendar.Date
import ContractDrill.Text.Numeral
import ContractDrill.Text.Quoted

/-!
# Timestamps

A node writes the time of a block as `2022-05-01T10:00:00.123456789Z`.  `Timestamp.read` turns the
text into nanoseconds from 1970.

The text in front of the first point is matched field by field.  A field of two digits may be
written with one; where a text can be split in several ways, the first that lets all fields match
is taken.  Digits that no bound limits may be of any script.  The text behind the point is cut or
filled up with zeros to nine characters and read as an integer.
-/

namespace ContractDrill

/-! ### Fields -/

/-- The digit that a character stands for at a place of a field, if it may stand there. -/
abbrev DigitClass := Char → Option Nat

namespace DigitClass

/-- A digit from `low` to `high`, of `0` to `9`. -/
def between (low high : Nat) : DigitClass := fun c =>
  (asciiDigit? c).filter fun d => low ≤ d && d ≤ high

/-- A digit of any script. -/
def digit : DigitClass := digitValue?

/-- The space, which adds nothing. -/
def space : DigitClass := fun c => if c = ' ' then some 0 else none

/-- The number that the front of a text writes with digits of the given classes behind those of
`value`, and the text behind it. -/
def read (value : Nat) : List DigitClass → List Char → Option (Nat × List Char)
  | [], s => some (value, s)
  | _ :: _, [] => none
  | digit :: digits, c :: s => (digit c).bind fun d => read (10 * value + d) digits s

end DigitClass

/-- A field of a timestamp: the forms it may have, the preferred one first. -/
abbrev Field := List (List DigitClass)

namespace Field

open DigitClass

/-- Four digits. -/
def year : Field := [[digit, digit, digit, digit]]

/-- `1` to `12`. -/
def month : Field := [[between 1 1, between 0 2], [between 0 0, between 1 9], [between 1 9]]

/-- `1` to `31`, possibly with a space in place of a leading zero. -/
def day : Field :=
  [[between 3 3, between 0 1], [between 1 2, digit], [between 0 0, between 1 9], [between 1 9],
    [space, between 1 9]]

/-- `0` to `23`. -/
def hour : Field := [[between 2 2, between 0 3], [between 0 1, digit], [digit]]

/-- `0` to `59`. -/
def minute : Field := [[between 0 5, digit], [digit]]

/-- `0` to `61`. -/
def second : Field := [[between 6 6, between 0 1], [between 0 5, digit], [digit]]

/-- All ways to read a field at the front of a text. -/
def readings (field : Field) (s : List Char) : List (Nat × List Char) :=
  field.filterMap fun form => read 0 form s

end Field

/-! ### Moments -/

/-- What the fields of a timestamp say. -/
structure Moment where
  date : Date
  hour : Nat
  minute : Nat
  second : Nat
  deriving DecidableEq

namespace Moment

/-- The seconds from 1970. -/
def seconds (moment : Moment) : Int :=
  86400 * moment.date.daysFromEpoch + 3600 * moment.hour + 60 * moment.minute + moment.second

/-- All ways to read a field behind one of the given characters, and then the rest by `rest`. -/
def behind {α : Type} (marks : List Char) (field : Field) (rest : Nat → List Char → List α) :
    List Char → List α
  | c :: s => if c ∈ marks then (field.readings s).flatMap fun (n, s) => rest n s else []
  | [] => []

/-- All ways to read a moment at the front of a text, the preferred one first. -/
def readings (s : List Char) : List (Moment × List Char) :=
  (Field.year.readings s).flatMap fun (year, s) =>
    s |> behind ['-'] .month fun month => behind ['-'] .day fun day =>
      behind ['T', 't'] .hour fun hour => behind [':'] .minute fun minute =>
        behind [':'] .second fun second s => [(⟨⟨year, month, day⟩, hour, minute, second⟩, s)]

end Moment

/-! ### Timestamps -/

namespace Timestamp

/-- Why a text is no timestamp. -/
inductive Error where
  | layout (text : String)
  | leftOver (rest : String)
  | yearZero
  | dayOfMonth
  | leapSecond
  | fraction (text : String) (fault : NumeralFault)
  deriving DecidableEq

/-- What a report says of an error. -/
def Error.message : Error → String
  | layout text => s!"time data {quoted text} does not match format '%Y-%m-%dT%H:%M:%S'"
  | leftOver rest => s!"unconverted data remains: {rest}"
  | yearZero => "year 0 is out of range"
  | dayOfMonth => "day is out of range for month"
  | leapSecond => "second must be in 0..59"
  | fraction text fault => fault.message text

/-- The moment that a whole text writes; its day has to be in the calendar and its second on the
clock. -/
def readMoment (s : List Char) : Except Error Moment :=
  match (Moment.readings s).head? with
  | none => .error (.layout (String.ofList s))
  | some (moment, rest) =>
    let date := moment.date
    if rest ≠ [] then .error (.leftOver (String.ofList rest))
    else if date.year = 0 then .error .yearZero
    else if daysInMonth date.year date.month < date.day then .error .dayOfMonth
    else if 59 < moment.second then .error .leapSecond
    else .ok moment

/-- The text behind the point as nine characters. -/
def nineDigits (fraction : List Char) : List Char :=
  (fraction ++ List.replicate 9 '0').take 9

/-- The nanoseconds that the text behind the point stands for. -/
def readFraction (fraction : List Char) : Except Error Int :=
  match readInteger (nineDigits fraction) with
  | .ok n => .ok n
  | .error fault => .error (.fraction (String.ofList (nineDigits fraction)) fault)

/-- The nanoseconds from 1970 that a timestamp stands for. -/
def read (text : String) : Except Error Int := do
  let s := trimEndBy (· = 'Z') text.toList
  let base := s.takeWhile (· ≠ '.')
  let moment ← readMoment base
  let nanoseconds ← readFraction (s.drop (base.length + 1))
  return moment.seconds * 1000000000 + nanoseconds

end Timestamp

end ContractDrill
