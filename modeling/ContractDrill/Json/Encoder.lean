import ContractDrill.Json.Value
import ContractDrill.Number.Layout
import ContractDrill.Text.Numeral
import ContractDrill.Text.Quoted

/-!
# JSON texts of values

`Json.encode` is the text of a value without any space between its parts, and `Json.encodeSpaced`
the one with a space behind every comma and colon.  A text has only the characters from space to
`~`: all others are written as escapes, those above `U+FFFF` as two.

These two know no limits.  `Json.write` is what is written of a value: its text, or an error if one
of its integers has too many digits for a numeral or too many of its brackets are open at once.
-/

namespace ContractDrill

namespace Json

/-! ### Strings -/

/-- The escape of one half of a character, or of a character up to `U+FFFF`. -/
def unicodeEscape (unit : Nat) : List Char :=
  '\\' :: 'u' :: hexDigits 4 unit

/-- One character inside a JSON string. -/
def escapeChar (c : Char) : List Char :=
  if c = '"' then ['\\', '"']
  else if c = '\\' then ['\\', '\\']
  else if c = '\n' then ['\\', 'n']
  else if c = '\r' then ['\\', 'r']
  else if c = '\t' then ['\\', 't']
  else if c = '\x08' then ['\\', 'b']
  else if c = '\x0c' then ['\\', 'f']
  else if 0x20 ≤ c.toNat ∧ c.toNat < 0x7f then [c]
  else if c.toNat < 0x10000 then unicodeEscape c.toNat
  else
    let offset := c.toNat - 0x10000
    unicodeEscape (0xd800 + offset / 0x400) ++ unicodeEscape (0xdc00 + offset % 0x400)

/-- A string literal. -/
def stringLiteral (s : String) : List Char :=
  '"' :: s.toList.flatMap escapeChar ++ ['"']

/-! ### Values -/

/-- What stands behind a comma and behind a colon. -/
structure Spacing where
  behindComma : List Char
  behindColon : List Char

/-- The text of an integer. -/
def integerLiteral (n : Int) : List Char :=
  let digits := Nat.toDigits 10 n.natAbs
  if n < 0 then '-' :: digits else digits

mutual

/-- The text of a value. -/
def chars (spacing : Spacing) : Json → List Char
  | null => "null".toList
  | bool true => "true".toList
  | bool false => "false".toList
  | integer value => integerLiteral value
  | number value => value.literal.toList
  | string value => stringLiteral value
  | array items => '[' :: itemChars spacing items ++ [']']
  | object members => '\x7b' :: memberChars spacing members ++ ['\x7d']

/-- The texts of the items of an array, separated by commas. -/
def itemChars (spacing : Spacing) : List Json → List Char
  | [] => []
  | [item] => chars spacing item
  | item :: rest => chars spacing item ++ ',' :: spacing.behindComma ++ itemChars spacing rest

/-- The texts of the members of an object, separated by commas. -/
def memberChars (spacing : Spacing) : List (String × Json) → List Char
  | [] => []
  | [(name, value)] => stringLiteral name ++ ':' :: spacing.behindColon ++ chars spacing value
  | (name, value) :: rest =>
    stringLiteral name ++ ':' :: spacing.behindColon ++ chars spacing value ++
      ',' :: spacing.behindComma ++ memberChars spacing rest

end

/-- The text of a value without spaces, as `write` writes it where it can. -/
def encode (value : Json) : String :=
  String.ofList (chars ⟨[], []⟩ value)

/-- The text of a value with a space behind every comma and colon. -/
def encodeSpaced (value : Json) : String :=
  String.ofList (chars ⟨[' '], [' ']⟩ value)

/-! ### Writing -/

/-- Why a value cannot be written. -/
inductive WriteError where
  | digits
  | depth
  deriving DecidableEq

/-- What a report says of a value that cannot be written. -/
def WriteError.message : WriteError → String
  | digits =>
    s!"Exceeds the limit ({maxNumeralDigits} digits) for integer string conversion; " ++
      "use sys.set_int_max_str_digits() to increase the limit"
  | depth => "maximum recursion depth exceeded while encoding a JSON object"

mutual

/-- What keeps a value from being written, around which `depth` brackets may be open at once: of
several obstacles the one that comes first in the text. -/
def obstacle? (depth : Nat) : Json → Option WriteError
  | integer value => if FitsNumeral value then none else some .digits
  | array items =>
    match depth with
    | 0 => some .depth
    | depth + 1 => itemObstacle? depth items
  | object members =>
    match depth with
    | 0 => some .depth
    | depth + 1 => memberObstacle? depth members
  | _ => none

/-- What keeps one of the items of an array from being written. -/
def itemObstacle? (depth : Nat) : List Json → Option WriteError
  | [] => none
  | item :: rest => (obstacle? depth item).or (itemObstacle? depth rest)

/-- What keeps one of the members of an object from being written. -/
def memberObstacle? (depth : Nat) : List (String × Json) → Option WriteError
  | [] => none
  | (_, value) :: rest => (obstacle? depth value).or (memberObstacle? depth rest)

end

/-- What is written of a value, of which `depth` brackets may be open at once. -/
def write (depth : Nat) (value : Json) : Except WriteError String :=
  match obstacle? depth value with
  | some error => .error error
  | none => .ok value.encode

/-- The digits that are written of an integer. -/
def writeInteger (n : Int) : Except WriteError String :=
  if FitsNumeral n then .ok (toString n) else .error .digits

end Json

end ContractDrill
