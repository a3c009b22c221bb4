import ContractDrill.Json.Value
import ContractDrill.Text.Numeral
import ContractDrill.Text.Quoted

/-!
# Reading JSON texts

`Json.decode limits text` reads one JSON value that fills the text.  The scanners below take the
characters that are left and return a value with the characters that are left behind it, which are
fewer; a fault names the characters that are left where it lies, so that its place in the text is
a difference of lengths.

Beside the values of the standard the words `NaN`, `Infinity` and `-Infinity` are numbers.  Of two
members of one name the object keeps the place of the first and the value of the last.
-/

namespace ContractDrill

namespace Json

/-! ### Faults -/

/-- The rule of JSON that a text breaks. -/
inductive Fault where
  | byteOrderMark
  | value
  | name
  | colon
  | comma
  | extraData
  | openString
  | controlCharacter
  | escape
  | unicodeEscape
  | loneSurrogate
  deriving DecidableEq

/-- The two kinds of brackets that nest. -/
inductive Bracket where
  | array
  | object
  deriving DecidableEq

/-- Why scanning stopped, with the characters left where it did. -/
inductive Stop where
  | fault (kind : Fault) (left : List Char)
  | digits (count : Nat)
  | depth (bracket : Bracket)

/-- A place in a text: its line and its column, counted from 1, and its offset, counted from 0. -/
structure Place where
  line : Nat
  column : Nat
  offset : Nat
  deriving DecidableEq

/-- Why a text cannot be read. -/
inductive Error where
  | malformed (fault : Fault) (place : Place)
  | digits (count : Nat)
  | depth (bracket : Bracket)
  deriving DecidableEq

/-- What a text may hold. -/
structure Limits where
  /-- How many brackets may be open at once. -/
  depth : Nat
  /-- Whether half of a character is let pass, as the replacement character. -/
  loneSurrogates : Bool
  /-- Whether a number with a fraction or an exponent may have any number of digits in front of it;
  an integer never may. -/
  longWholes : Bool
  /-- Whether brackets may be open beyond `depth` if there is nothing between them. -/
  emptyBeyond : Bool

/-- The limits of the usual reader. -/
def Limits.usual : Limits := ⟨1000, true, true, false⟩

/-- The limits of the strict reader, the one that comes with pydantic 2.14.  It counts the digits of
an integer without its minus sign, which counts in pydantic 2.13. -/
def Limits.strict : Limits := ⟨200, false, false, true⟩

/-! ### Scanning -/

/-- What was scanned from the front of `s`, and the characters left behind it. -/
structure Scanned (s : List Char) (α : Type) where
  value : α
  left : List Char
  shorter : left.length < s.length

/-- The same scan seen from a longer text. -/
def Scanned.widen {s t : List Char} {α : Type} (scan : Scanned s α) (h : s.length ≤ t.length) :
    Scanned t α :=
  ⟨scan.value, scan.left, Nat.lt_of_lt_of_le scan.shorter h⟩

/-- The same scan with another value. -/
def Scanned.map {s : List Char} {α β : Type} (f : α → β) (scan : Scanned s α) : Scanned s β :=
  ⟨f scan.value, scan.left, scan.shorter⟩

/-- Whether JSON allows `c` between its parts. -/
def isGap (c : Char) : Bool :=
  c = ' ' || c = '\t' || c = '\n' || c = '\r'

/-- The text from its first character that is no gap. -/
def skipGaps (s : List Char) : List Char :=
  s.dropWhile isGap

theorem length_skipGaps_le (s : List Char) : (skipGaps s).length ≤ s.length :=
  (List.dropWhile_suffix _).length_le

/-- The first character that is no gap, if there is one. -/
def scanMark (s : List Char) : Option (Scanned s Char) :=
  match s with
  | [] => none
  | c :: rest =>
    if isGap c then (scanMark rest).map fun scan => scan.widen (Nat.le_succ _)
    else some ⟨c, rest, Nat.lt_succ_self _⟩

/-! ### Strings -/

/-- The character that an escape letter stands for. -/
def escaped? (c : Char) : Option Char :=
  match c with
  | '"' => some '"'
  | '\\' => some '\\'
  | '/' => some '/'
  | 'b' => some '\x08'
  | 'f' => some '\x0c'
  | 'n' => some '\n'
  | 'r' => some '\r'
  | 't' => some '\t'
  | _ => none

/-- Whether a code unit is the first half of a character. -/
def isHighSurrogate (unit : Nat) : Bool := 0xd800 ≤ unit && unit < 0xdc00

/-- Whether a code unit is the second half of a character. -/
def isLowSurrogate (unit : Nat) : Bool := 0xdc00 ≤ unit && unit < 0xe000

/-- The character of two halves. -/
def joinSurrogates (high low : Nat) : Char :=
  Char.ofNat (0x10000 + (high - 0xd800) * 0x400 + (low - 0xdc00))

/-- The character of a code unit that stands alone. -/
def loneUnit (limits : Limits) (unit : Nat) (left : List Char) : Except Stop Char :=
  if isHighSurrogate unit || isLowSurrogate unit then
    if limits.loneSurrogates then .ok '\ufffd' else .error (.fault .loneSurrogate left)
  else .ok (Char.ofNat unit)

/-- The code unit that four hexadecimal digits write, at the `u` before them.  The text must not
end with the digits. -/
def scanUnit (s : List Char) : Except Stop (Scanned s Nat) :=
  match s with
  | u :: a :: b :: c :: d :: e :: rest =>
    match hexQuad? a b c d with
    | none => .error (.fault .unicodeEscape (u :: a :: b :: c :: d :: e :: rest))
    | some unit => .ok ⟨unit, e :: rest, by simp only [List.length_cons]; omega⟩
  | s => .error (.fault .unicodeEscape s)

/-- The second half of a character, if `s` begins with the escape of one. -/
def scanLowSurrogate (s : List Char) : Except Stop (Option (Scanned s Nat)) :=
  match s with
  | '\\' :: 'u' :: rest =>
    match scanUnit ('u' :: rest) with
    | .error stop => .error stop
    | .ok unit =>
      if isLowSurrogate unit.value then .ok (some (unit.widen (Nat.le_succ _))) else .ok none
  | _ => .ok none

/-- The character of a `\u` escape, at the `u`: one code unit, or two if the first is the first
half of a character and a second escape completes it. -/
def unicodeChar (limits : Limits) (s : List Char) : Except Stop (Scanned s Char) :=
  match scanUnit s with
  | .error stop => .error stop
  | .ok high =>
    let alone : Except Stop (Scanned s Char) :=
      match loneUnit limits high.value s with
      | .error stop => .error stop
      | .ok char => .ok (high.map fun _ => char)
    if isHighSurrogate high.value then
      match scanLowSurrogate high.left with
      | .error stop => .error stop
      | .ok none => alone
      | .ok (some low) =>
        .ok ⟨joinSurrogates high.value low.value, low.left, Nat.lt_trans low.shorter high.shorter⟩
    else alone

/-- A character of a string, which stands for itself or is written by an escape.  The string begins
with the opening quote of `start`. -/
def scanChar (limits : Limits) (start s : List Char) : Except Stop (Scanned s Char) :=
  match s with
  | [] => .error (.fault .openString start)
  | '\\' :: [] => .error (.fault .openString start)
  | '\\' :: 'u' :: rest =>
    match unicodeChar limits ('u' :: rest) with
    | .error stop => .error stop
    | .ok scan => .ok (scan.widen (Nat.le_succ _))
  | '\\' :: c :: rest =>
    match escaped? c with
    | none => .error (.fault .escape ('\\' :: c :: rest))
    | some char => .ok ⟨char, rest, by simp only [List.length_cons]; omega⟩
  | c :: rest =>
    if c.toNat < 0x20 then .error (.fault .controlCharacter (c :: rest))
    else .ok ⟨c, rest, Nat.lt_succ_self _⟩

/-- The characters of a string up to its closing quote, behind those of `read`, which are in
reverse order.  The string begins with the opening quote of `start`. -/
def stringBody (limits : Limits) (start : List Char) (read : List Char) (s : List Char)
    (h : s.length < start.length) : Except Stop (Scanned start String) :=
  if s.head? = some '"' then
    .ok ⟨String.ofList read.reverse, s.tail, by rw [List.length_tail]; omega⟩
  else
    match scanChar limits start s with
    | .error stop => .error stop
    | .ok scan =>
      stringBody limits start (scan.value :: read) scan.left (Nat.lt_trans scan.shorter h)
termination_by s.length
decreasing_by exact scan.shorter

/-- A string, at its opening quote. -/
def scanString (limits : Limits) (s : List Char) : Except Stop (Scanned s String) :=
  match s with
  | '"' :: rest => stringBody limits ('"' :: rest) [] rest (by simp)
  | s => .error (.fault .name s)

/-! ### Numbers -/

/-- The digits at the front of `s`, and what is left behind them. -/
def cutDigits (s : List Char) : List Char × List Char :=
  (s.takeWhile Char.isDigit, s.dropWhile Char.isDigit)

/-- The digits of a whole number: a zero alone, or digits that begin with another. -/
def cutWhole (s : List Char) : List Char × List Char :=
  match s with
  | '0' :: rest => (['0'], rest)
  | s => cutDigits s

/-- The digits behind a point, if there are any. -/
def cutFraction (s : List Char) : Option (List Char) × List Char :=
  match s with
  | '.' :: rest =>
    let (digits, left) := cutDigits rest
    if digits.isEmpty then (none, s) else (some digits, left)
  | s => (none, s)

/-- Whether an exponent has a minus sign, and what is left behind its sign. -/
def cutSign (s : List Char) : Bool × List Char :=
  match s with
  | '-' :: rest => (true, rest)
  | '+' :: rest => (false, rest)
  | s => (false, s)

/-- The exponent behind an `e` of either case, if it has digits. -/
def cutExponent (s : List Char) : Option Int × List Char :=
  match s with
  | e :: rest =>
    if e = 'e' ∨ e = 'E' then
      let (negative, signless) := cutSign rest
      let (digits, left) := cutDigits signless
      if digits.isEmpty then (none, s)
      else (some (Binary64.signed negative (digitsToNat digits)), left)
    else (none, s)
  | [] => (none, [])

theorem length_cutDigits_le (s : List Char) : (cutDigits s).2.length ≤ s.length :=
  (List.dropWhile_suffix _).length_le

theorem length_cutFraction_le (s : List Char) : (cutFraction s).2.length ≤ s.length := by
  unfold cutFraction
  split
  · rename_i rest
    have := length_cutDigits_le rest
    dsimp only
    split <;> simp only [List.length_cons] <;> omega
  · exact Nat.le_refl _

theorem length_cutSign_le (s : List Char) : (cutSign s).2.length ≤ s.length := by
  unfold cutSign
  split <;> simp

theorem length_cutExponent_le (s : List Char) : (cutExponent s).2.length ≤ s.length := by
  unfold cutExponent
  split
  · rename_i e rest
    have h₁ := length_cutSign_le rest
    have h₂ := length_cutDigits_le (cutSign rest).2
    split
    · dsimp only
      split <;> simp only [List.length_cons] <;> omega
    · exact Nat.le_refl _
  · exact Nat.le_refl _

/-- The number of the given parts: an integer if it has neither a fraction nor an exponent. -/
def numberOf (limits : Limits) (negative : Bool) (whole : List Char)
    (fraction : Option (List Char)) (exponent : Option Int) : Except Stop Json :=
  let long := maxNumeralDigits < whole.length
  match fraction, exponent with
  | none, none =>
    if long then .error (.digits whole.length)
    else .ok (.integer (Binary64.signed negative (digitsToNat whole)))
  | fraction, exponent =>
    if long ∧ !limits.longWholes then .error (.digits whole.length)
    else
      let behind := fraction.getD []
      let digits := digitsToNat (whole ++ behind)
      .ok (.number (.ofDecimal negative digits (exponent.getD 0 - behind.length)))

/-- A number without its sign; `s` is the text at the sign. -/
def scanMagnitude (limits : Limits) (negative : Bool) (s body : List Char)
    (h : body.length ≤ s.length) : Except Stop (Scanned s Json) :=
  let whole := cutWhole body
  if hw : whole.1.isEmpty ∨ ¬ whole.2.length < body.length then .error (.fault .value s)
  else
    let fraction := cutFraction whole.2
    let exponent := cutExponent fraction.2
    match numberOf limits negative whole.1 fraction.1 exponent.1 with
    | .error stop => .error stop
    | .ok value => .ok ⟨value, exponent.2, by
        have h₁ : fraction.2.length ≤ whole.2.length := length_cutFraction_le _
        have h₂ : exponent.2.length ≤ fraction.2.length := length_cutExponent_le _
        simp only [not_or, Decidable.not_not] at hw
        omega⟩

/-- A number. -/
def scanNumber (limits : Limits) (s : List Char) : Except Stop (Scanned s Json) :=
  match s with
  | '-' :: rest => scanMagnitude limits true ('-' :: rest) rest (by simp)
  | s => scanMagnitude limits false s s (Nat.le_refl _)

/-! ### Values -/

/-- The items behind those of `read`, which are in reverse order, up to the bracket `close`.  Each
is scanned by `item`, and a comma stands between two. -/
def scanItems {α : Type} (close : Char)
    (item : (s : List Char) → Except Stop (Scanned s α)) (read : List α) (s : List Char) :
    Except Stop (Scanned s (List α)) :=
  match item s with
  | .error stop => .error stop
  | .ok scan =>
    match scanMark scan.left with
    | none => .error (.fault .comma [])
    | some mark =>
      have hs : mark.left.length < s.length := Nat.lt_trans mark.shorter scan.shorter
      have hg : (skipGaps mark.left).length < s.length :=
        Nat.lt_of_le_of_lt (length_skipGaps_le mark.left) hs
      if mark.value = close then .ok ⟨(scan.value :: read).reverse, mark.left, hs⟩
      else if mark.value = ',' then
        match scanItems close item (scan.value :: read) (skipGaps mark.left) with
        | .error stop => .error stop
        | .ok items => .ok (items.widen (Nat.le_of_lt hg))
      else .error (.fault .comma (mark.value :: mark.left))
termination_by s.length
decreasing_by exact hg

/-- Everything between two brackets, behind the opening one: either nothing or items. -/
def scanBracket {α : Type} (close : Char)
    (item : (s : List Char) → Except Stop (Scanned s α)) (s : List Char) :
    Except Stop (Scanned s (List α)) :=
  let items : Except Stop (Scanned s (List α)) :=
    match scanItems close item [] (skipGaps s) with
    | .error stop => .error stop
    | .ok items => .ok (items.widen (length_skipGaps_le s))
  match scanMark s with
  | none => items
  | some mark => if mark.value = close then .ok (mark.map fun _ => []) else items

/-- Nothing but gaps between two brackets that are open beyond the depth, behind the opening one. -/
def scanBeyond (limits : Limits) (bracket : Bracket) (close : Char) (s : List Char) :
    Except Stop (Scanned s Unit) :=
  match scanMark s with
  | none => .error (.depth bracket)
  | some mark =>
    if limits.emptyBeyond ∧ mark.value = close then .ok (mark.map fun _ => ())
    else .error (.depth bracket)

/-- A member of an object: a name, a colon and a value. -/
def scanMember (limits : Limits) (value : (s : List Char) → Except Stop (Scanned s Json))
    (s : List Char) : Except Stop (Scanned s (String × Json)) :=
  match scanString limits s with
  | .error stop => .error stop
  | .ok name =>
    match scanMark name.left with
    | none => .error (.fault .colon [])
    | some mark =>
      if mark.value = ':' then
        match value (skipGaps mark.left) with
        | .error stop => .error stop
        | .ok scan => .ok ((scan.map (name.value, ·)).widen
            (Nat.le_trans (length_skipGaps_le mark.left)
              (Nat.le_of_lt (Nat.lt_trans mark.shorter name.shorter))))
      else .error (.fault .colon (mark.value :: mark.left))

/-- The members in the order of their first occurrences, each with its last value. -/
def mergeMembers (members : List (String × Json)) : Members :=
  members.foldl (fun merged (name, value) => Members.put merged name value) []

/-- A value, inside of which `depth` more brackets may be open. -/
def scanValue (limits : Limits) (depth : Nat) (s : List Char) : Except Stop (Scanned s Json) :=
  match s with
  | [] => .error (.fault .value [])
  | '"' :: rest =>
    match scanString limits ('"' :: rest) with
    | .error stop => .error stop
    | .ok scan => .ok (scan.map Json.string)
  | '[' :: rest =>
    match depth with
    | 0 =>
      match scanBeyond limits .array ']' rest with
      | .error stop => .error stop
      | .ok scan => .ok ((scan.map fun _ => Json.array []).widen (by simp))
    | depth + 1 =>
      match scanBracket ']' (scanValue limits depth) rest with
      | .error stop => .error stop
      | .ok scan => .ok ((scan.map Json.array).widen (by simp))
  | '\x7b' :: rest =>
    match depth with
    | 0 =>
      match scanBeyond limits .object '\x7d' rest with
      | .error stop => .error stop
      | .ok scan => .ok ((scan.map fun _ => Json.object []).widen (by simp))
    | depth + 1 =>
      match scanBracket '\x7d' (scanMember limits (scanValue limits depth)) rest with
      | .error stop => .error stop
      | .ok scan => .ok ((scan.map fun members => Json.object (mergeMembers members)).widen
          (by simp))
  | 'n' :: 'u' :: 'l' :: 'l' :: rest => .ok ⟨.null, rest, by simp only [List.length_cons]; omega⟩
  | 't' :: 'r' :: 'u' :: 'e' :: rest =>
    .ok ⟨.bool true, rest, by simp only [List.length_cons]; omega⟩
  | 'f' :: 'a' :: 'l' :: 's' :: 'e' :: rest =>
    .ok ⟨.bool false, rest, by simp only [List.length_cons]; omega⟩
  | 'N' :: 'a' :: 'N' :: rest =>
    .ok ⟨.number .nan, rest, by simp only [List.length_cons]; omega⟩
  | 'I' :: 'n' :: 'f' :: 'i' :: 'n' :: 'i' :: 't' :: 'y' :: rest =>
    .ok ⟨.number (.infinity false), rest, by simp only [List.length_cons]; omega⟩
  | '-' :: 'I' :: 'n' :: 'f' :: 'i' :: 'n' :: 'i' :: 't' :: 'y' :: rest =>
    .ok ⟨.number (.infinity true), rest, by simp only [List.length_cons]; omega⟩
  | s => scanNumber limits s

/-! ### Whole texts -/

/-- The place of the character behind `before`. -/
def Place.behind (before : List Char) : Place where
  line := before.count '\n' + 1
  column := (before.reverse.takeWhile (· ≠ '\n')).length + 1
  offset := before.length

/-- Why reading `text` failed, from why scanning it stopped. -/
def Stop.locate (text : List Char) : Stop → Error
  | .fault kind left => .malformed kind (.behind (text.take (text.length - left.length)))
  | .digits count => .digits count
  | .depth bracket => .depth bracket

/-- The value that the characters `text` write. -/
def decodeChars (limits : Limits) (text : List Char) : Except Error Json :=
  if text.head? = some '\ufeff' then .error (Stop.locate text (.fault .byteOrderMark text))
  else
    match scanValue limits limits.depth (skipGaps text) with
    | .error stop => .error (stop.locate text)
    | .ok scan =>
      match skipGaps scan.left with
      | [] => .ok scan.value
      | left => .error (Stop.locate text (.fault .extraData left))

/-- The value that a text writes. -/
def decode (limits : Limits) (text : String) : Except Error Json :=
  decodeChars limits text.toList

/-! ### Messages -/

/-- What a report says of a fault. -/
def Fault.message : Fault → String
  | byteOrderMark => "Unexpected UTF-8 BOM (decode using utf-8-sig)"
  | value => "Expecting value"
  | name => "Expecting property name enclosed in double quotes"
  | colon => "Expecting ':' delimiter"
  | comma => "Expecting ',' delimiter"
  | extraData => "Extra data"
  | openString => "Unterminated string starting at"
  | controlCharacter => "Invalid control character at"
  | escape => "Invalid \\escape"
  | unicodeEscape => "Invalid \\uXXXX escape"
  | loneSurrogate => "Lone surrogate in escape"

/-- What a report says of an error. -/
def Error.message : Error → String
  | malformed fault place =>
    fault.message ++ s!": line {place.line} column {place.column} (char {place.offset})"
  | digits count => digitLimitMessage count
  | depth .array =>
    "maximum recursion depth exceeded while decoding a JSON array from a unicode string"
  | depth .object =>
    "maximum recursion depth exceeded while decoding a JSON object from a unicode string"

end Json

end ContractDrill
