import ContractDrill.Screen.Parameters.Token

/-!
# Contents of texts in parameters

Texts in a row are one text; they are all of characters or all of bytes.  In a text that is not raw,
a backslash begins an escape, and one that gives a character by its code has to be complete.  A text
with placeholders has expressions between braces, each possibly with a conversion and a layout,
which may have placeholders again.

Reports give the place of an escape in a text that is written with ASCII characters: another
character counts as the escape of its code.
-/

namespace ContractDrill

namespace Parameters

/-- The length of a text that is written with ASCII characters. -/
def asciiLength : List Char → Nat
  | [] => 0
  | c :: rest => (if c.toNat < 0x80 then 1 else 10) + asciiLength rest

/-- The digits that the escape of a code has behind its letter. -/
def codeDigits? (letter : Char) : Option Nat :=
  if letter = 'x' then some 2
  else if letter = 'u' then some 4
  else if letter = 'U' then some 8
  else none

/-- The number that hexadecimal digits write. -/
def hexNumber (digits : List Char) : Nat :=
  digits.foldl (fun n c => 16 * n + (hexValue? c).getD 0) 0

/-- What is wrong with the escape of a code, which begins at `start`. -/
def codeFault? (start : Nat) (letter : Char) (size : Nat) (s : List Char) : Option Fault :=
  let digits := (s.take size).takeWhile fun c => (hexValue? c).isSome
  let stop := start + 2 + digits.length
  if digits.length < size then some (.escape start stop (.truncated letter))
  else if 0x10ffff < hexNumber digits then some (.escape start stop .illegal)
  else none

/-- What is wrong with the escape of a character by its name, which begins at `start`.  A name of
the form that names of characters have is taken for one. -/
def nameEscapeFault? (start : Nat) (s : List Char) : Option Fault :=
  match s with
  | '\x7b' :: rest =>
    let name := rest.takeWhile (· ≠ '\x7d')
    if name = rest then some (.escape start (start + 3 + asciiLength rest) .malformed)
    else if name = [] then some (.escape start (start + 3) .malformed)
    else if name.all fun c => c.isAlphanum || c = ' ' || c = '-' then none
    else some (.escape start (start + 4 + asciiLength name) .unknown)
  | _ => some (.escape start (start + 2) .malformed)

/-- What is wrong with the first wrong escape of a text from a place on. -/
def escapeFault? (place : Nat) : List Char → Option Fault
  | [] => none
  | '\\' :: c :: rest =>
    -- In front of such a character the backslash is written as the escape of its code.
    if 0x80 ≤ c.toNat then escapeFault? (place + 16) rest
    else
      let fault? := if c = 'N' then nameEscapeFault? place rest
        else (codeDigits? c).bind fun size => codeFault? place c size rest
      fault?.or (escapeFault? (place + 2) rest)
  | c :: rest => escapeFault? (place + if c.toNat < 0x80 then 1 else 10) rest

/-- What is wrong with the first wrong escape of a text of bytes from a place on. -/
def byteEscapeFault? (place : Nat) : List Char → Option Fault
  | '\\' :: c :: rest =>
    if c = 'x' ∧ ((rest.take 2).takeWhile fun d => (hexValue? d).isSome).length < 2 then
      some (.byteEscape place)
    else byteEscapeFault? (place + 2) rest
  | _ :: rest => byteEscapeFault? (place + 1) rest
  | [] => none

/-! ### Placeholders -/

/-- What a character of a text stands behind. -/
inductive LiteralState where
  | plain
  | backslash
  /-- The letter of the escape of a character by its name. -/
  | nameLetter
  | name
  deriving DecidableEq

/-- A part of a text without placeholders. -/
structure Literal where
  text : List Char
  rest : List Char
  /-- Whether it ends with a brace that is written twice. -/
  isDoubled : Bool

/-- The literal at the front of a text; inside of a placeholder braces are not written twice. -/
def literalAt (raw nested : Bool) (state : LiteralState) :
    List Char → Except PlaceholderFault Literal
  | [] => .ok ⟨[], [], false⟩
  | c :: rest =>
    let isFree := state = .plain ∨ state = .backslash
    if isFree ∧ (c = '\x7b' ∨ c = '\x7d') then
      if !nested ∧ rest.head? = some c then .ok ⟨[c], rest.tail, true⟩
      else if !nested ∧ c = '\x7d' then .error .single
      else .ok ⟨[], c :: rest, false⟩
    else
      let next : LiteralState := match state with
        | .plain => if c = '\\' ∧ !raw then .backslash else .plain
        | .backslash => if c = 'N' then .nameLetter else .plain
        | .nameLetter => if c = '\x7b' then .name else .plain
        | .name => if c = '\x7d' then .plain else .name
      (literalAt raw nested next rest).map fun literal => { literal with text := c :: literal.text }

/-- Where the expression of a placeholder stands. -/
structure Inside where
  /-- How many characters belong to the latest mark still. -/
  skipped : Nat
  /-- The quote of the text that is open, and whether it is a long text. -/
  quote : Option (Char × Bool)
  /-- The brackets that are open, the latest first. -/
  opened : List Char

/-- Whether an expression ends at `c`, outside of brackets; two characters that compare do not
end it. -/
def endsExpression (c : Char) (rest : List Char) : Bool :=
  c ∈ ['!', ':', '\x7d', '='] && !(c ∈ ['!', '='] && rest.head? = some '=')

/-- The expression at the front of a text, and what is left behind it. -/
def expressionAt (inside : Inside) : List Char → Except PlaceholderFault (List Char × List Char)
  | [] =>
    if inside.quote.isSome then .error .openText
    else match inside.opened with
      | opening :: _ => .error (.unmatched opening)
      | [] => .error .notClosed
  | c :: rest =>
    let go (next : Inside) := (expressionAt next rest).map fun (s, left) => (c :: s, left)
    if 0 < inside.skipped then go { inside with skipped := inside.skipped - 1 }
    else if c = '\\' then .error .backslash
    else
      let isLong := [c, c].isPrefixOf rest
      match inside.quote with
      | some (quote, long) =>
        if c ≠ quote ∨ (long ∧ !isLong) then go inside
        else go { inside with quote := none, skipped := if long then 2 else 0 }
      | none =>
        if c = '\'' ∨ c = '"' then
          go { inside with quote := some (c, isLong), skipped := if isLong then 2 else 0 }
        else if c = '(' ∨ c = '\x7b' then
          go { inside with opened := c :: inside.opened }
        else if c = '#' then .error .comment
        else
          match inside.opened with
          | [] =>
            if endsExpression c rest then .ok ([], c :: rest)
            else if c = ')' then .error (.unmatched c)
            else if c ∈ ['!', '=', '<', '>'] ∧ rest.head? = some '=' then
              go { inside with skipped := 1 }
            else go inside
          | opening :: outer =>
            if c = ')' ∨ c = '\x7d' then
              if closingOf opening = c then go { inside with opened := outer }
              else .error (.mismatched c opening)
            else go inside

/-- What is left behind the conversion of a placeholder, if it has one. -/
def skipConversion (s : List Char) : Except PlaceholderFault (List Char) :=
  match s with
  | '!' :: c :: rest => if c ∈ ['s', 'r', 'a'] then .ok rest else .error .conversion
  | ['!'] => .error .notClosed
  | s => .ok s

section

-- `expressionFault?` says what is wrong with an expression.
variable (expressionFault? : List Char → Option Fault)

/-- What is left behind the expression of a placeholder and its conversion. -/
def skipExpression (s : List Char) : Except Fault (List Char) := do
  let (expression, rest) ← (expressionAt ⟨0, none, []⟩ s).mapError .placeholder
  if expression.all (· ∈ [' ', '\t', '\n', '\x0c']) then
    match rest with
    | '\x7d' :: _ => throw (.placeholder .empty)
    | c :: _ => throw (.placeholder (.missing c))
    | [] => throw (.placeholder .notClosed)
  if let some fault := expressionFault? expression then throw fault
  let rest := if rest.head? = some '=' then rest.tail else rest
  (skipConversion rest).mapError .placeholder

/-- What is left behind a text with placeholders: nothing, or the brace that closes the placeholder
whose layout the text is.  Layouts are nested `level` times, and there are at most `count` parts. -/
def skipParts (raw : Bool) : (count level : Nat) → List Char → Except Fault (List Char)
  | 0, _, _ => .ok []
  | count + 1, level, s => do
    let literal ← (literalAt raw (level ≠ 0) .plain s).mapError .placeholder
    if !raw then
      if let some fault := escapeFault? 0 literal.text then throw fault
    if literal.isDoubled then skipParts raw count level literal.rest
    else match literal.rest with
      | '\x7b' :: rest =>
        if 2 ≤ level then throw (.placeholder .tooDeep)
        let rest ← skipExpression expressionFault? rest
        let rest ← match rest with
          | ':' :: c :: rest => skipParts raw count (level + 1) (c :: rest)
          | rest => pure rest
        match rest with
        | '\x7d' :: rest => skipParts raw count level rest
        | _ => throw (.placeholder .notClosed)
      | [] => if level = 0 then return [] else throw (.placeholder .notClosed)
      | rest => return rest

namespace QuotedText

/-- Whether a text is one of bytes. -/
def isBytes (text : QuotedText) : Bool :=
  text.letters.contains 'b'

/-- Whether a text has no escapes. -/
def isRaw (text : QuotedText) : Bool :=
  text.letters.contains 'r'

/-- Whether a text may have placeholders. -/
def hasPlaceholders (text : QuotedText) : Bool :=
  text.letters.contains 'f'

/-- What is wrong with the content of a text without placeholders. -/
def fault? (text : QuotedText) : Option Fault :=
  if text.isBytes ∧ text.content.any (0x80 ≤ ·.toNat) then some .nonAscii
  else if text.isRaw ∨ text.hasPlaceholders then none
  else if text.isBytes then byteEscapeFault? 0 text.content
  else escapeFault? 0 text.content

/-- What is wrong with the placeholders of a text. -/
def placeholderFault? (text : QuotedText) : Option Fault :=
  if text.hasPlaceholders then
    let count := text.content.length + 1
    match skipParts expressionFault? text.isRaw count 0 text.content with
    | .error fault => some fault
    | .ok _ => none
  else none

end QuotedText

/-- What is wrong with texts in a row, the first of which is one of bytes or not. -/
def textsFault? (bytes : Bool) : List QuotedText → Option Fault
  | [] => none
  | text :: rest =>
    text.fault?.or <|
      if text.isBytes ≠ bytes then some .mixedTexts
      else (text.placeholderFault? expressionFault?).or (textsFault? bytes rest)

end

end Parameters

end ContractDrill
