import ContractDrill.Screen.Parameters.Fault
import ContractDrill.Text.Identifier

/-!
# Tokens of parameters

Parameters are taken apart into names, numbers, texts and marks; words with a meaning of their own,
such as `if`, are marks.  Where the text does not go on with a token, or a bracket does not match,
the last token is a `broken` one.

A line may end between brackets.  Elsewhere its end is a token, and so is an indentation of the next
line.
-/

namespace ContractDrill

namespace Parameters

/-! ### Numbers -/

/-- Whether `c` may stand in a name, as far as can be told before the name is looked at. -/
def isNameCharacter (c : Char) : Bool :=
  c.isAlphanum || c = '_' || 0x80 ≤ c.toNat

/-- Whether a word stands at the front that may stand right behind a number.  Of some words only the
front is looked at. -/
def meetsOperator (s : List Char) : Bool :=
  ["if", "in", "is"].any (·.toList.isPrefixOf s) ||
    String.ofList (s.takeWhile isNameCharacter) ∈ ["and", "else", "for", "or", "not"]

/-- What is left behind a number that ends in front of `s`. -/
def endNumber (form : NumberForm) (s : List Char) : Except Fault (List Char) :=
  let meetsWord := s.head?.any fun c => c.isAlphanum || c = '_'
  if meetsWord ∧ ¬ meetsOperator s then
    .error (.number form)
  else .ok s

/-- What is left behind the digits at the front of `s`, with a single `_` between two of them. -/
def skipDigits : List Char → Except Fault (List Char)
  | [] => .ok []
  | '_' :: rest =>
    match rest with
    | c :: rest => if c.isDigit then skipDigits rest else .error (.number .decimal)
    | [] => .error (.number .decimal)
  | c :: rest => if c.isDigit then skipDigits rest else .ok (c :: rest)

/-- Whether `c` is a digit of a form of numbers. -/
def NumberForm.isDigit (form : NumberForm) (c : Char) : Bool :=
  match form with
  | .binary => c = '0' || c = '1'
  | .octal => '0' ≤ c && c ≤ '7'
  | .hexadecimal => (hexValue? c).isSome
  | _ => c.isDigit

/-- What is wrong where a digit is missing in front of `s`. -/
def NumberForm.missingDigit (form : NumberForm) (s : List Char) : Fault :=
  match s with
  | c :: _ => if c.isDigit then .digit c form else .number form
  | [] => .number form

/-- What is left behind a number of a form other than the decimal one, from its digits on; a digit
has to follow if `due`. -/
def skipForm (form : NumberForm) (due : Bool) : List Char → Except Fault (List Char)
  | [] => if due then .error (.number form) else .ok []
  | '_' :: rest =>
    match rest with
    | c :: rest =>
      if form.isDigit c then skipForm form false rest else .error (form.missingDigit (c :: rest))
    | [] => .error (.number form)
  | c :: rest =>
    if form.isDigit c then skipForm form false rest
    else if due ∨ c.isDigit then .error (form.missingDigit (c :: rest))
    else endNumber form (c :: rest)

/-- What is left behind a number that ends here, unless it is imaginary. -/
def skipImaginary (s : List Char) : Except Fault (List Char) :=
  match s with
  | [] => .ok []
  | c :: rest =>
    if c = 'j' ∨ c = 'J' then endNumber .imaginary rest else endNumber .decimal s

/-- What is left behind a number, from its exponent on. -/
def skipExponent (s : List Char) : Except Fault (List Char) :=
  match s with
  | [] => .ok []
  | c :: rest =>
    if c = 'e' ∨ c = 'E' then
      let (_, digits) := splitSign rest
      if digits.head?.any Char.isDigit then (skipDigits digits).bind skipImaginary
      else if digits.length < rest.length then .error (.number .decimal)
      else endNumber .decimal s
    else skipImaginary s

/-- What is left behind a number, from its point on. -/
def skipFraction (s : List Char) : Except Fault (List Char) :=
  match s with
  | '.' :: rest =>
    if rest.head?.any Char.isDigit then (skipDigits rest).bind skipExponent
    else skipExponent rest
  | s => skipExponent s

/-- What is left behind a number that begins with `0`, from the next character on.  It may have more
zeros in front, but other digits only if it is no integer. -/
def skipZeroNumber (s : List Char) : Except Fault (List Char) :=
  match s with
  | [] => .ok []
  | c :: rest =>
    if c = 'x' ∨ c = 'X' then skipForm .hexadecimal true rest
    else if c = 'o' ∨ c = 'O' then skipForm .octal true rest
    else if c = 'b' ∨ c = 'B' then skipForm .binary true rest
    else do
      let left ← skipDigits s
      let digits := s.take (s.length - left.length)
      let isInteger := ¬ left.head?.any (· ∈ ['.', 'e', 'E', 'j', 'J'])
      if isInteger ∧ digits.any fun d => d ≠ '0' ∧ d ≠ '_' then throw .leadingZero
      skipFraction left

/-- What is left behind the number that begins with a digit or a point at the front of `s`. -/
def skipNumber (s : List Char) : Except Fault (List Char) :=
  match s with
  | '0' :: rest => skipZeroNumber rest
  | s => (skipDigits s).bind skipFraction

/-! ### Texts -/

/-- A text between quotes. -/
structure QuotedText where
  /-- The letters in front of the quote, in lower case: `b` for bytes, `r` for a text without
  escapes, `f` for a text with placeholders. -/
  letters : List Char
  content : List Char
  deriving DecidableEq

/-- Whether letters directly in front of a quote belong to the text. -/
def isTextKind (s : List Char) : Bool :=
  String.ofList s ∈ ["", "r", "b", "u", "f", "br", "rb", "fr", "rf"]

/-- What stands in front of the quotes that close a text, and what is left behind them.  A text that
is not `long` has to be closed in its line. -/
def textEnd? (quote : Char) (long : Bool) : List Char → Option (List Char × List Char)
  | [] => none
  | c :: rest =>
    let closed := if long then [quote, quote, quote].isPrefixOf (c :: rest) else c = quote
    if closed then some ([], if long then rest.drop 2 else rest)
    else if c = '\n' ∧ ¬ long then none
    else if c = '\\' then
      match rest with
      | [] => none
      | d :: rest => (textEnd? quote long rest).map fun (s, left) => (c :: d :: s, left)
    else (textEnd? quote long rest).map fun (s, left) => (c :: s, left)

/-- The text whose first quote is at the front, and what is left behind it. -/
def quotedText? (letters : List Char) (quote : Char) (s : List Char) :
    Option (QuotedText × List Char) :=
  let long := [quote, quote, quote].isPrefixOf s
  (textEnd? quote long (s.drop (if long then 3 else 1))).map fun (content, left) =>
    (⟨letters, content⟩, left)

/-- The number of lines up to where an open text is found to be open. -/
def openLines (long : Bool) : List Char → Nat
  | [] => 0
  | '\\' :: '\n' :: rest => openLines long rest + 1
  | '\\' :: _ :: rest => openLines long rest
  | '\n' :: rest => if long then openLines long rest + 1 else 0
  | _ :: rest => openLines long rest

/-! ### Tokens -/

/-- What a token is. -/
inductive Lexeme where
  | name (word : String)
  /-- A number; the digits count if it is a decimal integer. -/
  | number (digits : Option Nat) (imaginary : Bool)
  | text (value : QuotedText)
  | mark (text : String)
  | lineEnd
  | indent
  /-- Nothing follows. -/
  | finish
  /-- What follows cannot be a token.  If it is `urgent`, the fault comes before those of the tokens
  in front. -/
  | broken (fault : Fault) (urgent : Bool)
  deriving DecidableEq

/-- Whether the character behind a lexeme tells that it ends.  A text ends with its quote, but two
quotes could be the first of three. -/
def Lexeme.looksAhead : Lexeme → Bool
  | text value => value.content = []
  | _ => true

/-- A token: what it is, its line, and the number of brackets that are open behind it. -/
structure Token where
  lexeme : Lexeme
  line : Nat
  depth : Nat
  deriving DecidableEq

/-- The words with a meaning of their own. -/
def keywords : List String :=
  ["False", "None", "True", "and", "as", "assert", "async", "await", "break", "class", "continue",
   "def", "del", "elif", "else", "except", "finally", "for", "from", "global", "if", "import", "in",
   "is", "lambda", "nonlocal", "not", "or", "pass", "raise", "return", "try", "while", "with",
   "yield"]

/-- The marks of more than one character, a longer one before those it begins with. -/
def longMarks : List String :=
  ["...", "**=", "//=", "<<=", ">>=", "!=", "%=", "&=", "**", "*=", "+=", "-=", "->", "//", "/=",
   ":=", "<<", "<=", "<>", "==", ">=", ">>", "@=", "^=", "|="]

/-- The mark at the front of a text that begins with `c`. -/
def markAt (c : Char) (s : List Char) : List Char :=
  match longMarks.find? (·.toList.isPrefixOf s) with
  | some mark => mark.toList
  | none => [c]

/-- The most brackets that may be open at once. -/
def maxDepth : Nat := 200

/-- The bracket that closes what `opening` opens. -/
def closingOf (opening : Char) : Char :=
  if opening = '(' then ')' else '\x7d'

/-- Where a scan stands. -/
structure Place where
  /-- How many characters belong to the latest token still. -/
  skipped : Nat
  line : Nat
  /-- The brackets that are open, each with its line, the latest first. -/
  opened : List (Char × Nat)
  /-- Whether no token of the line has been found yet. -/
  fresh : Bool
  /-- Whether the next character has been looked at to see that the latest token ends. -/
  looked : Bool

/-- The place behind a token of which `size` more characters follow. -/
def Place.behind (place : Place) (size : Nat) (looked : Bool) : Place :=
  { place with skipped := size, fresh := false, looked := looked }

/-- The token of a lexeme at a place. -/
def Place.token (place : Place) (lexeme : Lexeme) : Token :=
  ⟨lexeme, place.line, place.opened.length⟩

/-- What has been taken apart: tokens, and the bracket that is still open behind them, with its
line. -/
structure Scan where
  tokens : List Token
  opened : Option (Char × Nat)
  /-- Whether the end has been seen with the latest token in front of it. -/
  endSeen : Bool

/-- The scan with a token in front. -/
def Scan.push (token : Token) (scan : Scan) : Scan :=
  { scan with tokens := token :: scan.tokens }

/-- The scan that ends at a place where there is no token. -/
def Place.broken (place : Place) (fault : Fault) (urgent : Bool) : Scan :=
  ⟨[place.token (.broken fault urgent)], place.opened.head?, false⟩

/-- The scan that ends at the end of a text. -/
def Place.finish (place : Place) : Scan :=
  match place.opened with
  | [] =>
    let line := if place.fresh then [] else [place.token .lineEnd]
    ⟨line ++ [place.token .finish], none, place.looked⟩
  | (opening, _) :: _ =>
    { place.broken (.neverClosed opening) false with endSeen := place.looked }

/-- The lexeme of a word, and how many characters it has. -/
def wordAt (s : List Char) : Except Fault (Lexeme × Nat) :=
  let word := s.takeWhile isNameCharacter
  if String.ofList word ∈ keywords then .ok (.mark (String.ofList word), word.length)
  else match nameFault? word with
    | some c => .error (.character c)
    | none => .ok (.name (String.ofList word), word.length)

/-- The lexeme of a number, and how many characters it has. -/
def numberAt (s : List Char) : Except Fault (Lexeme × Nat) :=
  (skipNumber s).map fun left =>
    let text := s.take (s.length - left.length)
    let digits := text.filter (· ≠ '_')
    let imaginary := text.getLast?.any (· ∈ ['j', 'J'])
    (.number (if digits.all Char.isDigit then some digits.length else none) imaginary, text.length)

/-- The lexeme of a text behind its letters, and how many characters it has, the letters not
counted. -/
def textAt (place : Place) (letters : List Char) (quote : Char) (s : List Char) :
    Except Fault (Lexeme × Nat) :=
  match quotedText? letters quote s with
  | some (value, left) => .ok (.text value, s.length - left.length)
  | none =>
    let long := [quote, quote, quote].isPrefixOf s
    .error (.openText long (place.line + openLines long (s.drop (if long then 3 else 1))))

/-- The lexeme at the front of `c :: rest`, which is no quoted text, and how many characters it
has. -/
def plainLexemeAt (c : Char) (rest : List Char) : Except Fault (Lexeme × Nat) :=
  let s := c :: rest
  if c.isDigit ∨ (c = '.' ∧ rest.head?.any Char.isDigit) then numberAt s
  else if isNameCharacter c then wordAt s
  else if !isPrintable c then .error (.character c)
  else .ok (.mark (String.ofList (markAt c s)), (markAt c s).length)

/-- The lexeme at the front of `c :: rest`, which is no bracket, and how many characters it has. -/
def lexemeAt (place : Place) (c : Char) (rest : List Char) : Except Fault (Lexeme × Nat) :=
  let s := c :: rest
  let letters := s.takeWhile Char.isAlpha
  let kind := letters.map Char.toLower
  let behind := s.drop letters.length
  if isTextKind kind ∧ behind.head?.any (· ∈ ['"', '\'']) then
    (textAt place kind (behind.headD '"') behind).map fun (lexeme, size) =>
      (lexeme, letters.length + size)
  else plainLexemeAt c rest

/-- Whether a line begins with spaces, and has more than a comment. -/
def isIndented (s : List Char) : Bool :=
  let spaces := s.takeWhile fun c => c = ' ' || c = '\t'
  spaces ≠ [] && (s.drop spaces.length).head?.any fun c => c ≠ '\n' && c ≠ '#'

/-- The place behind an opening bracket, if one more may be open. -/
def Place.enter (place : Place) (c : Char) : Option Place :=
  if maxDepth ≤ place.opened.length then none
  else some { place.behind 0 true with opened := (c, place.line) :: place.opened }

/-- The place behind a closing bracket, if it matches the one that is open. -/
def Place.leave (place : Place) (c : Char) : Except Fault Place :=
  match place.opened with
  | [] => .error (.unmatched c)
  | (opening, line) :: outer =>
    if closingOf opening = c then .ok { place.behind 0 true with opened := outer }
    else .error (.mismatched c opening (if line = place.line then none else some line))

/-- The scan of a text from a place on.  Where a line is continued by a backslash, nothing but the
end of the line may follow it. -/
def scanFrom (place : Place) : List Char → Scan
  | [] => place.finish
  | c :: rest =>
    if 0 < place.skipped then
      let line := if c = '\n' then place.line + 1 else place.line
      scanFrom { place with skipped := place.skipped - 1, line := line } rest
    else if c = '\n' then
      let between := place.opened ≠ []
      let next := { place with line := place.line + 1, fresh := !between, looked := false }
      let scan := scanFrom next rest
      let scan := if !between ∧ isIndented rest then scan.push (next.token .indent) else scan
      if between ∨ place.fresh then scan else scan.push (place.token .lineEnd)
    else if c = ' ' ∨ c = '\t' ∨ c = '\x0c' then scanFrom { place with looked := false } rest
    else if c = '#' then
      let skipped := (rest.takeWhile (· ≠ '\n')).length
      scanFrom { place with skipped := skipped, looked := false } rest
    else if c = '\\' then
      if rest.head? ≠ some '\n' then place.broken .continuation false
      else if rest.length = 1 then
        match place.opened with
        | [] => place.broken .endOfText false
        | (opening, _) :: _ => place.broken (.neverClosed opening) false
      else scanFrom (place.behind 1 false) rest
    else if c = '(' ∨ c = '\x7b' then
      match place.enter c with
      | none => place.broken .tooDeep true
      | some next => (scanFrom next rest).push (next.token (.mark (String.singleton c)))
    else if c = ')' ∨ c = '\x7d' then
      match place.leave c with
      | .error fault => place.broken fault true
      | .ok next => (scanFrom next rest).push (next.token (.mark (String.singleton c)))
    else
      match lexemeAt place c rest with
      | .error fault => place.broken fault true
      | .ok (lexeme, size) =>
        (scanFrom (place.behind (size - 1) lexeme.looksAhead) rest).push (place.token lexeme)

/-- The text with a line feed for each end of a line. -/
def unifyLineEnds : List Char → List Char
  | '\r' :: '\n' :: rest => '\n' :: unifyLineEnds rest
  | '\r' :: rest => '\n' :: unifyLineEnds rest
  | c :: rest => c :: unifyLineEnds rest
  | [] => []

/-- The scan of parameters; the last token is a `finish` or a `broken` one. -/
def scan (s : List Char) : Scan :=
  scanFrom ⟨0, 1, [], true, false⟩ (unifyLineEnds s)

end Parameters

end ContractDrill
