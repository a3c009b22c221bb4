import ContractDrill.Text.Numeral

/-!
# Faults of parameters

What can be wrong with the parameters of a tag, and what a report says of it.  A `Fault` is found
while the parameters are taken apart into tokens, while an expression is read from the tokens, or
while its value is made.
-/

namespace ContractDrill

namespace Parameters

/-- How a number is written. -/
inductive NumberForm where
  | binary
  | octal
  | decimal
  | hexadecimal
  | imaginary
  deriving DecidableEq

/-- The word for a form of numbers. -/
def NumberForm.word : NumberForm → String
  | binary => "binary"
  | octal => "octal"
  | decimal => "decimal"
  | hexadecimal => "hexadecimal"
  | imaginary => "imaginary"

/-- What is wrong with an escape in a text. -/
inductive EscapeFault where
  /-- The escape of a character code, begun by a letter, has too few digits. -/
  | truncated (letter : Char)
  /-- There is no character with the code. -/
  | illegal
  /-- A character is named, but there is no name. -/
  | malformed
  /-- No character has the name. -/
  | unknown
  deriving DecidableEq

/-- What a report says of a wrong escape. -/
def EscapeFault.message : EscapeFault → String
  | truncated letter =>
    let digits := if letter = 'x' then 2 else if letter = 'u' then 4 else 8
    "truncated \\" ++ String.ofList (letter :: List.replicate digits 'X') ++ " escape"
  | illegal => "illegal Unicode character"
  | malformed => "malformed \\N character escape"
  | unknown => "unknown Unicode character name"

/-- What is wrong with a placeholder in a text. -/
inductive PlaceholderFault where
  | single
  | notClosed
  | empty
  /-- No expression stands in front of a mark. -/
  | missing (mark : Char)
  | conversion
  | backslash
  | comment
  | unmatched (bracket : Char)
  | mismatched (closing opening : Char)
  | openText
  | tooDeep
  deriving DecidableEq

/-- What a report says of a wrong placeholder. -/
def PlaceholderFault.message : PlaceholderFault → String
  | single => "single '\x7d' is not allowed"
  | notClosed => "expecting '\x7d'"
  | empty => "empty expression not allowed"
  | missing mark => s!"expression required before '{mark}'"
  | conversion => "invalid conversion character: expected 's', 'r', or 'a'"
  | backslash => "expression part cannot include a backslash"
  | comment => "expression part cannot include '#'"
  | unmatched bracket => s!"unmatched '{bracket}'"
  | mismatched closing opening =>
    s!"closing parenthesis '{closing}' does not match opening parenthesis '{opening}'"
  | openText => "unterminated string"
  | tooDeep => "expressions nested too deeply"

/-- Whether a report of the fault names the placeholder as the subject. -/
def PlaceholderFault.isSubject : PlaceholderFault → Bool
  | backslash | comment => true
  | _ => false

/-- What is wrong with the names that a function takes. -/
inductive SignatureFault where
  | missingDefault
  | plainBehindDefault
  | parenthesized
  | nothingBeforeSlash
  | slashTwice
  | slashBehindStar
  | starAtSlash
  | nothingBehindStar
  | starDefault
  | starTwice
  | mappingDefault
  | behindMapping
  deriving DecidableEq

/-- What a report says of a wrong signature. -/
def SignatureFault.message : SignatureFault → String
  | missingDefault => "expected default value expression"
  | plainBehindDefault => "non-default argument follows default argument"
  | parenthesized => "Lambda expression parameters cannot be parenthesized"
  | nothingBeforeSlash => "at least one argument must precede /"
  | slashTwice => "/ may appear only once"
  | slashBehindStar => "/ must be ahead of *"
  | starAtSlash => "expected comma between / and *"
  | nothingBehindStar => "named arguments must follow bare *"
  | starDefault => "var-positional argument cannot have default value"
  | starTwice => "* argument may appear only once"
  | mappingDefault => "var-keyword argument cannot have default value"
  | behindMapping => "arguments cannot follow var-keyword argument"

/-- What is wrong with parameters. -/
inductive Fault where
  -- Brackets.
  | unmatched (closing : Char)
  /-- The bracket that does not fit may have been opened in another line. -/
  | mismatched (closing opening : Char) (line : Option Nat)
  | neverClosed (opening : Char)
  | tooDeep
  -- Characters and words.
  | openText (long : Bool) (line : Nat)
  | character (c : Char)
  | continuation
  | endOfText
  | number (form : NumberForm)
  | digit (c : Char) (form : NumberForm)
  | leadingZero
  | tooLong (digits : Nat)
  -- Contents of texts.
  | mixedTexts
  | nonAscii
  /-- A wrong escape from one place up to the next. -/
  | escape (start stop : Nat) (fault : EscapeFault)
  | byteEscape (start : Nat)
  | placeholder (fault : PlaceholderFault)
  /-- The fault of an expression in a placeholder. -/
  | inside (fault : Fault)
  -- Expressions.
  | malformed
  | indented
  | missingComma
  | missingElse
  | missingParentheses (name : String)
  /-- A name is given to what cannot be named inside of an expression. -/
  | misnamed (target : String)
  | assignedName
  | assigned (target : String)
  | assignedWord (word : String)
  | assignedTarget (target : String)
  | assignedArgument
  | bareStar
  | starred
  | doubleStarred
  | starredValue
  | missingValue
  | missingColon
  | starredItem
  | doubleStarredItem
  | bareTarget
  | bareGenerator
  | starredAfterNamed
  | positionalAfterNamed (mapping : Bool)
  | signature (fault : SignatureFault)
  -- Values.
  | nullCharacter
  | unhashable (kind : String)
  | unpacked
  /-- An expression that has to be worked out. -/
  | valueless
  deriving DecidableEq

/-- The code point of a character as reports write it. -/
def codePoint (c : Char) : String :=
  let size := if c.toNat < 0x10000 then 4 else if c.toNat < 0x100000 then 5 else 6
  "U+" ++ String.ofList ((hexDigits size c.toNat).map Char.toUpper)

/-- What a report says of a fault. -/
def Fault.message : Fault → String
  | unmatched closing => s!"unmatched '{closing}'"
  | mismatched closing opening line =>
    s!"closing parenthesis '{closing}' does not match opening parenthesis '{opening}'" ++
      (line.map fun n => s!" on line {n}").getD ""
  | neverClosed opening => s!"'{opening}' was never closed"
  | tooDeep => "too many nested parentheses"
  | openText long line =>
    (if long then "unterminated triple-quoted string literal" else "unterminated string literal") ++
      s!" (detected at line {line})"
  | character c =>
    if isPrintable c then s!"invalid character '{c}' ({codePoint c})"
    else s!"invalid non-printable character {codePoint c}"
  | continuation => "unexpected character after line continuation character"
  | endOfText => "unexpected EOF while parsing"
  | number form => s!"invalid {form.word} literal"
  | digit c form => s!"invalid digit '{c}' in {form.word} literal"
  | leadingZero =>
    "leading zeros in decimal integer literals are not permitted; " ++
      "use an 0o prefix for octal integers"
  | tooLong digits =>
    digitLimitMessage digits ++
      " - Consider hexadecimal for huge integer literals to avoid decimal conversion limits."
  | mixedTexts => "cannot mix bytes and nonbytes literals"
  | nonAscii => "bytes can only contain ASCII literal characters"
  | escape start stop fault =>
    "(unicode error) 'unicodeescape' codec can't decode bytes in position " ++
      s!"{start}-{stop - 1}: {fault.message}"
  | byteEscape start => s!"(value error) invalid \\x escape at position {start}"
  | placeholder fault => (if fault.isSubject then "f-string " else "f-string: ") ++ fault.message
  | inside fault => "f-string: " ++ fault.message
  | malformed => "invalid syntax"
  | indented => "unexpected indent"
  | missingComma => "invalid syntax. Perhaps you forgot a comma?"
  | missingElse => "expected 'else' after 'if' expression"
  | missingParentheses name =>
    s!"Missing parentheses in call to '{name}'. Did you mean {name}(...)?"
  | misnamed target => s!"cannot use assignment expressions with {target}"
  | assignedName => "invalid syntax. Maybe you meant '==' or ':=' instead of '='?"
  | assigned target => s!"cannot assign to {target} here. Maybe you meant '==' instead of '='?"
  | assignedWord word => s!"cannot assign to {word}"
  | assignedTarget target => s!"cannot assign to {target}"
  | assignedArgument => "expression cannot contain assignment, perhaps you meant \"==\"?"
  | bareStar => "Invalid star expression"
  | starred => "cannot use starred expression here"
  | doubleStarred => "cannot use double starred expression here"
  | starredValue => "cannot use a starred expression in a dictionary value"
  | missingValue => "expression expected after dictionary key and ':'"
  | missingColon => "':' expected after dictionary key"
  | starredItem => "iterable unpacking cannot be used in comprehension"
  | doubleStarredItem => "dict unpacking cannot be used in dict comprehension"
  | bareTarget => "did you forget parentheses around the comprehension target?"
  | bareGenerator => "Generator expression must be parenthesized"
  | starredAfterNamed => "iterable argument unpacking follows keyword argument unpacking"
  | positionalAfterNamed mapping =>
    "positional argument follows keyword argument" ++ if mapping then " unpacking" else ""
  | signature fault => fault.message
  | nullCharacter => "source code string cannot contain null bytes"
  | unhashable kind => s!"unhashable type: '{kind}'"
  | unpacked => "malformed node or string: None"
  | valueless => "malformed node or string"

/-- The fault as one of an expression in a placeholder.  Faults of tokens, and of placeholders
further inside, stay as they are. -/
def Fault.enclosed : Fault → Fault
  | inside fault => .inside fault
  | unmatched closing => .unmatched closing
  | mismatched closing opening line => .mismatched closing opening line
  | tooDeep => .tooDeep
  | openText long line => .openText long line
  | character c => .character c
  | number form => .number form
  | digit c form => .digit c form
  | leadingZero => .leadingZero
  | fault => .inside fault

/-- Whether the parameters can be read, but have no value. -/
def Fault.concernsValue : Fault → Bool
  | nullCharacter | unhashable _ | unpacked | valueless => true
  | _ => false

end Parameters

end ContractDrill
