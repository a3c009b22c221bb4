import ContractDrill.Screen.Parameters.Signature

/-!
# Grammar of expressions

The value of parameters is written as an expression: numbers, texts and names, with operators,
calls, and displays of tuples, sets and dictionaries.

An expression is read once to see whether it is one.  If not, it is read a second time by readers
that explain: they also know phrases that are often written by mistake, and tell what is wrong with
them.  A few of these are known to the first readers as well.
-/

namespace ContractDrill

namespace Parameters

namespace Grammar

open Reader

/-- Texts in a row; `expressionFault?` says what is wrong with an expression in a placeholder. -/
def texts (expressionFault? : List Char → Option Fault) : Reader Node := do
  let first ← text
  let rest ← repeated text
  match textsFault? expressionFault? first.isBytes (first :: rest) with
  | some fault => blame fault
  | none =>
    if (first :: rest).any QuotedText.hasPlaceholders then return .other "f-string expression"
    else return .constant "literal"

section

variable (read : Phrase → Reader Node)

/-! ### Lists -/

/-- One phrase, or several with commas. -/
def listOf (phrase : Phrase) : Reader Node := do
  let first ← read phrase
  let rest ← repeated do mark ","; read phrase
  let comma ← attempt (mark ",")
  if rest.isEmpty ∧ comma.isNone then return first else return .tuple (first :: rest)

/-- Items of a display, with a comma behind the last one or not. -/
def itemsOf (phrase : Phrase) : Reader (List Node) := do
  let items ← commaSeparated (read phrase)
  let _ ← attempt (mark ",")
  return items

/-- An operand behind a star. -/
def starredOperand : Reader Node := do
  mark "*"
  return .starred (← read .operand)

/-- An expression behind a star. -/
def starred : Reader Node := do
  mark "*"
  match ← attempt (read .expression) with
  | some node => return .starred node
  | none => blame .bareStar

/-! ### Operators -/

/-- Phrases with operators between them; two or more of them have to be worked out. -/
def chain (phrase : Phrase) (operators : List String) : Reader Node := do
  let first ← read phrase
  let rest ← repeated do let _ ← anyMark operators; read phrase
  if rest.isEmpty then return first else return .other "expression"

/-- An operator that compares. -/
def comparator : Reader String :=
  firstOf [anyMark ["==", "!=", "<=", "<", ">=", ">"],
    do mark "not"; mark "in"; return "not in",
    do mark "in"; return "in",
    do mark "is"; mark "not"; return "is not",
    do mark "is"; return "is"]

/-- Operands that are compared. -/
def comparison : Reader Node := do
  let first ← read .operand
  let rest ← repeated do
    let operator ← comparator
    let _ ← read .operand
    return operator
  match rest with
  | [] => return first
  | operator :: _ =>
    if operator = "in" then return .membership first else return .other "comparison"

/-- The operators between two operands. -/
def operators : List String :=
  ["|", "^", "&", "<<", ">>", "+", "-", "*", "/", "//", "%", "@"]

/-- An operand, possibly made of others.  A number that has both parts is a value. -/
def operand : Reader Node := do
  let first ← read .factor
  let rest ← repeated do
    let operator ← anyMark operators
    return (operator, ← read .factor)
  match rest with
  | [] => return first
  | [(operator, .number true)] =>
    if operator ∈ ["+", "-"] ∧ first.isReal then return .constant "expression"
    else return .other "expression"
  | _ => return .other "expression"

/-- An operand, possibly behind signs. -/
def factor : Reader Node :=
  firstOf [do
      let sign ← anyMark ["+", "-", "~"]
      match ← read .factor with
      | .number imaginary =>
        if sign = "~" then return .other "expression" else return .signed imaginary
      | _ => return .other "expression",
    read .power]

/-- An operand, possibly with an exponent. -/
def power : Reader Node :=
  firstOf [do
      let _ ← read .awaited
      mark "**"
      let _ ← read .factor
      return .other "expression",
    read .awaited]

/-- An operand, possibly one that is awaited. -/
def awaited : Reader Node :=
  firstOf [do
      mark "await"
      let _ ← read .primary
      return .other "await expression",
    read .primary]

/-- A negation, or a comparison. -/
def inversion : Reader Node :=
  firstOf [do
      mark "not"
      let _ ← read .inversion
      return .other "expression",
    read .comparison]

/-! ### Operands -/

/-- What comes of an operand and what follows it: a member, or arguments. -/
def trailer (node : Node) : Reader Node :=
  firstOf [do
      mark "."
      let _ ← name
      return .other "attribute",
    do
      let _ ← read .generator
      return .call node false,
    do
      mark "("
      let arguments ← attempt (read .arguments)
      mark ")"
      return .call node arguments.isNone]

/-- An atom with what follows it. -/
def primary : Reader Node := do
  let atom ← read .atom
  fun tokens => stepping (trailer read) tokens.size atom tokens

/-- What an expression is made of. -/
def atom : Reader Node := do
  match ← next with
  | .name _ => name
  | .number digits imaginary =>
    if digits.any (maxNumeralDigits < ·) then blame (.tooLong (digits.getD 0))
    else advance; return .number imaginary
  | .text _ => read .texts
  | .mark "..." => advance; return .constant "ellipsis"
  | .mark "(" => firstOf [read .tuple, read .group, read .generator]
  | .mark "\x7b" => firstOf [read .dictionary, read .set, read .dictionaryLoop, read .setLoop]
  | .mark word => if word ∈ ["True", "False", "None"] then advance; return .constant word else fail
  | _ => fail

/-! ### Expressions -/

/-- A function without a name. -/
def function : Reader Node := do
  mark "lambda"
  let _ ← attempt (signature read)
  mark ":"
  let _ ← read .expression
  return .other "lambda"

/-- A name that is a word with a meaning in some places. -/
def softWord : Reader Unit := do
  match ← name with
  | .name word => if word ∉ ["_", "case", "match"] then fail
  | _ => fail

/-- What is wrong where two expressions stand side by side, or where an alternative has only one
side. -/
def misread : Reader Node := do
  let beside ← attempt do
    without (firstOf [do let _ ← name; let _ ← text, softWord])
    let first ← read .disjunction
    let _ ← read .bareExpression
    return (first, ← depth)
  match beside with
  | some (first, depth) =>
    if first.command?.isSome ∨ depth = 0 then fail else blame .missingComma
  | none => do
    let _ ← read .disjunction
    mark "if"
    let _ ← read .disjunction
    without (anyMark ["else", ":"])
    blame .missingElse

/-- What is wrong where a command is no call. -/
def miscalled : Reader Node := do
  let first ← name
  without (mark "(")
  let _ ← read .starredExpressions
  match first.command? with
  | some command => blame (.missingParentheses command)
  | none => fail

/-- An expression with an alternative. -/
def conditional : Reader Node := do
  let _ ← read .disjunction
  mark "if"
  let _ ← read .disjunction
  mark "else"
  let _ ← read .expression
  return .other "conditional expression"

/-- An expression, its commas aside. -/
def bareExpression : Reader Node :=
  firstOf [conditional read, read .disjunction, read .function]

/-- An expression, its commas aside, with what is wrong with it. -/
def expression : Reader Node :=
  firstOf [explaining (misread read), explaining (miscalled read), bareExpression read]

/-- What is put in front of a value: the name it is given. -/
def assignment : Reader Node := do
  let _ ← name
  mark ":="
  let _ ← read .expression
  return .other "named expression"

/-- An expression that is given no name. -/
def nameless : Reader Node := do
  let node ← read .expression
  without (mark ":=")
  return node

/-- What is wrong where a name is given to an expression. -/
def misnamed : Reader Node :=
  firstOf [do
      let target ← read .expression
      mark ":="
      let _ ← read .expression
      blame (.misnamed target.called),
    do
      let _ ← name
      mark "="
      let _ ← read .operand
      without (anyMark ["=", ":="])
      blame .assignedName,
    do
      without (firstOf [read .tuple, read .generator, do
        let _ ← anyMark ["True", "None", "False"]
        return .nothing])
      let target ← read .operand
      mark "="
      let _ ← read .operand
      without (anyMark ["=", ":="])
      blame (.assigned target.called)]

/-- An expression that may be given a name. -/
def named : Reader Node :=
  firstOf [read .assignment, explaining (read .misnamed), nameless read]

/-! ### Parentheses -/

/-- What gives back values in turn. -/
def yielding : Reader Node := do
  mark "yield"
  let _ ← firstOf [do mark "from"; let _ ← read .expression,
    do let _ ← attempt (read .starredExpressions)]
  return .other "yield expression"

/-- What is wrong where a star stands in parentheses. -/
def misgrouped : Reader Node :=
  firstOf [do
      mark "("
      let _ ← starred read
      mark ")"
      blame .starred,
    do
      mark "("
      mark "**"
      let _ ← read .expression
      mark ")"
      blame .doubleStarred]

/-- An expression in parentheses. -/
def group : Reader Node :=
  firstOf [do
      mark "("
      let node ← firstOf [yielding read, read .named]
      mark ")"
      return node,
    explaining (misgrouped read)]

/-- Items in parentheses, one of them with a comma. -/
def tuple : Reader Node := do
  mark "("
  let items ← attempt do
    let first ← read .item
    mark ","
    let rest ← attempt (itemsOf read .item)
    return first :: rest.getD []
  mark ")"
  return .tuple (items.getD [])

/-! ### Loops -/

/-- What takes the values of a loop. -/
def target : Reader Node := do
  let _ ← attempt (mark "*")
  let node ← read .primary
  if node.isTarget then return node else fail

/-- One loop with its conditions. -/
def loop : Reader Node := do
  let _ ← attempt (mark "async")
  mark "for"
  let takes ← attempt do
    let _ ← listOf read .target
    mark "in"
  match takes with
  | some _ =>
    let _ ← read .disjunction
    let _ ← repeated do mark "if"; read .disjunction
    return .nothing
  | none => explaining do
    match (← read .starredExpressions).noTarget? with
    | some node => blame (.assignedTarget node.called)
    | none => fail

/-- Loops with conditions. -/
def loops : Reader Node := do
  let first ← loop read
  let rest ← repeated (loop read)
  return .tuple (first :: rest)

/-- What is wrong where items are made by a loop. -/
def mislooped : Reader Node :=
  firstOf [do
      let _ ← anyMark ["(", "\x7b"]
      let _ ← starred read
      let _ ← read .loops
      blame .starredItem,
    do
      mark "\x7b"
      let _ ← read .item
      mark ","
      let _ ← itemsOf read .item
      let _ ← read .loops
      blame .bareTarget,
    do
      mark "\x7b"
      let _ ← read .item
      mark ","
      let _ ← read .loops
      blame .bareTarget]

/-- Values in turn, made by a loop in parentheses. -/
def generator : Reader Node :=
  firstOf [do
      mark "("
      let _ ← firstOf [read .assignment, nameless read]
      let _ ← read .loops
      mark ")"
      return .other "generator expression",
    explaining (mislooped read)]

/-! ### Braces -/

/-- A key and its value, or a dictionary to put in. -/
def entry : Reader (List Node) :=
  firstOf [do
      mark "**"
      let node ← read .operand
      return [.nothing, node],
    do return (← read .pair).items]

/-- What is wrong with the value behind a key. -/
def misvalued : Reader Node :=
  firstOf [do
      let _ ← read .expression
      mark ":"
      let _ ← starredOperand read
      blame .starredValue,
    do
      let _ ← read .expression
      mark ":"
      let found ← ahead (anyMark ["\x7d", ","])
      if found.isSome then blame .missingValue else fail]

/-- What is wrong with the entries of a dictionary. -/
def misentered : Reader Node :=
  firstOf [do
      let _ ← commaSeparated (entry read)
      mark ","
      firstOf [do
          let _ ← read .expression
          without (mark ":")
          blame .missingColon,
        misvalued read],
    misvalued read]

/-- Entries in braces. -/
def dictionary : Reader Node :=
  firstOf [do
      mark "\x7b"
      let entries ← attempt do
        let entries ← commaSeparated (entry read)
        let _ ← attempt (mark ",")
        return entries
      mark "\x7d"
      return .dictionary (entries.getD []).flatten,
    do
      mark "\x7b"
      misentered read]

/-- Items in braces. -/
def set : Reader Node := do
  mark "\x7b"
  let items ← itemsOf read .item
  mark "\x7d"
  return .set items

/-- A dictionary made by a loop. -/
def dictionaryLoop : Reader Node :=
  firstOf [do
      mark "\x7b"
      let _ ← read .pair
      let _ ← read .loops
      mark "\x7d"
      return .other "dict comprehension",
    explaining do
      mark "\x7b"
      mark "**"
      let _ ← read .operand
      let _ ← read .loops
      mark "\x7d"
      blame .doubleStarredItem]

/-- A set made by a loop. -/
def setLoop : Reader Node :=
  firstOf [do
      mark "\x7b"
      let _ ← read .named
      let _ ← read .loops
      mark "\x7d"
      return .other "set comprehension",
    explaining (mislooped read)]

/-! ### Arguments -/

/-- What is wrong with an argument that has a name. -/
def misargued : Reader Node :=
  firstOf [do
      let word ← anyMark ["True", "False", "None"]
      mark "="
      blame (.assignedWord word),
    do
      let _ ← name
      mark "="
      let _ ← read .expression
      let _ ← read .loops
      blame .assignedName,
    do
      without do let _ ← name; mark "="
      let _ ← read .expression
      mark "="
      blame .assignedArgument]

/-- An argument with a name. -/
def namedArgument : Reader Node :=
  firstOf [explaining (misargued read), do
    let _ ← name
    mark "="
    let _ ← read .expression
    return .other "named argument"]

/-- An argument with a name, or items to put in. -/
def starredOrNamed : Reader Node :=
  firstOf [namedArgument read, starred read]

/-- An argument with a name, or a dictionary to put in. -/
def mappingOrNamed : Reader Node :=
  firstOf [namedArgument read, do
    mark "**"
    let _ ← read .expression
    return .other "mapping"]

/-- Arguments with names, and behind them those of dictionaries. -/
def namedArguments : Reader (List Node) :=
  firstOf [do
      let first ← commaSeparated (starredOrNamed read)
      mark ","
      return first ++ (← commaSeparated (mappingOrNamed read)),
    commaSeparated (starredOrNamed read),
    commaSeparated (mappingOrNamed read)]

/-- Arguments: first those without names. -/
def argumentList : Reader Node :=
  firstOf [do
      let first ← commaSeparated (firstOf [starred read, do
        let node ← firstOf [read .assignment, nameless read]
        without (mark "=")
        return node])
      let rest ← attempt do mark ","; namedArguments read
      return .tuple (first ++ rest.getD []),
    do return .tuple (← namedArguments read)]

/-- What is wrong with an argument behind others. -/
def misplaced : Reader Node :=
  firstOf [do
      let _ ← read .argumentList
      mark ","
      let _ ← read .expression
      let _ ← read .loops
      blame .bareGenerator,
    do
      let first ← read .argumentList
      mark ","
      let _ ← read .argumentList
      blame (.positionalAfterNamed (first.items.any (Node.isOther "mapping")))]

/-- What is wrong with arguments.  A loop may stand in for arguments only if it is the only one. -/
def misarranged : Reader Node :=
  firstOf [do
      let _ ← read .argumentList
      mark ","
      mark "*"
      blame .starredAfterNamed,
    do
      let _ ← read .expression
      let _ ← read .loops
      mark ","
      let _ ← attempt (firstOf [read .argumentList, do
        let _ ← read .expression
        read .loops])
      blame .bareGenerator,
    do
      let _ ← name
      mark "="
      let _ ← read .expression
      let _ ← read .loops
      blame .assignedName,
    do
      let before ← attempt do
        let node ← read .argumentList
        let _ ← read .loops
        return node.items.countP fun item => !item.isNamed
      match before with
      | some count => if 1 < count then blame .bareGenerator else fail
      | none => misplaced read]

/-- Arguments up to a parenthesis. -/
def arguments : Reader Node :=
  firstOf [do
      let node ← read .argumentList
      let _ ← attempt (mark ",")
      let closed ← ahead (mark ")")
      if closed.isSome then return node else fail,
    explaining (misarranged read)]

end

/-! ### Phrases -/

section

variable (expressionFault? : List Char → Option Fault)

/-- Reads a phrase; `read` reads the phrases in it. -/
def phrase (read : Phrase → Reader Node) : Phrase → Reader Node
  | .expressions => listOf read .expression
  | .starredExpressions => listOf read .starredExpression
  | .starredExpression => firstOf [starredOperand read, read .expression]
  | .item => firstOf [starredOperand read, read .named]
  | .assignment => assignment read
  | .named => named read
  | .misnamed => misnamed read
  | .expression => expression read
  | .bareExpression => plainly (bareExpression read)
  | .function => function read
  | .disjunction => chain read .conjunction ["or"]
  | .conjunction => chain read .inversion ["and"]
  | .inversion => inversion read
  | .comparison => comparison read
  | .operand => operand read
  | .factor => factor read
  | .power => power read
  | .awaited => awaited read
  | .primary => primary read
  | .atom => atom read
  | .texts => texts expressionFault?
  | .group => group read
  | .tuple => tuple read
  | .generator => generator read
  | .dictionary => dictionary read
  | .set => set read
  | .dictionaryLoop => dictionaryLoop read
  | .setLoop => setLoop read
  | .pair => do
    let key ← read .expression
    mark ":"
    return .tuple [key, ← read .expression]
  | .loops => loops read
  | .target => target read
  | .arguments => arguments read
  | .argumentList => argumentList read

/-- Reads a phrase in which phrases are nested at most `depth` times. -/
def readNested : (depth : Nat) → Phrase → Reader Node
  | 0, _ => fail
  | depth + 1, p =>
    let reader := phrase expressionFault? (readNested depth) p
    if p.isKept then keeping p reader else reader

/-- The number of phrases that may be nested at one token. -/
def phrasesPerToken : Nat := 40

/-- Reads a phrase of tokens. -/
def read (p : Phrase) : Reader Node :=
  fun tokens => readNested expressionFault? (phrasesPerToken * (tokens.size + 1)) p tokens

/-- Reads expressions up to the end. -/
def readAll : Reader Node := do
  let node ← read expressionFault? .expressions
  let _ ← repeated lineEnd
  match ← next with
  | .finish => return node
  | _ => fail

end

end Grammar

end Parameters

end ContractDrill
