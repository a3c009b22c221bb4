import ContractDrill.Screen.Parameters.Content
import Std.Data.HashMap

/-!
# Readers of expressions

A `Reader` reads a phrase of an expression from tokens, and gives a `Node` for it.  It tries the
ways to read a phrase in order and takes the first that fits.  What has been found of a phrase at a
token is kept, so that no phrase is read twice there.

A reader either finds something, or nothing, or that something is wrong; the last ends all reading.
It is wrong to look at a place where no token can be.
-/

namespace ContractDrill

namespace Parameters

/-! ### Nodes -/

/-- What has been read of an expression. -/
inductive Node where
  | name (word : String)
  /-- A value without parts, and what reports call it. -/
  | constant (called : String)
  | number (imaginary : Bool)
  /-- A number behind a sign. -/
  | signed (imaginary : Bool)
  | tuple (items : List Node)
  | set (items : List Node)
  /-- Keys and values in turn. -/
  | dictionary (items : List Node)
  | starred (item : Node)
  /-- Whether a node is in another one. -/
  | membership (item : Node)
  /-- What stands for the key of a dictionary that is put into another one. -/
  | nothing
  /-- A call, with arguments or not. -/
  | call (function : Node) (bare : Bool)
  /-- What has to be worked out, and what reports call it. -/
  | other (called : String)

namespace Node

/-- What reports call a node. -/
def called : Node → String
  | name _ => "name"
  | constant called => called
  | number _ => "literal"
  | signed _ => "expression"
  | tuple _ => "tuple"
  | set _ => "set display"
  | dictionary _ => "dict literal"
  | starred _ => "starred"
  | membership _ => "comparison"
  | nothing => "literal"
  | call _ _ => "function call"
  | other called => called

/-- The parts of a node. -/
def items : Node → List Node
  | tuple items | set items | dictionary items => items
  | _ => []

/-- Whether a node is what has to be worked out and is called so. -/
def isOther (word : String) : Node → Bool
  | other called => called = word
  | _ => false

/-- Whether a node is an argument with a name, or puts in a dictionary of such arguments. -/
def isNamed (node : Node) : Bool :=
  node.isOther "named argument" || node.isOther "mapping"

/-- Whether a node takes the values of a loop. -/
def isTarget : Node → Bool
  | name _ | tuple _ => true
  | node => node.isOther "attribute"

mutual

/-- The part of a node that cannot take the values of a loop. -/
def noTarget? : Node → Option Node
  | name _ => none
  | starred item | membership item => item.noTarget?
  | tuple items => noTargets? items
  | node => if node.isOther "attribute" || node.isOther "comparison" then none else some node

/-- The first part of nodes that cannot take the values of a loop. -/
def noTargets? : List Node → Option Node
  | [] => none
  | node :: rest => node.noTarget?.or (noTargets? rest)

end

/-- Whether a node is a number that is not imaginary, with or without a sign. -/
def isReal : Node → Bool
  | number imaginary | signed imaginary => !imaginary
  | _ => false

/-- The name of a command that is no longer one. -/
def command? : Node → Option String
  | name word => if word ∈ ["print", "exec"] then some word else none
  | _ => none

end Node

/-! ### Phrases -/

/-- The phrases of expressions. -/
inductive Phrase where
  | expressions
  | starredExpressions
  | starredExpression
  | item
  | assignment
  | named
  | misnamed
  | expression
  | bareExpression
  | function
  | disjunction
  | conjunction
  | inversion
  | comparison
  | operand
  | factor
  | power
  | awaited
  | primary
  | atom
  | texts
  | group
  | tuple
  | generator
  | dictionary
  | set
  | dictionaryLoop
  | setLoop
  | pair
  | loops
  | target
  | arguments
  | argumentList
  deriving DecidableEq, Hashable

/-- Whether it is kept what has been found of a phrase at a token. -/
def Phrase.isKept : Phrase → Bool
  | starredExpression | misnamed | expression | disjunction | conjunction | inversion | operand
  | factor | awaited | primary | texts | arguments => true
  | _ => false

/-! ### Readers -/

/-- How far tokens have been read. -/
structure Cursor where
  /-- The place of the next token. -/
  place : Nat
  /-- The last place at which a token has been looked at. -/
  reach : Nat
  /-- Whether mistakes are explained. -/
  explains : Bool
  /-- What has been found: the phrase and where it ends, if there is one. -/
  found : Std.HashMap (Phrase × Nat) (Option (Node × Nat))

/-- What is wrong, and the last place at which a token has been looked at by then. -/
structure Blame where
  fault : Fault
  reach : Nat

/-- A reader of tokens, which may find nothing, or that something is wrong. -/
def Reader (α : Type) : Type :=
  Array Token → Cursor → Except Blame (Option α × Cursor)

namespace Reader

/-- Reads nothing. -/
protected def pure {α : Type} (a : α) : Reader α :=
  fun _ cursor => .ok (some a, cursor)

/-- Reads what follows a phrase. -/
protected def bind {α β : Type} (first : Reader α) (next : α → Reader β) : Reader β :=
  fun tokens cursor =>
    match first tokens cursor with
    | .error wrong => .error wrong
    | .ok (none, cursor) => .ok (none, cursor)
    | .ok (some a, cursor) => next a tokens cursor

instance : Monad Reader where
  pure := Reader.pure
  bind := Reader.bind

variable {α β : Type}

/-- Finds nothing. -/
def fail : Reader α :=
  fun _ cursor => .ok (none, cursor)

/-- Finds something wrong. -/
def blame (fault : Fault) : Reader α :=
  fun _ cursor => .error ⟨fault, cursor.reach⟩

/-- Does what `reader` does, but reads nothing if it finds nothing. -/
def attempt (reader : Reader α) : Reader (Option α) :=
  fun tokens cursor =>
    match reader tokens cursor with
    | .error wrong => .error wrong
    | .ok (none, behind) => .ok (some none, { behind with place := cursor.place })
    | .ok (some a, behind) => .ok (some (some a), behind)

/-- What the first of some readers finds that finds something. -/
def firstOf : List (Reader α) → Reader α
  | [] => fail
  | reader :: rest => do
    match ← attempt reader with
    | some a => return a
    | none => firstOf rest

/-- What `reader` finds, without reading it. -/
def ahead (reader : Reader α) : Reader (Option α) :=
  fun tokens cursor =>
    match attempt reader tokens cursor with
    | .error wrong => .error wrong
    | .ok (found, behind) => .ok (found, { behind with place := cursor.place })

/-- Goes on only if `reader` finds nothing. -/
def without (reader : Reader α) : Reader Unit := do
  if (← ahead reader).isSome then fail

/-- What `reader` finds again and again, at most `count` times. -/
def many (reader : Reader α) : (count : Nat) → Reader (List α)
  | 0 => return []
  | count + 1 => do
    match ← attempt reader with
    | some a => return a :: (← many reader count)
    | none => return []

/-- What `reader` finds again and again. -/
def repeated (reader : Reader α) : Reader (List α) :=
  fun tokens cursor => many reader tokens.size tokens cursor

/-- Reads what `reader` finds, once or more often. -/
def oneOrMore (reader : Reader Unit) : Reader Unit := do
  reader
  let _ ← repeated reader

/-- What comes of a start by steps, as long as one can be read, at most `count` of them. -/
def stepping (step : α → Reader α) : (count : Nat) → α → Reader α
  | 0, a => return a
  | count + 1, a => do
    match ← attempt (step a) with
    | some b => stepping step count b
    | none => return a

/-- What `reader` finds only if mistakes are explained. -/
def explaining (reader : Reader α) : Reader α :=
  fun tokens cursor => if cursor.explains then reader tokens cursor else .ok (none, cursor)

/-- What `reader` finds if mistakes are not explained. -/
def plainly (reader : Reader α) : Reader α :=
  fun tokens cursor =>
    match reader tokens { cursor with explains := false } with
    | .error wrong => .error wrong
    | .ok (found, behind) => .ok (found, { behind with explains := cursor.explains })

/-- What `reader` finds of a phrase, kept for the next time that the phrase is read there. -/
def keeping (phrase : Phrase) (reader : Reader Node) : Reader Node :=
  fun tokens cursor =>
    match cursor.found[(phrase, cursor.place)]? with
    | some (some (node, stop)) => .ok (some node, { cursor with place := stop })
    | some none => .ok (none, cursor)
    | none =>
      match reader tokens cursor with
      | .error wrong => .error wrong
      | .ok (found, behind) =>
        let entry := found.map fun node => (node, behind.place)
        .ok (found,
          { behind with found := behind.found.insert (phrase, cursor.place) entry })

/-! ### Single tokens -/

/-- The next lexeme, without reading it. -/
def next : Reader Lexeme :=
  fun tokens cursor =>
    let looked := { cursor with reach := max cursor.reach cursor.place }
    match tokens[cursor.place]? with
    | none => .ok (none, cursor)
    | some token =>
      match token.lexeme with
      | .broken fault _ => .error ⟨fault, looked.reach⟩
      | lexeme => .ok (some lexeme, looked)

/-- Goes on behind the next token. -/
def advance : Reader Unit :=
  fun _ cursor => .ok (some (), { cursor with place := cursor.place + 1 })

/-- The number of brackets that are open behind the latest token. -/
def depth : Reader Nat :=
  fun tokens cursor => .ok (some ((tokens[cursor.place - 1]?.map Token.depth).getD 0), cursor)

/-- Reads a mark. -/
def mark (text : String) : Reader Unit := do
  if (← next) = .mark text then advance else fail

/-- Reads one of some marks. -/
def anyMark (texts : List String) : Reader String :=
  firstOf (texts.map fun text => do mark text; return text)

/-- Reads a name. -/
def name : Reader Node := do
  match ← next with
  | .name word => advance; return .name word
  | _ => fail

/-- Reads the end of a line. -/
def lineEnd : Reader Unit := do
  if (← next) = .lineEnd then advance else fail

/-- Reads a text. -/
def text : Reader QuotedText := do
  match ← next with
  | .text value => advance; return value
  | _ => fail

/-- What `reader` finds, once or more often with a comma between. -/
def commaSeparated (reader : Reader α) : Reader (List α) := do
  let first ← reader
  let rest ← repeated do mark ","; reader
  return first :: rest

end Reader

end Parameters

end ContractDrill
