import ContractDrill.Screen.Parameters.Grammar
import ContractDrill.Text.WordCharacter

/-!
# Parameters of tags

A tag whose name begins with `@` hands its parameters to whatever acts on its text.  They are an
expression without names, or a name with arguments in parentheses, and are read when the tag is
closed.

`Parameters.fault?` says what is wrong with parameters: with their tokens, with the expression, or
with its value.  An urgent fault of a token comes before those of the expression, wherever it
stands, and a bracket that is open in an earlier line than the fault comes before it.
-/

namespace ContractDrill

namespace Parameters

/-! ### Values -/

mutual

/-- What reports call the value of a node if it is of a kind that cannot be looked up. -/
def valueKind : Node → Except Fault (Option String)
  | .constant _ | .number _ | .signed _ => .ok none
  | .tuple items => valueKinds items
  | .set items => (lookUpItems items).map fun _ => some "set"
  | .dictionary items => (lookUpKeys items).map fun _ => some "dict"
  | .call (.name "set") true => .ok (some "set")
  | .nothing => .error .unpacked
  | _ => .error .valueless

/-- The first kind among values that cannot be looked up. -/
def valueKinds : List Node → Except Fault (Option String)
  | [] => .ok none
  | item :: rest => do
    let kind ← valueKind item
    return kind.or (← valueKinds rest)

/-- Puts values into a set. -/
def lookUpItems : List Node → Except Fault Unit
  | [] => .ok ()
  | item :: rest => do
    if let some kind ← valueKind item then throw (.unhashable kind)
    lookUpItems rest

/-- Puts values into a dictionary, behind their keys. -/
def lookUpKeys : List Node → Except Fault Unit
  | key :: value :: rest => do
    let kind ← valueKind key
    let _ ← valueKind value
    if let some kind := kind then throw (.unhashable kind)
    lookUpKeys rest
  | _ => .ok ()

end

/-- What is wrong with the value of a node. -/
def valueFault? (node : Node) : Option Fault :=
  match valueKind node with
  | .error fault => some fault
  | .ok _ => none

/-! ### Expressions -/

/-- The fault to report in place of one that has been found when tokens up to some place had been
looked at. -/
def overruled (scan : Scan) (wrong : Blame) : Fault :=
  match scan.tokens.getLast?.map Token.lexeme, scan.opened, scan.tokens[wrong.reach]? with
  | some (.broken fault urgent), opened, some token =>
    if urgent ∨ wrong.fault = fault then fault
    else match opened with
      | some (opening, line) => if line < token.line then .neverClosed opening else wrong.fault
      | none => wrong.fault
  | _, _, _ => wrong.fault

/-- The fault to report in place of one that a reader has found.  It stands if the end had been seen
by then. -/
def reported (scan : Scan) (wrong : Blame) : Fault :=
  if scan.endSeen ∧ scan.tokens.length = wrong.reach + 2 then wrong.fault
  else overruled scan wrong

/-- What `reader` finds in tokens, or what is wrong with them. -/
def readScan (scan : Scan) (reader : Reader Node) : Except Fault Node :=
  let tokens := scan.tokens.toArray
  match reader tokens ⟨0, 0, false, ∅⟩ with
  | .error wrong => .error (reported scan wrong)
  | .ok (some node, _) => .ok node
  | .ok (none, first) =>
    match reader tokens ⟨0, first.reach, true, ∅⟩ with
    | .error wrong => .error (reported scan wrong)
    | .ok (_, second) =>
      if (tokens[first.reach]?.map Token.lexeme) = some .indent then .error .indented
      else .error (overruled scan ⟨.malformed, second.reach⟩)

/-- What is wrong with the expression of a placeholder, in which placeholders are nested at most
`depth` times.  It is read as if it stood in parentheses. -/
def placeholderFault? : (depth : Nat) → List Char → Option Fault
  | 0, _ => none
  | depth + 1, s =>
    let scan := scan ('(' :: s ++ [')'])
    match readScan scan (Grammar.read (placeholderFault? depth) .starredExpressions) with
    | .error fault => some fault.enclosed
    | .ok _ => none

/-- What is wrong with a value. -/
def fault? (s : List Char) : Option Fault :=
  if '\x00' ∈ s then some .nullCharacter
  else match readScan (scan s) (Grammar.readAll (placeholderFault? s.length)) with
    | .error fault => some fault
    | .ok node => valueFault? node

/-! ### Handlers -/

/-- Whether `c` may stand in the name of a handler. -/
def isHandlerPart (c : Char) : Bool :=
  isWordCharacter c || c = '.'

/-- The value among parameters: all of them, or the arguments of a name without white space. -/
def value (parameters : List Char) : List Char :=
  let trimmed := trimBy isBlank parameters
  match trimmed.dropWhile isHandlerPart with
  | [] => ['(', ')']
  | arguments =>
    if arguments.head? = some '(' ∧ arguments.getLast? = some ')' ∧ '\n' ∉ arguments then arguments
    else trimmed

end Parameters

end ContractDrill
