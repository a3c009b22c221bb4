import ContractDrill.Schema.Record

/-!
# Tasks of the contract

A task is a list of actions that the contract runs for its owner when an interval says so.
`TaskRequest` is what creates one, and `StoredTask` what the contract lists.  Each type is read
from JSON by `ofJson` and written by `toJson`.
-/

namespace ContractDrill

open Schema

/-! ### Coins -/

/-- An amount of a token, as a text, because amounts can exceed every machine integer. -/
structure Coin where
  denom : String
  amount : String
  deriving DecidableEq

/-- The coin that a value describes. -/
def Coin.ofJson : Reader Coin :=
  record fun members =>
    Coin.mk <$> required "denom" text members <*> required "amount" text members

/-- The object that describes a coin. -/
def Coin.toJson (coin : Coin) : Json :=
  .object [("denom", .string coin.denom), ("amount", .string coin.amount)]

/-! ### Boundaries -/

/-- When a task may run: from `start` on, until `finish`, each a free-form object. -/
structure Boundary where
  start : Option Json.Members
  finish : Option Json.Members

/-- The boundary that lets a task run at any time. -/
def Boundary.unbounded : Boundary := ⟨none, none⟩

/-- The boundary that a value describes. -/
def Boundary.ofJson : Reader Boundary :=
  record fun members =>
    Boundary.mk <$> optional "start" none (nullable freeForm) members
      <*> optional "end" none (nullable freeForm) members

/-- The object that describes a boundary. -/
def Boundary.toJson (unset : Unset) (boundary : Boundary) : Json :=
  .object (unset.member "start" (boundary.start.map .object) ++
    unset.member "end" (boundary.finish.map .object))

/-! ### Actions -/

/-- A message that the contract sends for the owner of a task, and a limit on its gas. -/
structure Action where
  message : Json.Members
  gasLimit : Option Int

/-- The action that a value describes. -/
def Action.ofJson : Reader Action :=
  record fun members =>
    Action.mk <$> required "msg" freeForm members
      <*> optional "gas_limit" none (nullable integer) members

/-- The object that describes an action. -/
def Action.toJson (unset : Unset) (action : Action) : Json :=
  .object (("msg", .object action.message) ::
    unset.member "gas_limit" (action.gasLimit.map .integer))

/-! ### Intervals -/

/-- How often a task runs: a name such as `Immediate`, or an object such as a count of blocks. -/
inductive Interval where
  | named (name : String)
  | custom (members : Json.Members)

/-- The interval at which a task runs as soon as possible, again and again. -/
def Interval.immediate : Interval := .named "Immediate"

/-- The interval that a value describes; another value breaks the rule of either form. -/
def Interval.ofJson : Reader Interval
  | .string name => .valid (.named name)
  | .object members => .valid (.custom members)
  | _ => .invalid [⟨.stringType, [.key "str"]⟩, ⟨.dictType, [.key "dict[any,any]"]⟩]

/-- The value that describes an interval. -/
def Interval.toJson : Interval → Json
  | .named name => .string name
  | .custom members => .object members

/-! ### Rules -/

/-- The value that describes the rules of a task, each a free-form object. -/
def rulesToJson (rules : List Json.Members) : Json :=
  .array (rules.map .object)

end ContractDrill
