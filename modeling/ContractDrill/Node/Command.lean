import ContractDrill.Node.Reply
import ContractDrill.Settings.Basic

/-!
# Commands for the node

What a session asks of the program that talks to the node, and the arguments that say so.

An `Exchange` is a command together with what came of it.  The exchanges of a session, in order, are
all that has passed between it and the node.
-/

namespace ContractDrill

/-- A command for the node. -/
inductive NodeCommand where
  /-- Make a contract of a code. -/
  | instantiate (codeId : Int) (message sender label : String) (noAdmin : Bool)
  /-- Send a message to a contract, with funds if there are any. -/
  | execute (contract message sender : String) (funds : Option String)
  /-- List the contracts of a code. -/
  | listContracts (codeId : Int)
  /-- Ask a contract. -/
  | query (contract message : String)
  /-- Tell the latest block. -/
  | status
  deriving DecidableEq

namespace NodeCommand

/-- The arguments that attach funds; empty funds are none. -/
def fundsFlags (funds : Option String) : List String :=
  match funds.filter (· ≠ "") with
  | some amount => ["--amount", amount]
  | none => []

/-- The arguments of a command. -/
def arguments (settings : Settings) : NodeCommand → List String
  | instantiate codeId message sender label noAdmin =>
    ["tx", "wasm", "instantiate", toString codeId, message, "--from", sender, "--label", label] ++
      settings.transactionFlags ++ ["-y"] ++ if noAdmin then ["--no-admin"] else []
  | execute contract message sender funds =>
    ["tx", "wasm", "execute", contract, message] ++ fundsFlags funds ++ ["--from", sender] ++
      settings.transactionFlags ++ ["-y"]
  | listContracts codeId =>
    ["query", "wasm", "list-contract-by-code", toString codeId] ++ settings.nodeFlags ++
      ["--output", "json"]
  | query contract message =>
    ["query", "wasm", "contract-state", "smart", contract, message] ++ settings.nodeFlags ++
      ["--output", "json"]
  | status => "status" :: settings.nodeFlags

/-- The program and the arguments of a command. -/
def argv (settings : Settings) (command : NodeCommand) : List String :=
  settings.binary :: command.arguments settings

end NodeCommand

/-! ### Exchanges -/

/-- A command that was given to the node, and its reply. -/
structure Exchange where
  /-- The step that the command belongs to; a quiet command belongs to none. -/
  step : Option String
  command : NodeCommand
  reply : Reply
  deriving DecidableEq

namespace Exchange

/-- What came of the command: it succeeded, or has no result. -/
def result (settings : Settings) (exchange : Exchange) : Except Reply.Error Reply.Succeeded :=
  exchange.reply.result (exchange.command.argv settings)

end Exchange

end ContractDrill
