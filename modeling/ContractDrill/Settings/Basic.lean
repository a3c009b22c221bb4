import ContractDrill.Number.Layout
import ContractDrill.Schema.Record

/-!
# Settings

What a session has to know of the chain, of its identities and of its timing.  Every setting has a
default; `Settings.ofJson` takes the others from an object.
-/

namespace ContractDrill

open Schema

/-- The settings of a session. -/
structure Settings where
  /-- The program that talks to the node. -/
  binary : String
  /-- The address of the node. -/
  node : String
  chainId : String
  gasPrices : String
  gasAdjustment : Binary64
  broadcastMode : String
  /-- The code that contracts are instantiated from. -/
  codeId : Int
  denom : String
  label : String
  /-- The identity that instantiates. -/
  owner : String
  /-- The identity that runs tasks. -/
  agent : String
  /-- The identity that creates and pays for tasks. -/
  taskCreator : String
  validator : String
  /-- What each created task delegates. -/
  stakeAmounts : List Int
  /-- What is attached to the creation of a task. -/
  taskDeposit : Int
  gasLimit : Int
  /-- How long to wait for tasks to be due, in seconds. -/
  waitSeconds : Binary64
  /-- If above `0`, how long to poll instead of waiting. -/
  pollTimeout : Binary64
  pollInterval : Binary64
  deriving DecidableEq

namespace Settings

/-- The settings to start from. -/
def default : Settings where
  binary := "junod"
  node := "https://rpc.uni.juno.deuslabs.fi:443"
  chainId := "uni-3"
  gasPrices := "0.025ujunox"
  gasAdjustment := .ofDecimal false 13 (-1)
  broadcastMode := "block"
  codeId := 1061
  denom := "ujunox"
  label := "croncat"
  owner := "owner"
  agent := "wallet6"
  taskCreator := "wallet7"
  validator := "juno14vhcdsyf83ngsrrqc92kmw8q9xakqjm0ff2dpn"
  stakeAmounts := [10000, 20000]
  taskDeposit := 100000
  gasLimit := 150000
  waitSeconds := .ofInt 10
  pollTimeout := 0
  pollInterval := .ofInt 2

/-- The settings that a value describes, with defaults for those it does not name. -/
def ofJson : Reader Settings :=
  record fun members =>
    Settings.mk <$> optional "binary" default.binary text members
      <*> optional "node" default.node text members
      <*> optional "chain_id" default.chainId text members
      <*> optional "gas_prices" default.gasPrices text members
      <*> optional "gas_adjustment" default.gasAdjustment number members
      <*> optional "broadcast_mode" default.broadcastMode text members
      <*> optional "code_id" default.codeId integer members
      <*> optional "denom" default.denom text members
      <*> optional "label" default.label text members
      <*> optional "owner" default.owner text members
      <*> optional "agent" default.agent text members
      <*> optional "task_creator" default.taskCreator text members
      <*> optional "validator" default.validator text members
      <*> optional "stake_amounts" default.stakeAmounts (list integer) members
      <*> optional "task_deposit" default.taskDeposit integer members
      <*> optional "gas_limit" default.gasLimit integer members
      <*> optional "wait_seconds" default.waitSeconds nonnegative members
      <*> optional "poll_timeout" default.pollTimeout nonnegative members
      <*> optional "poll_interval" default.pollInterval positive members

/-- The object that describes settings. -/
def toJson (settings : Settings) : Json :=
  .object [("binary", .string settings.binary),
    ("node", .string settings.node),
    ("chain_id", .string settings.chainId),
    ("gas_prices", .string settings.gasPrices),
    ("gas_adjustment", .number settings.gasAdjustment),
    ("broadcast_mode", .string settings.broadcastMode),
    ("code_id", .integer settings.codeId),
    ("denom", .string settings.denom),
    ("label", .string settings.label),
    ("owner", .string settings.owner),
    ("agent", .string settings.agent),
    ("task_creator", .string settings.taskCreator),
    ("validator", .string settings.validator),
    ("stake_amounts", .array (settings.stakeAmounts.map .integer)),
    ("task_deposit", .integer settings.taskDeposit),
    ("gas_limit", .integer settings.gasLimit),
    ("wait_seconds", .number settings.waitSeconds),
    ("poll_timeout", .number settings.pollTimeout),
    ("poll_interval", .number settings.pollInterval)]

/-! ### Arguments for the node -/

/-- The arguments that say which node to talk to. -/
def nodeFlags (settings : Settings) : List String :=
  ["--node", settings.node]

/-- The arguments that every transaction carries. -/
def transactionFlags (settings : Settings) : List String :=
  settings.nodeFlags ++
    ["--chain-id", settings.chainId,
      "--gas-prices", settings.gasPrices,
      "--gas", "auto",
      "--gas-adjustment", settings.gasAdjustment.compact,
      "--broadcast-mode", settings.broadcastMode]

/-- An amount of the token, as the node reads it.  Only an amount that fits a numeral has a text; of
settings that come from an environment all amounts do. -/
def coin (settings : Settings) (amount : Int) : String :=
  toString amount ++ settings.denom

end Settings

end ContractDrill
