import ContractDrill.Settings.Basic

/-!
# Settings from the environment

Sixteen variables override a setting each.  A variable that is not set, or is set to blanks, leaves
the setting alone; any other text is taken whole, blanks included, and read by the setting's own
rule.
-/

namespace ContractDrill

namespace Settings

/-- The variables and the settings they override. -/
def environmentVariables : List (String × String) :=
  [("CRONCAT_BINARY", "binary"),
    ("CRONCAT_NODE", "node"),
    ("CRONCAT_CHAIN_ID", "chain_id"),
    ("CRONCAT_GAS_PRICES", "gas_prices"),
    ("CRONCAT_GAS_ADJUSTMENT", "gas_adjustment"),
    ("CRONCAT_CODE_ID", "code_id"),
    ("CRONCAT_DENOM", "denom"),
    ("CRONCAT_LABEL", "label"),
    ("CRONCAT_OWNER", "owner"),
    ("CRONCAT_AGENT", "agent"),
    ("CRONCAT_TASK_CREATOR", "task_creator"),
    ("CRONCAT_VALIDATOR", "validator"),
    ("CRONCAT_TASK_DEPOSIT", "task_deposit"),
    ("CRONCAT_WAIT_SECONDS", "wait_seconds"),
    ("CRONCAT_POLL_TIMEOUT", "poll_timeout"),
    ("CRONCAT_POLL_INTERVAL", "poll_interval")]

/-- The text that overrides a setting, if the variable is set and not blank. -/
def override? (environment : String → Option String) (name : String) : Option String :=
  (environment name).filter fun value => !allBlank value

/-- The settings that the environment overrides, as members of an object. -/
def overrides (environment : String → Option String) : Json.Members :=
  environmentVariables.filterMap fun (name, setting) =>
    (override? environment name).map fun value => (setting, .string value)

/-- The settings with the overrides of the environment. -/
def ofEnvironment (environment : String → Option String) : Verdict Settings :=
  ofJson (.object (overrides environment))

end Settings

end ContractDrill
