import ContractDrill.Settings.Environment

/-!
# Settings, field by field

The settings are a record of nineteen fields (`Settings.fields`), each read by its own rule and for
itself: an object describes settings if each field is valid (`Settings.ofJson_eq_valid_iff`), and
what is wrong with it is what is wrong with the fields, one after the other
(`Settings.issues_ofJson`).
-/

namespace ContractDrill

namespace Verdict

variable {α β : Type}

/-- The verdict has a value. -/
def isValid : Verdict α → Bool
  | valid _ => true
  | invalid _ => false

theorem isValid_map (f : α → β) (verdict : Verdict α) :
    (f <$> verdict).isValid = verdict.isValid := by
  cases verdict <;> rfl

theorem isValid_seq (f : Verdict (α → β)) (a : Verdict α) :
    (f <*> a).isValid = (f.isValid && a.isValid) := by
  cases f <;> cases a <;> rfl

theorem issues_map (f : α → β) (verdict : Verdict α) : (f <$> verdict).issues = verdict.issues := by
  cases verdict <;> rfl

/-- Two verdicts join to the issues of both. -/
theorem issues_seq (f : Verdict (α → β)) (a : Verdict α) :
    (f <*> a).issues = f.issues ++ a.issues := by
  cases f <;> cases a <;> rfl

theorem isValid_iff {verdict : Verdict α} : verdict.isValid = true ↔ ∃ a, verdict = .valid a := by
  cases verdict <;> simp [isValid]

theorem not_isValid_iff {verdict : Verdict α} :
    verdict.isValid = false ↔ ∃ issues, verdict = .invalid issues := by
  cases verdict <;> simp [isValid]

end Verdict

namespace Settings

open Schema

/-! ### The fields -/

/-- A field of the settings: how it is called, read and written, and what it holds. -/
structure Field where
  {Value : Type}
  name : String
  /-- The variable of the environment that overrides the field. -/
  overriddenBy : Option String
  read : Reader Value
  write : Value → Json
  get : Settings → Value

/-- A field that holds a text. -/
def Field.ofText (name : String) (overriddenBy : Option String) (get : Settings → String) : Field :=
  ⟨name, overriddenBy, text, .string, get⟩

/-- A field that holds an integer. -/
def Field.ofInteger (name : String) (overriddenBy : Option String) (get : Settings → Int) : Field :=
  ⟨name, overriddenBy, integer, .integer, get⟩

/-- A field that holds a number, within the bounds of `read`. -/
def Field.ofNumber (name : String) (overriddenBy : Option String) (read : Reader Binary64)
    (get : Settings → Binary64) : Field :=
  ⟨name, overriddenBy, read, .number, get⟩

/-- The amounts that tasks delegate. -/
def Field.ofAmounts : Field :=
  ⟨"stake_amounts", none, list integer, fun amounts => .array (amounts.map .integer), stakeAmounts⟩

/-- The fields in their order. -/
def fields : List Field :=
  [.ofText "binary" "CRONCAT_BINARY" binary,
    .ofText "node" "CRONCAT_NODE" node,
    .ofText "chain_id" "CRONCAT_CHAIN_ID" chainId,
    .ofText "gas_prices" "CRONCAT_GAS_PRICES" gasPrices,
    .ofNumber "gas_adjustment" "CRONCAT_GAS_ADJUSTMENT" number gasAdjustment,
    .ofText "broadcast_mode" none broadcastMode,
    .ofInteger "code_id" "CRONCAT_CODE_ID" codeId,
    .ofText "denom" "CRONCAT_DENOM" denom,
    .ofText "label" "CRONCAT_LABEL" label,
    .ofText "owner" "CRONCAT_OWNER" owner,
    .ofText "agent" "CRONCAT_AGENT" agent,
    .ofText "task_creator" "CRONCAT_TASK_CREATOR" taskCreator,
    .ofText "validator" "CRONCAT_VALIDATOR" validator,
    .ofAmounts,
    .ofInteger "task_deposit" "CRONCAT_TASK_DEPOSIT" taskDeposit,
    .ofInteger "gas_limit" none gasLimit,
    .ofNumber "wait_seconds" "CRONCAT_WAIT_SECONDS" nonnegative waitSeconds,
    .ofNumber "poll_timeout" "CRONCAT_POLL_TIMEOUT" nonnegative pollTimeout,
    .ofNumber "poll_interval" "CRONCAT_POLL_INTERVAL" positive pollInterval]

/-- What becomes of a field if an object with the members describes the settings. -/
def Field.verdict (field : Field) (members : Json.Members) : Verdict field.Value :=
  optional field.name (field.get default) field.read members

variable {members : Json.Members}

theorem isValid_ofJson :
    (ofJson (.object members)).isValid =
      fields.all fun field => (field.verdict members).isValid := by
  simp only [ofJson, record, Verdict.isValid_seq, Verdict.isValid_map, fields, List.all_cons,
    List.all_nil, Bool.and_true, Bool.and_assoc]
  rfl

/-- What is wrong with the settings is what is wrong with the fields, in their order. -/
theorem issues_ofJson :
    (ofJson (.object members)).issues =
      fields.flatMap fun field => (field.verdict members).issues := by
  simp only [ofJson, record, Verdict.issues_seq, Verdict.issues_map, fields, List.flatMap_cons,
    List.flatMap_nil, List.append_nil, List.append_assoc]
  rfl

/-- Each field of settings that are described is valid for itself. -/
theorem verdict_of_ofJson {settings : Settings} (h : ofJson (.object members) = .valid settings) :
    ∀ field ∈ fields, field.verdict members = .valid (field.get settings) := by
  unfold ofJson record at h
  dsimp only at h
  iterate 18 obtain ⟨_, _, h, _, _⟩ := Verdict.seq_eq_valid_iff.mp h
  obtain ⟨_, _, _⟩ := Verdict.map_eq_valid_iff.mp h
  subst_vars
  simp only [fields, List.forall_mem_cons, List.not_mem_nil, false_imp_iff, implies_true, and_true]
  dsimp only [Field.verdict, Field.ofText, Field.ofInteger, Field.ofNumber, Field.ofAmounts]
  and_intros <;> assumption

/-- Settings are no more than their fields. -/
theorem ext_fields {settings settings' : Settings}
    (h : ∀ field ∈ fields, field.get settings = field.get settings') : settings = settings' := by
  simp only [fields, List.forall_mem_cons] at h
  obtain ⟨_, _, _, _, _, _, _, _, _, _, _, _, _, _, _, _, _, _, _, -⟩ := h
  cases settings
  cases settings'
  congr

/-- The settings that an object describes are those that each field describes for itself. -/
theorem ofJson_eq_valid_iff {settings : Settings} :
    ofJson (.object members) = .valid settings ↔
      ∀ field ∈ fields, field.verdict members = .valid (field.get settings) := by
  refine ⟨verdict_of_ofJson, fun h => ?_⟩
  have hvalid : (ofJson (.object members)).isValid = true := by
    rw [isValid_ofJson, List.all_eq_true]
    intro field hfield
    rw [h field hfield]
    rfl
  obtain ⟨settings', hsettings'⟩ := Verdict.isValid_iff.mp hvalid
  have heq : settings' = settings := ext_fields fun field hfield =>
    Verdict.valid.inj ((verdict_of_ofJson hsettings' field hfield).symm.trans (h field hfield))
  rw [hsettings', heq]

end Settings

end ContractDrill
