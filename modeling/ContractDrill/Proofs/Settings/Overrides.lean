import ContractDrill.Proofs.Message.Wording
import ContractDrill.Proofs.Settings.Bounds
import ContractDrill.Proofs.Text.Numeral
import Mathlib.Data.List.Nodup

/-!
# Overriding settings

The environment overrides the settings field by field (`Settings.isFieldwise_ofEnvironment`).  Each
variable belongs to one field, whose rule alone decides on its text; nothing that another variable
holds is asked.

A field finds its text in the object that the environment amounts to (`Settings.get?_overrides`),
and so the laws of that object are laws of the environment.

The amounts of such settings can be written (`Settings.writes_ofEnvironment`), so each command of a
run has a text.
-/

namespace ContractDrill

namespace Settings

open Schema

/-! ### The texts that override -/

/-- The names of the variables. -/
def variableNames : List String :=
  environmentVariables.map Prod.fst

/-- The environment without its blank texts. -/
def withoutBlanks (environment : String → Option String) (name : String) : Option String :=
  (environment name).filter fun text => !allBlank text

/-- The environment without one variable. -/
def without (environment : String → Option String) (name : String) (name' : String) :
    Option String :=
  if name' = name then none else environment name'

/-- The text that overrides a field. -/
def Field.override? (field : Field) (environment : String → Option String) : Option String :=
  field.overriddenBy.bind (Settings.override? environment)

variable {environment environment' : String → Option String}

/-- Settings only depend on what the variables override with. -/
theorem ofEnvironment_congr (h : ∀ name ∈ variableNames,
      Settings.override? environment name = Settings.override? environment' name) :
    ofEnvironment environment = ofEnvironment environment' := by
  refine congrArg (fun members => ofJson (.object members)) ?_
  unfold overrides
  refine List.filterMap_congr fun entry hentry => ?_
  dsimp only
  rw [h entry.1 (List.mem_map_of_mem hentry)]

section

variable {table : List (String × String)} {name setting : String} (text? : String → Option String)

/-- The texts of a table of names, each under its setting. -/
def textsOf (table : List (String × String)) : Json.Members :=
  table.filterMap fun entry => (text? entry.1).map fun text => (entry.2, .string text)

/-- A setting that no variable overrides gets no text. -/
theorem lookup_textsOf_eq_none (hsetting : setting ∉ table.map Prod.snd) :
    (textsOf text? table).lookup setting = none := by
  rw [List.lookup_eq_none_iff]
  intro member hmember
  obtain ⟨entry, hentry, htext⟩ := List.mem_filterMap.mp hmember
  obtain ⟨text, -, rfl⟩ := Option.map_eq_some_iff.mp htext
  refine bne_iff_ne.mpr ?_
  rintro rfl
  exact hsetting (List.mem_map_of_mem hentry)

/-- In a table of different settings each finds its own text. -/
theorem lookup_textsOf (hsettings : (table.map Prod.snd).Nodup) (hentry : (name, setting) ∈ table) :
    (textsOf text? table).lookup setting = (text? name).map .string := by
  induction table with
  | nil => cases hentry
  | cons first rest ih =>
    rw [List.map_cons, List.nodup_cons] at hsettings
    unfold textsOf
    rw [List.filterMap_cons]
    rcases List.mem_cons.mp hentry with rfl | hrest
    · dsimp only
      cases text? name with
      | none => exact lookup_textsOf_eq_none text? hsettings.1
      | some text => exact List.lookup_cons_self
    · have hne : (setting == first.2) = false := by
        refine beq_eq_false_iff_ne.mpr fun heq => hsettings.1 ?_
        rw [← heq]
        exact List.mem_map_of_mem hrest
      cases text? first.1 with
      | none => exact ih hsettings.2 hrest
      | some text =>
        dsimp only [Option.map_some]
        rw [List.lookup_cons, hne]
        exact ih hsettings.2 hrest

end

/-- What the table of the variables says of a field. -/
theorem mem_environmentVariables :
    ∀ field ∈ fields, match field.overriddenBy with
      | some name => (name, field.name) ∈ environmentVariables
      | none => field.name ∉ environmentVariables.map Prod.snd := by
  simp only [fields, List.forall_mem_cons, List.not_mem_nil, false_imp_iff, implies_true, and_true,
    Field.ofText, Field.ofInteger, Field.ofNumber, Field.ofAmounts]
  and_intros <;> decide

theorem get?_overrides {field : Field} (hfield : field ∈ fields) :
    (overrides environment).get? field.name = (field.override? environment).map .string := by
  have hsettings : (environmentVariables.map Prod.snd).Nodup := by decide
  have hentry := mem_environmentVariables field hfield
  unfold overrides Json.Members.get? Field.override?
  cases hname : field.overriddenBy with
  | none =>
    rw [hname] at hentry
    exact lookup_textsOf_eq_none (Settings.override? environment) hentry
  | some name =>
    rw [hname] at hentry
    exact lookup_textsOf (Settings.override? environment) hsettings hentry

/-! ### Fields in an environment -/

/-- What becomes of a field in an environment: its rule decides on the text that overrides it, and
without one it keeps its default. -/
def Field.inEnvironment (field : Field) (environment : String → Option String) :
    Verdict field.Value :=
  match field.override? environment with
  | some text => (field.read (.string text)).under (.key field.name)
  | none => .valid (field.get default)

theorem verdict_overrides {field : Field} (hfield : field ∈ fields) :
    field.verdict (overrides environment) = field.inEnvironment environment := by
  unfold Field.verdict Schema.optional Field.inEnvironment
  rw [get?_overrides hfield]
  cases field.override? environment <;> rfl

theorem isValid_ofEnvironment :
    (ofEnvironment environment).isValid = true ↔
      ∀ field ∈ fields, (field.inEnvironment environment).isValid = true := by
  unfold ofEnvironment
  rw [isValid_ofJson, List.all_eq_true]
  exact forall₂_congr fun field hfield => by rw [verdict_overrides hfield]

/-- What is wrong with an environment is what is wrong with its fields, in their order. -/
theorem issues_ofEnvironment :
    (ofEnvironment environment).issues =
      fields.flatMap fun field => (field.inEnvironment environment).issues := by
  unfold ofEnvironment
  rw [issues_ofJson]
  exact List.flatMap_congr fun field hfield => by rw [verdict_overrides hfield]

/-- A field is rejected for the text that overrides it. -/
theorem not_isValid_inEnvironment_iff {field : Field} :
    (field.inEnvironment environment).isValid = false ↔
      ∃ text issues, field.override? environment = some text ∧
        field.read (.string text) = .invalid issues := by
  unfold Field.inEnvironment
  cases field.override? environment with
  | none => simp [Verdict.isValid]
  | some text =>
    cases hread : field.read (.string text) <;> simp [hread, Verdict.under, Verdict.isValid]

theorem inEnvironment_of_ofEnvironment {settings : Settings}
    (h : ofEnvironment environment = .valid settings) {field : Field} (hfield : field ∈ fields) :
    field.inEnvironment environment = .valid (field.get settings) := by
  rw [← verdict_overrides hfield]
  exact verdict_of_ofJson h field hfield

/-- A field that is not overridden has its default. -/
theorem get_eq_default {settings : Settings} (h : ofEnvironment environment = .valid settings)
    {field : Field} (hfield : field ∈ fields) (htext : field.override? environment = none) :
    field.get settings = field.get default := by
  have hvalid := inEnvironment_of_ofEnvironment h hfield
  unfold Field.inEnvironment at hvalid
  rw [htext] at hvalid
  exact (Verdict.valid.inj hvalid).symm

/-- A variable overrides one field only. -/
theorem eq_of_overriddenBy {field field' : Field} (hfield : field ∈ fields)
    (hfield' : field' ∈ fields) {name : String} (hname : field.overriddenBy = some name)
    (hname' : field'.overriddenBy = some name) : field = field' := by
  have hnodup : (fields.map fun field => field.overriddenBy.getD field.name).Nodup := by
    simp [fields, Field.ofText, Field.ofInteger, Field.ofNumber, Field.ofAmounts]
  refine List.inj_on_of_nodup_map hnodup hfield hfield' ?_
  rw [hname, hname']
  rfl

/-- A field whose variable does not change stays. -/
theorem inEnvironment_congr {field : Field} {name : String} (hname : field.overriddenBy ≠ some name)
    (h : ∀ name', name' ≠ name → environment name' = environment' name') :
    field.inEnvironment environment = field.inEnvironment environment' := by
  have hoverride : field.override? environment = field.override? environment' := by
    unfold Field.override?
    cases hvariable : field.overriddenBy with
    | none => rfl
    | some name' =>
      have hne : name' ≠ name := fun heq => hname (hvariable.trans (congrArg some heq))
      show Settings.override? environment name' = Settings.override? environment' name'
      unfold Settings.override?
      rw [h name' hne]
  unfold Field.inEnvironment
  rw [hoverride]

/-! ### The law -/

/-- However the environment is set otherwise, the variable carries the value into the settings as
the text: the environment is not rejected for it, and the settings have the value. -/
def Carries {α : Type} (read : (String → Option String) → Verdict Settings) (name : String)
    (get : Settings → α) (text : String) (value : α) : Prop :=
  ∀ environment, environment name = some text →
    (∀ settings, read (without environment name) = .valid settings →
      ∃ settings', read environment = .valid settings') ∧
    ∀ settings, read environment = .valid settings → get settings = value

/-- A field carries each value whose text its rule reads. -/
theorem carries_of_mem {field : Field} (hfield : field ∈ fields) {name : String}
    (hname : field.overriddenBy = some name) {text : String} (htext : allBlank text = false)
    {value : field.Value} (hread : field.read (.string text) = .valid value) :
    Carries ofEnvironment name field.get text value := by
  intro environment hset
  have hoverride : field.override? environment = some text := by
    unfold Field.override? Settings.override?
    rw [hname, Option.bind_some, hset]
    simp [htext]
  have hfound : field.inEnvironment environment = .valid value := by
    unfold Field.inEnvironment
    rw [hoverride]
    dsimp only
    rw [hread]
    rfl
  constructor
  -- The field itself is valid with the text, and all others were valid without it.
  · intro settings hsettings
    refine Verdict.isValid_iff.mp (isValid_ofEnvironment.mpr fun field' hfield' => ?_)
    by_cases hname' : field'.overriddenBy = some name
    · obtain rfl := eq_of_overriddenBy hfield hfield' hname hname'
      rw [hfound]
      rfl
    · have hagree (name' : String) (hne : name' ≠ name) :
          environment name' = without environment name name' := by
        unfold without
        rw [if_neg hne]
      rw [inEnvironment_congr hname' hagree, inEnvironment_of_ofEnvironment hsettings hfield']
      rfl
  · intro settings hsettings
    have hget := inEnvironment_of_ofEnvironment hsettings hfield
    rw [hfound] at hget
    exact (Verdict.valid.inj hget).symm

/-- Settings are read from the environment field by field. -/
structure IsFieldwise (read : (String → Option String) → Verdict Settings) : Prop where
  /-- Nothing but the variables is looked at. -/
  reads : ∀ environment environment',
    (∀ name ∈ variableNames, environment name = environment' name) →
      read environment = read environment'
  /-- A blank text is no text. -/
  blanks : ∀ environment, read environment = read (withoutBlanks environment)
  /-- The environment is rejected for a field whose rule rejects the text that overrides it, and for
  nothing else. -/
  rejected_iff : ∀ environment, (∃ issues, read environment = .invalid issues) ↔
    ∃ field ∈ fields, ∃ text issues, field.override? environment = some text ∧
      field.read (.string text) = .invalid issues
  /-- Then all that is wrong with the texts is reported, field by field. -/
  issues_eq : ∀ environment issues, read environment = .invalid issues →
    issues = fields.flatMap fun field => match field.override? environment with
      | some text => (field.read (.string text)).issues.map (·.under (.key field.name))
      | none => []
  /-- A field that is overridden has what its rule makes of the whole text. -/
  overridden : ∀ environment settings, read environment = .valid settings → ∀ field ∈ fields,
    ∀ text, field.override? environment = some text →
      field.read (.string text) = .valid (field.get settings)
  /-- Each other field has its default. -/
  untouched : ∀ environment settings, read environment = .valid settings → ∀ field ∈ fields,
    field.override? environment = none → field.get settings = field.get default
  /-- So have those that no variable overrides. -/
  fixed : ∀ environment settings, read environment = .valid settings →
    settings.broadcastMode = default.broadcastMode ∧
      settings.stakeAmounts = default.stakeAmounts ∧ settings.gasLimit = default.gasLimit
  inBounds : ∀ environment settings, read environment = .valid settings → settings.InBounds
  /-- A variable that changes leaves the fields of the others as they are. -/
  apart : ∀ name environment environment',
    (∀ name', name' ≠ name → environment name' = environment' name') →
    ∀ settings settings', read environment = .valid settings →
      read environment' = .valid settings' → ∀ field ∈ fields, field.overriddenBy ≠ some name →
      field.get settings = field.get settings'
  /-- Texts are taken as they are. -/
  texts : ∀ setting name get, Field.ofText setting (some name) get ∈ fields →
    ∀ text, allBlank text = false → Carries read name get text text
  /-- Integers are taken from their digits. -/
  integers : ∀ setting name get, Field.ofInteger setting (some name) get ∈ fields →
    ∀ n, FitsSigned n → Carries read name get (toString n) n

theorem isBlank_of_isDigit {c : Char} (h : c.isDigit = true) : isBlank c = false := by
  obtain ⟨hzero, hnine⟩ := Char.isDigit_iff_toNat.mp h
  have hlow : '0'.toNat = 48 := rfl
  have hhigh : '9'.toNat = 57 := rfl
  simp only [isBlank, spaceRanges, inRanges, List.any_cons, List.any_nil, Bool.or_false,
    Bool.or_eq_false_iff, Bool.and_eq_false_iff, decide_eq_false_iff_not]
  omega

theorem allBlank_toString (n : Int) : allBlank (toString n) = false := by
  obtain ⟨d, rest, hdigits, hd⟩ := exists_toDigits_eq_cons n.natAbs
  have hmem : d ∈ (toString n).toList := by
    rw [toList_toString, Json.integerLiteral, hdigits]
    split <;> simp
  refine List.all_eq_false.mpr ⟨d, hmem, ?_⟩
  rw [isBlank_of_isDigit hd]
  exact Bool.false_ne_true

/-- **Overrides are independent of each other.** -/
theorem isFieldwise_ofEnvironment : IsFieldwise ofEnvironment where
  reads environment environment' h := ofEnvironment_congr fun name hname => by
    unfold Settings.override?
    rw [h name hname]
  blanks environment := ofEnvironment_congr fun name _ => by
    unfold Settings.override? withoutBlanks
    rw [Option.filter_filter]
    simp
  rejected_iff environment := by
    rw [← Verdict.not_isValid_iff, ← Bool.not_eq_true, isValid_ofEnvironment]
    simp only [not_forall, Bool.not_eq_true, not_isValid_inEnvironment_iff, exists_prop]
  issues_eq environment issues h := by
    have hissues : issues = (ofEnvironment environment).issues := by
      rw [h]
      rfl
    rw [hissues, issues_ofEnvironment]
    refine List.flatMap_congr fun field _ => ?_
    unfold Field.inEnvironment
    cases field.override? environment with
    | none => rfl
    | some text =>
      dsimp only
      cases field.read (.string text) <;> rfl
  overridden environment settings h field hfield text htext := by
    have hvalid := inEnvironment_of_ofEnvironment h hfield
    unfold Field.inEnvironment at hvalid
    rw [htext] at hvalid
    exact Verdict.under_eq_valid_iff.mp hvalid
  untouched environment settings h field hfield htext := get_eq_default h hfield htext
  fixed environment settings h := by
    have hmode : Field.ofText "broadcast_mode" none broadcastMode ∈ fields := by simp [fields]
    have hamounts : Field.ofAmounts ∈ fields := by simp [fields]
    have hlimit : Field.ofInteger "gas_limit" none gasLimit ∈ fields := by simp [fields]
    exact ⟨get_eq_default h hmode rfl, get_eq_default h hamounts rfl, get_eq_default h hlimit rfl⟩
  inBounds environment settings h := inBounds_of_ofEnvironment h
  apart name environment environment' hagree settings settings' h h' field hfield hname := by
    have hvalid := inEnvironment_of_ofEnvironment h hfield
    rw [inEnvironment_congr hname hagree, inEnvironment_of_ofEnvironment h' hfield] at hvalid
    exact (Verdict.valid.inj hvalid).symm
  texts setting name get hfield text htext := carries_of_mem hfield rfl htext rfl
  -- Numerals are read back, and none of them is blank.
  integers setting name get hfield n hn := by
    refine carries_of_mem hfield rfl (allBlank_toString n) ?_
    show integer (.string (toString n)) = .valid n
    rw [integer, readWhole_toString hn.fitsNumeral]

/-! ### Amounts that can be written -/

/-- An integer of the settings was read from a text, or is the default. -/
theorem fitsNumeral_ofInteger {settings : Settings}
    (h : ofEnvironment environment = .valid settings) {setting : String} {name : Option String}
    {get : Settings → Int}
    (hfield : Field.ofInteger setting name get ∈ fields) (hdefault : FitsNumeral (get default)) :
    FitsNumeral (get settings) := by
  have hvalid := inEnvironment_of_ofEnvironment h hfield
  unfold Field.inEnvironment at hvalid
  split at hvalid
  · rename_i text _
    have hread : integer (.string text) = .valid (get settings) :=
      Verdict.under_eq_valid_iff.mp hvalid
    unfold integer at hread
    dsimp only at hread
    split at hread
    · rename_i n hwhole
      obtain rfl := Verdict.valid.inj hread
      exact fitsNumeral_of_readWhole hwhole
    · cases hread
  · rw [← show get default = get settings from Verdict.valid.inj hvalid]
    exact hdefault

/-- With settings from an environment the amounts of a run fit a numeral, and each delegation of it
is written. -/
theorem writes_ofEnvironment {settings : Settings}
    (h : ofEnvironment environment = .valid settings) :
    FitsNumeral settings.codeId ∧ FitsNumeral settings.taskDeposit ∧
      ∀ amount ∈ settings.stakeAmounts, ∃ s, Message.writeDelegation Json.Limits.usual.depth
        settings.validator amount settings.denom settings.gasLimit = .ok s := by
  have hcode : Field.ofInteger "code_id" "CRONCAT_CODE_ID" codeId ∈ fields := by simp [fields]
  have hdeposit : Field.ofInteger "task_deposit" "CRONCAT_TASK_DEPOSIT" taskDeposit ∈ fields := by
    simp [fields]
  have hamountsField : Field.ofAmounts ∈ fields := by simp [fields]
  have hgasField : Field.ofInteger "gas_limit" none gasLimit ∈ fields := by simp [fields]
  have hamounts : settings.stakeAmounts = default.stakeAmounts := get_eq_default h hamountsField rfl
  have hgas : settings.gasLimit = default.gasLimit := get_eq_default h hgasField rfl
  refine ⟨fitsNumeral_ofInteger h hcode (by decide), fitsNumeral_ofInteger h hdeposit (by decide),
    fun amount hamount => ?_⟩
  have hdefault : ∀ amount ∈ default.stakeAmounts, FitsNumeral amount := by decide
  rw [hamounts] at hamount
  have hlimit : FitsNumeral default.gasLimit := by decide
  rw [hgas]
  exact ⟨_, Message.writeDelegation_eq_ok_iff.mpr
    ⟨hdefault amount hamount, hlimit, by decide, rfl⟩⟩

end Settings

end ContractDrill
