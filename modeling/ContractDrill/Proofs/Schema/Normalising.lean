import ContractDrill.Answer.ContractAddress
import ContractDrill.Proofs.Settings.Bounds
import ContractDrill.Proofs.Task.Reading
import ContractDrill.Schedule.Basic
import ContractDrill.Session.Record

/-!
# Normal forms

A value can describe a record in many ways: with members that no field is for, with numbers as
texts, with defaults left out.  Its normal form is what is written of the record that was read.
Reading normalises once (`Schema.Normalises`): the normal form describes the same record, so it is
its own normal form, and it makes no difference whether unset fields are written in it as `null` or
left out.

What is left out is told without the writers (`Json.withoutUnset`): at each level of records the
members that are `null`, and inside of a free-form object none.

All records are like that (`Schema.records_normalise`).  Of settings it holds because the bounds
are checked on every reading, and what is in bounds once stays there.
-/

namespace ContractDrill

/-! ### Leaving out unset fields -/

namespace Json

/-- The value is `null`. -/
def isNull : Json → Bool
  | null => true
  | _ => false

/-- The array with each item changed. -/
def mapItems (change : Json → Json) : Json → Json
  | array items => array (items.map change)
  | value => value

/-- The members that are not `null`.  Those that hold further records are changed as `nested` says,
and the others are kept whole. -/
def Members.withoutUnset (nested : List (String × (Json → Json))) (members : Members) : Members :=
  (members.filter fun member => !member.2.isNull).map fun member =>
    (member.1, (nested.lookup member.1).getD id member.2)

/-- The object of a record without its unset fields. -/
def withoutUnset (nested : List (String × (Json → Json))) : Json → Json
  | object members => object (Members.withoutUnset nested members)
  | value => value

end Json

namespace Schema

variable {α : Type} {read : Reader α} {write : Unset → α → Json} {trim : Json → Json}

/-! ### Normalising -/

/-- What is written of the record that a value describes. -/
def normalForm (read : Reader α) (write : Unset → α → Json) (unset : Unset) (value : Json) :
    Verdict Json :=
  write unset <$> read value

/-- What describes a record is normalised by being read and written, with its unset fields as well
as without them, which `trim` takes away. -/
structure Normalises (read : Reader α) (write : Unset → α → Json) (trim : Json → Json) : Prop where
  /-- What is written of a record that was read is read as the same record. -/
  reread : ∀ value a, read value = .valid a → ∀ unset, read (write unset a) = .valid a
  /-- The normal forms of a normal form are those of the value. -/
  idempotent : ∀ value unset unset',
    (normalForm read write unset value).andThen (normalForm read write unset') =
      normalForm read write unset' value
  /-- The two normal forms differ in unset fields only. -/
  omits : ∀ a, write .omitted a = trim (write .asNull a)

/-- It is enough that what is written of a record reads back, whichever way unset fields are
written. -/
theorem normalises_of_reread
    (hreread : ∀ value a, read value = .valid a → ∀ unset, read (write unset a) = .valid a)
    (homits : ∀ a, write .omitted a = trim (write .asNull a)) : Normalises read write trim where
  reread := hreread
  idempotent value unset unset' := by
    unfold normalForm
    cases hread : read value with
    | invalid issues => rfl
    | valid a =>
      show write unset' <$> read (write unset a) = _
      rw [hreread value a hread unset]
  omits := homits

/-- It is enough that every record is read back, whether or not a value describes it. -/
theorem normalises_of_readBack (hback : ∀ unset a, read (write unset a) = .valid a)
    (homits : ∀ a, write .omitted a = trim (write .asNull a)) : Normalises read write trim :=
  normalises_of_reread (fun _ a _ unset => hback unset a) homits

/-- A field that may be unset is read back however it is written. -/
theorem optional_of_member {item : Reader α} {write : α → Json} {name : String} {a : Option α}
    {members : Json.Members} (unset : Unset)
    (hget : members.get? name = Json.Members.get? (unset.member name (a.map write)) name)
    (hitem : ∀ b, nullable item (write b) = .valid (some b)) :
    optional name none (nullable item) members = .valid a := by
  unfold optional
  rw [hget]
  cases a with
  | none => cases unset <;> simp [Unset.member, Json.Members.get?, nullable]
  | some b => simp [Unset.member, Json.Members.get?, hitem]

end Schema

open Schema

/-! ### Tasks and their parts -/

/-- Leaving the unset ends of a boundary out is the same as taking their `null`s out. -/
theorem Boundary.toJson_omitted (boundary : Boundary) :
    boundary.toJson .omitted = Json.withoutUnset [] (boundary.toJson .asNull) := by
  obtain ⟨start, finish⟩ := boundary
  cases start <;> cases finish <;> rfl

theorem Action.toJson_omitted (action : Action) :
    action.toJson .omitted = Json.withoutUnset [] (action.toJson .asNull) := by
  obtain ⟨message, gasLimit⟩ := action
  cases gasLimit <;> rfl

/-- Actions are told apart by where they stand, so each is trimmed on its own. -/
theorem actions_omitted (actions : List Action) :
    Json.array (actions.map (·.toJson .omitted)) =
      Json.mapItems (Json.withoutUnset []) (.array (actions.map (·.toJson .asNull))) := by
  rw [Json.mapItems, List.map_map]
  exact congrArg Json.array (List.map_congr_left fun action _ => action.toJson_omitted)

/-- No field of a coin can be unset. -/
theorem coins_kept (coins : List Coin) :
    Json.array (coins.map (·.toJson)) =
      Json.mapItems (Json.withoutUnset []) (.array (coins.map (·.toJson))) := by
  rw [Json.mapItems, List.map_map]
  rfl

theorem nullable_rulesToJson (rules : List Json.Members) :
    nullable (list freeForm) (rulesToJson rules) = .valid (some rules) :=
  congrArg (some <$> ·) (list_freeForm_rulesToJson rules)

namespace TaskRequest

/-- A request reads back, whichever way its unset fields are written. -/
theorem ofJson_toJson (unset : Unset) (task : TaskRequest) :
    ofJson (task.toJson unset) = .valid task := by
  apply ofJson_object rfl rfl rfl rfl
  · exact Interval.ofJson_toJson task.interval
  · exact Boundary.ofJson_toJson unset task.boundary
  · rfl
  · exact someOf_map (Action.ofJson_toJson unset) task.actions
  · exact optional_of_member unset rfl nullable_rulesToJson

/-- The request without its unset fields, and without those of its parts. -/
def trim : Json → Json :=
  Json.withoutUnset [("boundary", Json.withoutUnset []),
    ("actions", Json.mapItems (Json.withoutUnset []))]

/-- A request without its unset fields is the one with `null`s, trimmed inside as well. -/
theorem toJson_omitted (task : TaskRequest) :
    task.toJson .omitted = trim (task.toJson .asNull) := by
  obtain ⟨interval, boundary, stopOnFail, actions, rules⟩ := task
  unfold toJson
  rw [Boundary.toJson_omitted, actions_omitted]
  cases interval <;> cases rules <;> rfl

end TaskRequest

namespace StoredTask

theorem ofJson_toJson (unset : Unset) (task : StoredTask) :
    ofJson (task.toJson unset) = .valid task := by
  obtain ⟨hash, owner, interval, boundary, stopOnFail, deposit, actions, rules⟩ := task
  -- Which members there are depends on what is unset, and on how that is written.
  cases boundary <;> cases rules <;> cases hunset : unset
  all_goals
    apply ofJson_object rfl rfl rfl rfl rfl rfl
    · exact Interval.ofJson_toJson interval
    · rfl
    · exact list_map Coin.ofJson_toJson deposit
    · exact list_map (Action.ofJson_toJson _) actions
    · exact optional_of_member unset (by rw [hunset]; rfl) (nullable_boundary unset)
    · exact optional_of_member unset (by rw [hunset]; rfl) nullable_rulesToJson

/-- The stored task without its unset fields, and without those of its parts. -/
def trim : Json → Json :=
  Json.withoutUnset [("boundary", Json.withoutUnset []),
    ("total_deposit", Json.mapItems (Json.withoutUnset [])),
    ("actions", Json.mapItems (Json.withoutUnset []))]

theorem toJson_omitted (task : StoredTask) :
    task.toJson .omitted = trim (task.toJson .asNull) := by
  obtain ⟨hash, owner, interval, boundary, stopOnFail, deposit, actions, rules⟩ := task
  unfold toJson
  dsimp only
  conv =>
    lhs
    rw [actions_omitted, coins_kept]
  cases boundary with
  | none => cases interval <;> cases rules <;> rfl
  | some boundary =>
    rw [Option.map_some, Boundary.toJson_omitted]
    cases interval <;> cases rules <;> rfl

end StoredTask

/-! ### Listings, schedules and step records -/

namespace ContractListing

theorem ofJson_toJson (unset : Unset) (listing : ContractListing) :
    ofJson (listing.toJson unset) = .valid listing := by
  have htexts (values : List String) : nullable (list text) (texts values) = .valid (some values) :=
    congrArg (some <$> ·) (list_text_texts values)
  show ContractListing.mk <$> optional "contracts" none (nullable (list text)) _ = _
  rw [optional_of_member unset rfl htexts]
  rfl

theorem toJson_omitted (listing : ContractListing) :
    listing.toJson .omitted = Json.withoutUnset [] (listing.toJson .asNull) := by
  obtain ⟨contracts⟩ := listing
  cases contracts <;> rfl

end ContractListing

theorem SlotSchedule.ofJson_toJson (schedule : SlotSchedule) :
    ofJson schedule.toJson = .valid schedule := by
  have hblock := list_text_texts schedule.blockHashes
  have htime := list_text_texts schedule.timeHashes
  simp [ofJson, toJson, record, Schema.optional, Json.Members.get?, List.lookup_cons, integer,
    hblock, htime]

theorem StepRecord.ofJson_toJson (step : StepRecord) : ofJson step.toJson = .valid step := by
  have hargv := list_text_texts step.argv
  simp [ofJson, toJson, record, required, Schema.optional, Json.Members.get?, List.lookup_cons,
    text, integer, hargv]

/-! ### Settings -/

namespace Settings

/-- What a field of settings within the bounds holds is read again. -/
theorem read_write {settings : Settings} (h : settings.InBounds) : ∀ field ∈ fields,
    field.read (field.write (field.get settings)) = .valid (field.get settings) := by
  have htext (s : String) : text (.string s) = .valid s := rfl
  have hinteger (n : Int) : integer (.integer n) = .valid n := rfl
  have hnumber (x : Binary64) : number (.number x) = .valid x := rfl
  have hwait : nonnegative (.number settings.waitSeconds) = .valid settings.waitSeconds :=
    if_pos h.waitSeconds
  have htimeout : nonnegative (.number settings.pollTimeout) = .valid settings.pollTimeout :=
    if_pos h.pollTimeout
  have hinterval : positive (.number settings.pollInterval) = .valid settings.pollInterval :=
    if_pos h.pollInterval
  simp only [fields, List.forall_mem_cons, List.not_mem_nil, false_imp_iff, implies_true, and_true,
    Field.ofText, Field.ofInteger, Field.ofNumber, Field.ofAmounts, htext, hinteger, hnumber,
    list_map hinteger, hwait, htimeout, hinterval]

/-- Settings read back if they are in bounds. -/
theorem ofJson_toJson {settings : Settings} (h : settings.InBounds) :
    ofJson settings.toJson = .valid settings := by
  have hnames : (fields.map Field.name).Nodup := by decide
  refine ofJson_eq_valid_iff.mpr fun field hfield => optional_of_get? ?_ (read_write h field hfield)
  let member (field : Field) : String × Json := (field.name, field.write (field.get settings))
  show (fields.map member).lookup (member field).1 = some (member field).2
  refine Json.lookup_of_mem ?_ (List.mem_map_of_mem hfield)
  rw [List.map_map]
  exact hnames

end Settings

/-! ### All records -/

namespace Schema

/-- **Reading normalises once.** -/
theorem records_normalise :
    Normalises Coin.ofJson (fun _ => Coin.toJson) (Json.withoutUnset []) ∧
    Normalises Boundary.ofJson Boundary.toJson (Json.withoutUnset []) ∧
    Normalises Action.ofJson Action.toJson (Json.withoutUnset []) ∧
    Normalises TaskRequest.ofJson TaskRequest.toJson TaskRequest.trim ∧
    Normalises StoredTask.ofJson StoredTask.toJson StoredTask.trim ∧
    Normalises ContractListing.ofJson ContractListing.toJson (Json.withoutUnset []) ∧
    Normalises SlotSchedule.ofJson (fun _ => SlotSchedule.toJson) (Json.withoutUnset []) ∧
    Normalises StepRecord.ofJson (fun _ => StepRecord.toJson) (Json.withoutUnset []) ∧
    Normalises Settings.ofJson (fun _ => Settings.toJson) (Json.withoutUnset []) := by
  refine ⟨?coin, ?boundary, ?action, ?request, ?stored, ?listing, ?schedule, ?step, ?settings⟩
  case coin => exact normalises_of_readBack (fun _ => Coin.ofJson_toJson) fun _ => rfl
  case boundary => exact normalises_of_readBack Boundary.ofJson_toJson Boundary.toJson_omitted
  case action => exact normalises_of_readBack Action.ofJson_toJson Action.toJson_omitted
  case request => exact normalises_of_readBack TaskRequest.ofJson_toJson TaskRequest.toJson_omitted
  case stored => exact normalises_of_readBack StoredTask.ofJson_toJson StoredTask.toJson_omitted
  case listing =>
    exact normalises_of_readBack ContractListing.ofJson_toJson ContractListing.toJson_omitted
  case schedule => exact normalises_of_readBack (fun _ => SlotSchedule.ofJson_toJson) fun _ => rfl
  case step => exact normalises_of_readBack (fun _ => StepRecord.ofJson_toJson) fun _ => rfl
  -- Settings that were read are in bounds, so the checks let them pass again.
  case settings =>
    exact normalises_of_reread
      (fun _ _ hread _ => Settings.ofJson_toJson (Settings.inBounds_of_ofJson hread)) fun _ => rfl

/-- The unset limit goes, and so does the member that no field is for; the memo stays. -/
example :
    normalForm Action.ofJson Action.toJson .omitted
        (.object [("note", .bool true), ("msg", .object [("memo", .null)]), ("gas_limit", .null)]) =
      .valid (.object [("msg", .object [("memo", .null)])]) :=
  rfl

end Schema

end ContractDrill
