import ContractDrill.Message
import ContractDrill.Proofs.Json.Wire
import ContractDrill.Proofs.Json.Writing

/-!
# The wording of a task

The text of a message that creates a task, character for character (`Message.createTask_wording`):
which members it has and in which order, what is left out and what is `null`, for every number of
actions and whatever stands in the free-form objects.  The text of a task that delegates once is a
fixed one but for four blanks, in which the validator, the denomination, the amount and the limit on
gas are filled in.

That text is all that is ever written, and it is written just if the value is within the limits of
the writer.  For a delegation these are few: its two integers fit a numeral, and nine brackets may
be open at once.  A request can be beyond them (`Message.not_forall_written`).

Texts are put together like the values they are texts of: an object is the texts of its members, in
their order, with commas between them (`Json.encode_object`).
-/

namespace ContractDrill

namespace Json

/-! ### Texts of values -/

/-- Texts with commas between them, and no gaps. -/
theorem separated_eq_intercalate (texts : List (List Char)) :
    separated [] texts = [','].intercalate texts := by
  induction texts with
  | nil => rfl
  | cons text rest ih =>
    cases rest with
    | nil => simp [separated]
    | cons next rest =>
      rw [List.intercalate_cons_cons, ← ih, separated]
      simp

/-- A text between two quotes, with what has to be escaped in it. -/
def escaped (s : String) : String :=
  String.ofList (s.toList.flatMap escapeChar)

theorem encode_string (s : String) : (Json.string s).encode = "\"" ++ escaped s ++ "\"" := by
  rw [← String.toList_inj]
  simp [encode, escaped, chars, stringLiteral]

/-- The character stands for itself in a string literal. -/
def IsPlain (c : Char) : Prop :=
  IsMark c ∧ c ≠ '\\'
  deriving Decidable

/-- Every character of the text stands for itself. -/
def AllPlain (s : String) : Prop :=
  ∀ c ∈ s.toList, IsPlain c

instance (s : String) : Decidable (AllPlain s) :=
  List.decidableBAll IsPlain s.toList

theorem escapeChar_of_isPlain {c : Char} (h : IsPlain c) : escapeChar c = [c] := by
  obtain ⟨⟨hlow, hhigh, hquote⟩, hbackslash⟩ := h
  have hne {mark : Char} (hmark : mark.toNat < 0x20) : c ≠ mark := by
    rintro rfl
    omega
  unfold escapeChar
  rw [if_neg hquote, if_neg hbackslash, if_neg (hne (by decide)), if_neg (hne (by decide)),
    if_neg (hne (by decide)), if_neg (hne (by decide)), if_neg (hne (by decide)),
    if_pos ⟨hlow.le, hhigh⟩]

/-- A text without anything to escape is written as it is, between quotes. -/
theorem encode_plain (s : String) (h : AllPlain s) :
    (Json.string s).encode = "\"" ++ s ++ "\"" := by
  have hescaped : escaped s = s := by
    unfold escaped
    rw [List.flatMap_congr fun c hc => escapeChar_of_isPlain (h c hc), List.flatMap_singleton',
      String.ofList_toList]
  rw [encode_string, hescaped]

/-- There is nothing to escape in an integer. -/
theorem allPlain_toString (n : Int) : AllPlain (toString n) := by
  intro c h
  rw [toList_toString] at h
  refine ⟨allMarks_integerLiteral n c h, ?_⟩
  rintro rfl
  unfold integerLiteral at h
  dsimp only at h
  have hdigits : '\\' ∉ Nat.toDigits 10 n.natAbs :=
    fun hmem => absurd (isDigit_of_mem_toDigits hmem) (by decide)
  split at h
  · exact hdigits ((List.mem_cons.mp h).resolve_left (by decide))
  · exact hdigits h

theorem encode_integer (n : Int) : (Json.integer n).encode = toString n := by
  rw [← String.toList_inj, toList_toString, encode, String.toList_ofList, chars]

theorem encode_array (items : List Json) :
    (Json.array items).encode = "[" ++ ",".intercalate (items.map encode) ++ "]" := by
  have hitems : items.map (chars ⟨[], []⟩) = (items.map encode).map String.toList := by
    rw [List.map_map]
    exact List.map_congr_left fun item _ => String.toList_ofList.symm
  rw [← String.toList_inj, encode, String.toList_ofList, chars, itemChars_eq,
    separated_eq_intercalate, hitems]
  simp

/-- The members of an object are written in their order. -/
theorem encode_object (members : Members) :
    (Json.object members).encode = "\x7b" ++ ",".intercalate (members.map fun member =>
      (Json.string member.1).encode ++ ":" ++ member.2.encode) ++ "\x7d" := by
  have hmembers : members.map (memberText ⟨[], []⟩) = (members.map fun member =>
      (Json.string member.1).encode ++ ":" ++ member.2.encode).map String.toList := by
    rw [List.map_map]
    refine List.map_congr_left fun member _ => ?_
    simp [memberText, encode, chars]
  rw [← String.toList_inj, encode, String.toList_ofList, chars, memberChars_eq,
    separated_eq_intercalate, hmembers]
  simp

end Json

namespace Message

/-! ### A task to be created -/

/-- The text of the ends of a boundary that are set. -/
def boundaryText (boundary : Boundary) : String :=
  let start := boundary.start.map fun members => "\"start\":" ++ (Json.object members).encode
  let finish := boundary.finish.map fun members => "\"end\":" ++ (Json.object members).encode
  "\x7b" ++ ",".intercalate (start.toList ++ finish.toList) ++ "\x7d"

/-- The text of an action, with its limit on gas if it has one. -/
def actionText (action : Action) : String :=
  "\x7b\"msg\":" ++ (Json.object action.message).encode ++
    (match action.gasLimit with
      | some limit => ",\"gas_limit\":" ++ toString limit
      | none => "") ++ "\x7d"

/-- The text of rules that may be unset. -/
def rulesText : Option (List Json.Members) → String
  | some rules => (rulesToJson rules).encode
  | none => "null"

/-- The text that creates a task. -/
def creationText (task : TaskRequest) : String :=
  "\x7b\"create_task\":\x7b\"task\":\x7b\"interval\":" ++ task.interval.toJson.encode ++
    ",\"boundary\":" ++ boundaryText task.boundary ++
    ",\"stop_on_fail\":" ++ (if task.stopOnFail then "true" else "false") ++
    ",\"actions\":[" ++ ",".intercalate (task.actions.val.map actionText) ++
    "],\"rules\":" ++ rulesText task.rules ++ "\x7d\x7d\x7d"

theorem encode_rules (rules : Option (List Json.Members)) :
    ((rules.map rulesToJson).getD .null).encode = rulesText rules := by
  cases rules <;> rfl

/-- A boundary is written with its ends that are set. -/
theorem encode_boundary (boundary : Boundary) :
    (boundary.toJson .omitted).encode = boundaryText boundary := by
  have hstart : (Json.string "start").encode = _ := Json.encode_plain _ (by decide)
  have hfinish : (Json.string "end").encode = _ := Json.encode_plain _ (by decide)
  obtain ⟨start, finish⟩ := boundary
  rw [Boundary.toJson, Json.encode_object, boundaryText, ← String.toList_inj]
  cases start <;> cases finish <;> simp [Schema.Unset.member, hstart, hfinish]

/-- An action is written with its limit on gas if that is set. -/
theorem encode_action (action : Action) :
    (action.toJson .omitted).encode = actionText action := by
  have hmessage : (Json.string "msg").encode = _ := Json.encode_plain _ (by decide)
  have hlimit : (Json.string "gas_limit").encode = _ := Json.encode_plain _ (by decide)
  obtain ⟨message, limit⟩ := action
  rw [Action.toJson, Json.encode_object, actionText, ← String.toList_inj]
  cases limit <;> simp [Schema.Unset.member, hmessage, hlimit, Json.encode_integer]

theorem encode_single (name : String) (value : Json) :
    (single name value).encode =
      "\x7b" ++ (Json.string name).encode ++ ":" ++ value.encode ++ "\x7d" := by
  rw [single, Json.encode_object]
  simp [String.append_assoc]

/-- The text of the members of a task. -/
theorem encode_taskMembers (task : TaskRequest) :
    (Json.object (taskMembers task)).encode =
      "\x7b\"interval\":" ++ task.interval.toJson.encode ++
        ",\"boundary\":" ++ boundaryText task.boundary ++
        ",\"stop_on_fail\":" ++ (if task.stopOnFail then "true" else "false") ++
        ",\"actions\":[" ++ ",".intercalate (task.actions.val.map actionText) ++
        "],\"rules\":" ++ rulesText task.rules ++ "\x7d" := by
  -- No name of a member has anything to escape.
  have hinterval : (Json.string "interval").encode = _ := Json.encode_plain _ (by decide)
  have hboundary : (Json.string "boundary").encode = _ := Json.encode_plain _ (by decide)
  have hstop : (Json.string "stop_on_fail").encode = _ := Json.encode_plain _ (by decide)
  have hactions : (Json.string "actions").encode = _ := Json.encode_plain _ (by decide)
  have hrules : (Json.string "rules").encode = _ := Json.encode_plain _ (by decide)
  have htruth : (Json.bool task.stopOnFail).encode =
      if task.stopOnFail then "true" else "false" := by
    cases task.stopOnFail <;> rfl
  have htexts : (task.actions.val.map (·.toJson .omitted)).map Json.encode =
      task.actions.val.map actionText := by
    rw [List.map_map]
    exact List.map_congr_left fun action _ => encode_action action
  rw [Json.encode_object, taskMembers]
  simp only [List.map_cons, List.map_nil, String.intercalate_cons_cons,
    String.intercalate_singleton, hinterval, hboundary, hstop, hactions, hrules, htruth,
    encode_boundary, Json.encode_array, htexts, encode_rules]
  rw [← String.toList_inj]
  simp

theorem text_createTask (task : TaskRequest) : (createTask task).text = creationText task := by
  have hcreate : (Json.string "create_task").encode = _ := Json.encode_plain _ (by decide)
  have htask : (Json.string "task").encode = _ := Json.encode_plain _ (by decide)
  show (single "create_task" (single "task" (.object (taskMembers task)))).encode = _
  rw [encode_single, encode_single, hcreate, htask, encode_taskMembers]
  unfold creationText
  refine String.toList_inj.mp ?_
  simp

/-! ### A task that delegates -/

/-- What stands in front of the amount in the text that creates a delegation. -/
def delegationFront (validator denom : String) : String :=
  "\x7b\"create_task\":\x7b\"task\":\x7b\"interval\":\"Immediate\",\"boundary\":\x7b\x7d," ++
    "\"stop_on_fail\":false,\"actions\":[" ++
    "\x7b\"msg\":\x7b\"staking\":\x7b\"delegate\":\x7b\"validator\":\"" ++ validator ++
    "\",\"amount\":\x7b\"denom\":\"" ++ denom ++ "\",\"amount\":\""

/-- What stands behind it. -/
def delegationBehind (gasLimit : String) : String :=
  "\"\x7d\x7d\x7d\x7d,\"gas_limit\":" ++ gasLimit ++ "\x7d],\"rules\":null\x7d\x7d\x7d"

/-- The text that creates a delegation, with the blanks filled in. -/
def delegationText (validator denom amount gasLimit : String) : String :=
  delegationFront validator denom ++ amount ++ delegationBehind gasLimit

/-- The action of a delegation is a fixed text around four blanks. -/
theorem actionText_delegate (validator denom : String) (amount gasLimit : Int) :
    actionText (.delegate validator amount denom (some gasLimit)) =
      "\x7b\"msg\":\x7b\"staking\":\x7b\"delegate\":\x7b\"validator\":\"" ++
        Json.escaped validator ++ "\",\"amount\":\x7b\"denom\":\"" ++ Json.escaped denom ++
        "\",\"amount\":\"" ++ toString amount ++ "\"\x7d\x7d\x7d\x7d,\"gas_limit\":" ++
        toString gasLimit ++ "\x7d" := by
  have hstaking : (Json.string "staking").encode = _ := Json.encode_plain _ (by decide)
  have hdelegate : (Json.string "delegate").encode = _ := Json.encode_plain _ (by decide)
  have hvalidator : (Json.string "validator").encode = _ := Json.encode_plain _ (by decide)
  have hamount : (Json.string "amount").encode = _ := Json.encode_plain _ (by decide)
  have hdenom : (Json.string "denom").encode = _ := Json.encode_plain _ (by decide)
  have hdigits : (Json.string (toString amount)).encode = _ :=
    Json.encode_plain _ (Json.allPlain_toString amount)
  have hvalidator' := Json.encode_string validator
  have hdenom' := Json.encode_string denom
  rw [actionText, Action.delegate, Coin.toJson]
  simp only [Json.encode_object, List.map_cons, List.map_nil, String.intercalate_cons_cons,
    String.intercalate_singleton, hstaking, hdelegate, hvalidator, hamount, hdenom, hdigits,
    hvalidator', hdenom']
  refine String.toList_inj.mp ?_
  simp

/-- The message that creates a delegation is a fixed text around four blanks. -/
theorem text_delegate (validator denom : String) (amount gasLimit : Int) :
    (createTask (.delegate validator amount denom gasLimit)).text =
      delegationText (Json.escaped validator) (Json.escaped denom) (toString amount)
        (toString gasLimit) := by
  -- What is fixed in front of the action and behind it.
  have hfront : "\x7b\"create_task\":\x7b\"task\":\x7b\"interval\":" ++
      Interval.immediate.toJson.encode ++ ",\"boundary\":" ++ boundaryText .unbounded ++
      ",\"stop_on_fail\":" ++ (if false = true then "true" else "false") ++ ",\"actions\":[" =
      "\x7b\"create_task\":\x7b\"task\":\x7b\"interval\":\"Immediate\",\"boundary\":\x7b\x7d," ++
        "\"stop_on_fail\":false,\"actions\":[" := by decide +kernel
  have hbehind : "\x7d" ++ ("],\"rules\":" ++ (rulesText none ++ "\x7d\x7d\x7d")) =
      "\x7d],\"rules\":null\x7d\x7d\x7d" := by decide +kernel
  rw [text_createTask]
  unfold creationText TaskRequest.delegate
  dsimp only
  rw [hfront, List.map_singleton, String.intercalate_singleton, actionText_delegate]
  unfold delegationText delegationFront delegationBehind
  simp only [String.append_assoc, hbehind]

/-! ### What can be written -/

theorem writable_single_iff {depth : Nat} {name : String} {value : Json} :
    Json.Writable depth (single name value) ↔ 1 ≤ depth ∧ Json.Writable (depth - 1) value := by
  simp [single, Json.writable_object_iff]

theorem writable_coin_iff {depth : Nat} {coin : Coin} :
    Json.Writable depth coin.toJson ↔ 1 ≤ depth := by
  simp [Coin.toJson, Json.writable_object_iff]

/-- The brackets of the action, of its message, of the two names in that, and of the coin. -/
theorem writable_delegateAction_iff {depth : Nat} (validator denom : String)
    (amount gasLimit : Int) :
    Json.Writable depth ((Action.delegate validator amount denom (some gasLimit)).toJson .omitted) ↔
      FitsNumeral gasLimit ∧ 5 ≤ depth := by
  simp only [Action.delegate, Action.toJson, Schema.Unset.member, Json.writable_object_iff,
    writable_coin_iff, List.forall_mem_cons, Json.writable_string]
  simp
  grind

/-- The brackets of the message, of the task, of its members and of its actions come on top. -/
theorem writable_delegate_iff {depth : Nat} (validator denom : String) (amount gasLimit : Int) :
    Json.Writable depth (createTask (.delegate validator amount denom gasLimit)).toJson ↔
      FitsNumeral gasLimit ∧ 9 ≤ depth := by
  simp only [toJson, writable_single_iff, taskMembers, TaskRequest.delegate, Interval.toJson,
    Interval.immediate, Boundary.toJson, Boundary.unbounded, Schema.Unset.member,
    Json.writable_object_iff, Json.writable_array_iff, List.forall_mem_cons, List.map_cons,
    writable_delegateAction_iff]
  simp
  grind

/-- Nothing but the text of the message is written, and only where the message can be. -/
theorem write_eq_ok_iff {depth : Nat} {task : TaskRequest} {s : String} :
    (createTask task).write depth = .ok s ↔
      Json.Writable depth (createTask task).toJson ∧ s = creationText task := by
  rw [← text_createTask]
  exact Json.write_eq_ok_iff

/-- A delegation is written just if both integers fit a numeral and nine brackets may be open. -/
theorem writeDelegation_eq_ok_iff {depth : Nat} {validator denom s : String}
    {amount gasLimit : Int} :
    writeDelegation depth validator amount denom gasLimit = .ok s ↔
      FitsNumeral amount ∧ FitsNumeral gasLimit ∧ 9 ≤ depth ∧
        s = delegationText (Json.escaped validator) (Json.escaped denom) (toString amount)
          (toString gasLimit) := by
  have hwrite := @write_eq_ok_iff depth (.delegate validator amount denom gasLimit) s
  rw [writable_delegate_iff, ← text_createTask, text_delegate, and_assoc] at hwrite
  rw [← hwrite]
  -- The amount stops the writer before the message is there.
  by_cases hamount : FitsNumeral amount
  · have hdigits : Json.writeInteger amount = .ok (toString amount) :=
      Json.writeInteger_eq_ok_iff.mpr ⟨hamount, rfl⟩
    simp [writeDelegation, hdigits, hamount]
    rfl
  · simp [writeDelegation, Json.writeInteger, hamount]
    rintro ⟨⟩

/-- **The wording of a task.**  Objects are written member by member, in their order.  What is
written of the message that creates a task, and only within the limits of the writer, is the text
that has the interval, the boundary with its ends that are set, the word for whether it stops, the
actions in their order, each with its limit on gas if that is set, and the rules or `null`.  For a
delegation that is a fixed text with four blanks, and two delegations that differ in the amount only
have texts that differ in its digits only. -/
theorem createTask_wording :
    (∀ members : Json.Members, (Json.object members).encode =
      "\x7b" ++ ",".intercalate (members.map fun member =>
        (Json.string member.1).encode ++ ":" ++ member.2.encode) ++ "\x7d") ∧
    (∀ depth task s, (createTask task).write depth = .ok s ↔
      Json.Writable depth (createTask task).toJson ∧ s = creationText task) ∧
    (∀ depth validator amount denom gasLimit s,
      writeDelegation depth validator amount denom gasLimit = .ok s ↔
        FitsNumeral amount ∧ FitsNumeral gasLimit ∧ 9 ≤ depth ∧
          s = delegationText (Json.escaped validator) (Json.escaped denom) (toString amount)
            (toString gasLimit)) ∧
    ∀ validator denom gasLimit, ∃ front behind, ∀ depth amount s,
      writeDelegation depth validator amount denom gasLimit = .ok s →
        s = front ++ toString amount ++ behind := by
  refine ⟨Json.encode_object, fun _ _ _ => write_eq_ok_iff,
    fun _ _ _ _ _ _ => writeDelegation_eq_ok_iff, fun validator denom gasLimit => ?_⟩
  refine ⟨delegationFront (Json.escaped validator) (Json.escaped denom),
    delegationBehind (toString gasLimit), fun depth amount s h => ?_⟩
  obtain ⟨-, -, -, htext⟩ := writeDelegation_eq_ok_iff.mp h
  exact htext

/-! ### A task that cannot be written -/

/-- The request of one action without a message that may use `limit` gas. -/
def idleRequest (limit : Int) : Json :=
  .object [("actions", .array [.object [("msg", .object []), ("gas_limit", .integer limit)]])]

theorem exists_task_of_idleRequest (limit : Int) :
    ∃ task, TaskRequest.ofJson (idleRequest limit) = .valid task ∧
      task.actions.val = [⟨[], some limit⟩] :=
  ⟨_, rfl, rfl⟩

/-- The limits on gas of a task that can be written fit a numeral. -/
theorem fitsNumeral_of_writable {depth : Nat} {task : TaskRequest}
    (h : Json.Writable depth (createTask task).toJson) {action : Action}
    (haction : action ∈ task.actions.val) {limit : Int} (hlimit : action.gasLimit = some limit) :
    FitsNumeral limit := by
  simp only [toJson, writable_single_iff, taskMembers, Json.writable_object_iff,
    List.forall_mem_cons] at h
  obtain ⟨-, -, -, -, -, -, hactions, -⟩ := h
  obtain ⟨-, hactions⟩ := Json.writable_array_iff.mp hactions
  have hwritten := hactions _ (List.mem_map_of_mem haction)
  obtain ⟨-, hmembers⟩ := Json.writable_object_iff.mp hwritten
  have hmember : ("gas_limit", Json.integer limit) ∈ Schema.Unset.omitted.member "gas_limit"
      (action.gasLimit.map Json.integer) := by
    simp [hlimit, Schema.Unset.member]
  exact Json.writable_integer_iff.mp (hmembers _ (List.mem_cons_of_mem _ hmember))

/-- A limit on gas of one digit more than a numeral may have is accepted, but not written. -/
theorem not_forall_written :
    ¬ ∀ source task, TaskRequest.ofJson source = .valid task →
      ∃ depth, (createTask task).write depth = .ok (creationText task) := by
  intro hwritten
  obtain ⟨task, htask, hactions⟩ := exists_task_of_idleRequest (10 ^ maxNumeralDigits)
  obtain ⟨depth, hwrite⟩ := hwritten _ task htask
  have haction : ⟨[], some (10 ^ maxNumeralDigits)⟩ ∈ task.actions.val := by simp [hactions]
  exact not_fitsNumeral_pow
    (fitsNumeral_of_writable (write_eq_ok_iff.mp hwrite).1 haction rfl)

end Message

end ContractDrill
