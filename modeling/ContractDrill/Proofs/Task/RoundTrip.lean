import ContractDrill.Answer.ContractAnswer
import ContractDrill.Proofs.Json.RoundTrip
import ContractDrill.Proofs.Task.Reading

/-!
# Tasks there and back

A task is sent to the contract twice: to create it, and to ask for its hash.  Whoever decodes the
message that creates it finds the very request that it was made of (`exists_request_of_createTask`).
Nothing is lost with what the message leaves out, and what it keeps is not touched: no `null` inside
a free-form object is dropped.

The contract describes a stored task in the words of the question for its hash.  A listing of such
descriptions is read as the tasks that were asked about, and the words that they share with the
message that creates the task are the same (`read_listing`).
-/

namespace ContractDrill

/-- The description of a task inside the message of the given name. -/
def describedTask? (name : String) (sent : Json) : Option Json :=
  (sent.member? name).bind (Json.member? "task")

/-! ### Creating a task -/

/-- The message is decoded to the value that it was made of, if that is within the limits. -/
theorem decode_createTask {task : TaskRequest}
    (hfits : Json.Fits .usual Json.Limits.usual.depth (Message.createTask task).toJson) :
    Json.decode .usual (Message.createTask task).text = .ok (Message.createTask task).toJson :=
  Json.decode_of_isTextOf .usual hfits (Json.isTextOf_encode _)

/-- The message that creates a task still says all about it, if it is within the limits of the
reader. -/
theorem exists_request_of_createTask (task : TaskRequest)
    (hfits : Json.Fits .usual Json.Limits.usual.depth (Message.createTask task).toJson) :
    ∃ sent description, Json.decode .usual (Message.createTask task).text = .ok sent ∧
      describedTask? "create_task" sent = some description ∧
      TaskRequest.ofJson description = .valid task := by
  have hdecode := decode_createTask hfits
  exact ⟨_, _, hdecode, rfl, TaskRequest.ofJson_taskMembers task⟩

/-- A task with one end of its boundary and one of its limits on gas, and with a double and several
`null`s in its free-form objects. -/
def boundedTask : TaskRequest where
  interval := .custom [("Block", .integer 5), ("note", .null)]
  boundary := ⟨none, some [("height", .integer 90), ("note", .null)]⟩
  stopOnFail := true
  actions := ⟨[⟨[("bank", .object [("send", .null), ("rate", .number (.ofDecimal false 15 (-1)))])],
    none⟩, ⟨[], some 250000⟩], by simp⟩
  rules := some [[("note", .array [.null, .bool false])]]

theorem fits_boundedTask : Json.Fits .usual 5 (.object (Message.taskMembers boundedTask)) := by
  have hblocks : FitsNumeral 5 := by decide
  have hheight : FitsNumeral 90 := by decide
  have hgas : FitsNumeral 250000 := by decide
  simp [Message.taskMembers, boundedTask, Interval.toJson, Boundary.toJson, Action.toJson,
    rulesToJson, Schema.Unset.member, hblocks, hheight, hgas]

theorem exists_request_of_boundedTask :
    Json.Fits .usual Json.Limits.usual.depth (Message.createTask boundedTask).toJson ∧
      ∃ sent description, Json.decode .usual (Message.createTask boundedTask).text = .ok sent ∧
        describedTask? "create_task" sent = some description ∧
        TaskRequest.ofJson description = .valid boundedTask := by
  have hmessage : Json.Fits .usual 7 (Message.createTask boundedTask).toJson := by
    simpa [Message.toJson, Message.single] using fits_boundedTask
  have hfits : Json.Fits .usual Json.Limits.usual.depth (Message.createTask boundedTask).toJson :=
    hmessage.mono (by decide)
  exact ⟨hfits, exists_request_of_createTask boundedTask hfits⟩

/-! ### Listing stored tasks -/

/-- A request in the books of the contract. -/
structure Filing where
  hash : String
  owner : String
  task : TaskRequest
  deposit : List Coin

namespace Filing

/-- The message that asks for the hash. -/
def question (filing : Filing) : Message :=
  .queryTaskHash filing.task filing.owner filing.deposit

/-- The task that the contract stores. -/
def stored (filing : Filing) : StoredTask :=
  filing.task.stored filing.hash filing.owner filing.deposit

/-- The value describes the stored task: by its hash, and behind it by the members of the question
for the hash. -/
def IsEntry (filing : Filing) (value : Json) : Prop :=
  ∃ members, describedTask? "get_task_hash" filing.question.toJson = some (.object members) ∧
    value = .object (("task_hash", .string filing.hash) :: members)

/-- The value that describes the stored task. -/
def entry (filing : Filing) : Json :=
  .object (("task_hash", .string filing.hash) ::
    Message.hashedMembers filing.task filing.owner filing.deposit)

/-- The hash, the owner and the deposit add no nesting. -/
theorem fits_entry {filing : Filing} {depth : Nat}
    (h : Json.Fits .usual (depth + 3) (.object (Message.taskMembers filing.task))) :
    Json.Fits .usual (depth + 3) filing.entry := by
  have hcoin (coin : Coin) : Json.Fits .usual (depth + 1) coin.toJson := by simp [Coin.toJson]
  simp only [Message.taskMembers, Json.fits_object_iff, List.forall_mem_cons] at h
  obtain ⟨-, hinterval, hboundary, -, hactions, hrules, -⟩ := h
  unfold entry Message.hashedMembers
  refine .object (by simp) ?_
  simp [hinterval, hboundary, hactions, hrules, hcoin]

theorem isEntry_iff {filing : Filing} {value : Json} :
    filing.IsEntry value ↔ value = filing.entry := by
  constructor
  · rintro ⟨members, hmembers, rfl⟩
    obtain rfl := Json.object.inj (Option.some.inj hmembers)
    rfl
  · rintro rfl
    exact ⟨_, rfl, rfl⟩

theorem ofJson_of_isEntry {filing : Filing} {value : Json} (h : filing.IsEntry value) :
    StoredTask.ofJson value = .valid filing.stored := by
  rw [isEntry_iff.mp h]
  exact StoredTask.ofJson_hashedMembers filing.task filing.hash filing.owner filing.deposit

end Filing

/-- The value lists the entries, wrapped or not. -/
def IsTaskListing (filings : List Filing) (answer : Json) : Prop :=
  ∃ entries, List.Forall₂ Filing.IsEntry filings entries ∧
    (answer = .array entries ∨ answer = .object [("data", .array entries)])

/-- Entries are read one by one, and their order is kept. -/
theorem items_of_forall₂ {filings : List Filing} {entries : List Json}
    (h : List.Forall₂ Filing.IsEntry filings entries) (position : Nat) :
    Schema.items StoredTask.ofJson position entries = .valid (filings.map Filing.stored) := by
  induction h generalizing position with
  | nil => rfl
  | cons hentry hrest ih =>
    rw [Schema.items, Filing.ofJson_of_isEntry hentry, ih]
    rfl

/-- The entries of a listing are read as the stored tasks, in their order. -/
theorem read_of_isTaskListing {filings : List Filing} {answer : Json}
    (h : IsTaskListing filings answer) (hfits : Json.Fits .usual Json.Limits.usual.depth answer)
    {text : String} (htext : answer.IsTextOf text) :
    TaskList.read text = .ok (filings.map Filing.stored) := by
  obtain ⟨entries, hentries, hanswer⟩ := h
  have hunwrap : Payload.unwrap answer = .array entries := by
    rcases hanswer with rfl | rfl <;> rfl
  have hpayload : TaskList.ofJson (.array entries) = .valid (filings.map Filing.stored) := by
    have hitems := items_of_forall₂ hentries 0
    cases entries with
    | nil => exact hitems
    | cons entry rest => exact hitems
  unfold TaskList.read Payload.readAs Payload.read
  rw [Json.decode_of_isTextOf .usual hfits htext]
  dsimp only [Except.map]
  rw [hunwrap, hpayload]

/-- The names that only the question for a hash has. -/
def isOnlyAsked (name : String) : Bool :=
  name = "owner_id" || name = "total_deposit"

/-- The question for a hash has all the members of the request, and some that are only
asked with. -/
theorem filter_hashedMembers (task : TaskRequest) (owner : String) (deposit : List Coin) :
    (Message.hashedMembers task owner deposit).filter (fun member => !isOnlyAsked member.1) =
      Message.taskMembers task := rfl

/-- A listing of stored tasks is read as what was requested, and the question for the hash of a task
says the same of it as the message that creates it. -/
theorem read_listing {filings : List Filing} {answer : Json} (h : IsTaskListing filings answer)
    (hfits : Json.Fits .usual Json.Limits.usual.depth answer) {text : String}
    (htext : answer.IsTextOf text) :
    TaskList.read text = .ok (filings.map Filing.stored) ∧
      ∀ filing ∈ filings, ∃ asked created,
        describedTask? "get_task_hash" filing.question.toJson = some (.object asked) ∧
        describedTask? "create_task" (Message.createTask filing.task).toJson =
          some (.object created) ∧
        asked.filter (fun member => !isOnlyAsked member.1) = created := by
  refine ⟨read_of_isTaskListing h hfits htext, fun filing _ => ?_⟩
  exact ⟨_, _, rfl, rfl, filter_hashedMembers filing.task filing.owner filing.deposit⟩

/-- Two tasks of one owner. -/
def twoFilings : List Filing :=
  [⟨"a7", "juno1owner", boundedTask, [⟨"ujuno", "40"⟩, ⟨"uatom", "0"⟩]⟩,
    ⟨"b8", "juno1owner", .delegate "junovaloper1" 7 "ujuno" 150000, []⟩]

theorem read_listing_twoFilings :
    let answer := Json.object [("data", .array (twoFilings.map Filing.entry))]
    IsTaskListing twoFilings answer ∧ Json.Fits .usual Json.Limits.usual.depth answer ∧
      answer.IsTextOf answer.encodeSpaced ∧
      TaskList.read answer.encodeSpaced = .ok (twoFilings.map Filing.stored) := by
  intro answer
  have hlisting : IsTaskListing twoFilings answer := by
    refine ⟨twoFilings.map Filing.entry, ?_, .inr rfl⟩
    rw [List.forall₂_map_right_iff, List.forall₂_same]
    exact fun filing _ => Filing.isEntry_iff.mpr rfl
  -- Both entries are shallow.
  have hfits : Json.Fits .usual Json.Limits.usual.depth answer := by
    have hgas : FitsNumeral 150000 := by decide
    have hdelegate : Json.Fits .usual 7 (.object (Message.taskMembers
        (.delegate "junovaloper1" 7 "ujuno" 150000))) := by
      simp [Message.taskMembers, TaskRequest.delegate, Action.delegate, Interval.toJson,
        Interval.immediate, Boundary.toJson, Boundary.unbounded, Action.toJson, Coin.toJson,
        Schema.Unset.member, hgas]
    have hentries : ∀ value ∈ twoFilings.map Filing.entry, Json.Fits .usual 7 value := by
      simp only [twoFilings, List.map_cons, List.map_nil, List.forall_mem_cons]
      exact ⟨Filing.fits_entry (fits_boundedTask.mono (by decide)),
        Filing.fits_entry hdelegate, by simp⟩
    have hanswer : Json.Fits .usual 9 answer := .object (by simp) (by simpa using hentries)
    exact hanswer.mono (by decide)
  have htext := Json.isTextOf_encodeSpaced answer
  exact ⟨hlisting, hfits, htext, (read_listing hlisting hfits htext).1⟩

end ContractDrill
