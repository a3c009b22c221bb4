import ContractDrill.Proofs.Json.Unambiguous
import ContractDrill.Proofs.Task.Reading

/-!
# Unambiguous messages

Whoever knows the text of a message knows the message (`text_inj`): which one it is, and all that it
says.

A message is an object with one member, and its name is the topic of the message; no two kinds of
messages share a topic.  What stands under the name gives back the parts of the message.  For tasks
this is what reading them back comes to, whether they are to be created or asked about; what is left
out of a page is told from what is there by the names, and what is not asked of a slot is `null`.
-/

namespace ContractDrill

open Schema

/-! ### Parts of a message -/

/-- A text is no object, so the two forms of an interval are not mixed up. -/
theorem Interval.toJson_injective : Function.Injective Interval.toJson := by
  intro interval other h
  have hread := Interval.ofJson_toJson interval
  rw [h, Interval.ofJson_toJson other] at hread
  exact (Verdict.valid.inj hread).symm

/-- A stored task still has all that was requested. -/
theorem TaskRequest.stored_inj {task task' : TaskRequest} {hash hash' owner owner' : String}
    {deposit deposit' : List Coin}
    (h : task.stored hash owner deposit = task'.stored hash' owner' deposit') :
    task = task' ∧ hash = hash' ∧ owner = owner' ∧ deposit = deposit' := by
  obtain ⟨interval, boundary, stopOnFail, actions, rules⟩ := task
  obtain ⟨interval', boundary', stopOnFail', actions', rules'⟩ := task'
  simp only [stored, StoredTask.mk.injEq, Option.some.injEq] at h
  obtain ⟨hhash, howner, rfl, rfl, rfl, hdeposit, hactions, rfl⟩ := h
  obtain rfl := Subtype.ext hactions
  exact ⟨rfl, hhash, howner, hdeposit⟩

namespace Message

/-- A task is read back from its members. -/
theorem taskMembers_injective : Function.Injective taskMembers := by
  intro task other h
  have hread := TaskRequest.ofJson_taskMembers task
  rw [h, TaskRequest.ofJson_taskMembers other] at hread
  exact (Verdict.valid.inj hread).symm

/-- A task whose hash is asked for is known from its members, with its owner and its deposit. -/
theorem hashedMembers_inj {task task' : TaskRequest} {owner owner' : String}
    {deposit deposit' : List Coin}
    (h : hashedMembers task owner deposit = hashedMembers task' owner' deposit') :
    task = task' ∧ owner = owner' ∧ deposit = deposit' := by
  -- Any hash makes a stored task of the members.
  have hread := StoredTask.ofJson_hashedMembers task "" owner deposit
  rw [h, StoredTask.ofJson_hashedMembers task' "" owner' deposit'] at hread
  obtain ⟨htask, -, howner, hdeposit⟩ := TaskRequest.stored_inj (Verdict.valid.inj hread).symm
  exact ⟨htask, howner, hdeposit⟩

theorem get?_pageMembers (fromIndex limit : Option Int) :
    (pageMembers fromIndex limit).get? "from_index" = fromIndex.map Json.integer ∧
      (pageMembers fromIndex limit).get? "limit" = limit.map Json.integer := by
  cases fromIndex <;> cases limit <;> exact ⟨rfl, rfl⟩

theorem pageMembers_inj {fromIndex fromIndex' limit limit' : Option Int}
    (h : pageMembers fromIndex limit = pageMembers fromIndex' limit') :
    fromIndex = fromIndex' ∧ limit = limit' := by
  have hinteger : Function.Injective Json.integer := fun _ _ => Json.integer.inj
  obtain ⟨hfrom, hlimit⟩ := get?_pageMembers fromIndex limit
  obtain ⟨hfrom', hlimit'⟩ := get?_pageMembers fromIndex' limit'
  rw [h] at hfrom hlimit
  exact ⟨Option.map_injective hinteger (hfrom.symm.trans hfrom'),
    Option.map_injective hinteger (hlimit.symm.trans hlimit')⟩

/-! ### Topics -/

/-- The name under which a message says all that it says. -/
def topic : Message → String
  | instantiate _ => "denom"
  | registerAgent => "register_agent"
  | proxyCall => "proxy_call"
  | createTask _ => "create_task"
  | removeTask _ => "remove_task"
  | refillTaskBalance _ => "refill_task_balance"
  | queryTasks _ _ => "get_tasks"
  | queryTasksOfOwner _ => "get_tasks_by_owner"
  | queryTask _ => "get_task"
  | validateInterval _ => "validate_interval"
  | queryTaskHash _ _ _ => "get_task_hash"
  | querySlotIds => "get_slot_ids"
  | querySlotHashes _ => "get_slot_hashes"

theorem single_inj {name name' : String} {value value' : Json} :
    single name value = single name' value' ↔ name = name' ∧ value = value' := by
  simp [single]

/-- Every message is an object with one member, of its topic. -/
theorem exists_toJson_eq (message : Message) :
    ∃ body, message.toJson = single message.topic body := by
  cases message <;> exact ⟨_, rfl⟩

theorem topic_eq_of_toJson_eq {message other : Message} (h : message.toJson = other.toJson) :
    message.topic = other.topic := by
  obtain ⟨body, hbody⟩ := exists_toJson_eq message
  obtain ⟨body', hbody'⟩ := exists_toJson_eq other
  rw [hbody, hbody'] at h
  exact (single_inj.mp h).1

/-! ### Values and texts -/

/-- A value is sent by one message only. -/
theorem toJson_injective : Function.Injective toJson := by
  intro message other h
  have htopic := topic_eq_of_toJson_eq h
  -- Once the kinds are the same, only the parts are left to be compared.
  cases message with
  | instantiate denom =>
    cases other with
    | instantiate denom' =>
      have hdenom := (single_inj.mp h).2
      exact congrArg instantiate (Json.string.inj hdenom)
    | _ => simp [topic] at htopic
  | registerAgent =>
    cases other with
    | registerAgent => rfl
    | _ => simp [topic] at htopic
  | proxyCall =>
    cases other with
    | proxyCall => rfl
    | _ => simp [topic] at htopic
  | createTask task =>
    cases other with
    | createTask task' =>
      have htask := (single_inj.mp (single_inj.mp h).2).2
      exact congrArg createTask (taskMembers_injective (Json.object.inj htask))
    | _ => simp [topic] at htopic
  | removeTask hash =>
    cases other with
    | removeTask hash' =>
      have hhash := (single_inj.mp (single_inj.mp h).2).2
      exact congrArg removeTask (Json.string.inj hhash)
    | _ => simp [topic] at htopic
  | refillTaskBalance hash =>
    cases other with
    | refillTaskBalance hash' =>
      have hhash := (single_inj.mp (single_inj.mp h).2).2
      exact congrArg refillTaskBalance (Json.string.inj hhash)
    | _ => simp [topic] at htopic
  | queryTasks fromIndex limit =>
    cases other with
    | queryTasks fromIndex' limit' =>
      have hpage := (single_inj.mp h).2
      obtain ⟨rfl, rfl⟩ := pageMembers_inj (Json.object.inj hpage)
      rfl
    | _ => simp [topic] at htopic
  | queryTasksOfOwner owner =>
    cases other with
    | queryTasksOfOwner owner' =>
      have howner := (single_inj.mp (single_inj.mp h).2).2
      exact congrArg queryTasksOfOwner (Json.string.inj howner)
    | _ => simp [topic] at htopic
  | queryTask hash =>
    cases other with
    | queryTask hash' =>
      have hhash := (single_inj.mp (single_inj.mp h).2).2
      exact congrArg queryTask (Json.string.inj hhash)
    | _ => simp [topic] at htopic
  | validateInterval interval =>
    cases other with
    | validateInterval interval' =>
      have hinterval := (single_inj.mp (single_inj.mp h).2).2
      exact congrArg validateInterval (Interval.toJson_injective hinterval)
    | _ => simp [topic] at htopic
  | queryTaskHash task owner deposit =>
    cases other with
    | queryTaskHash task' owner' deposit' =>
      have htask := (single_inj.mp (single_inj.mp h).2).2
      obtain ⟨rfl, rfl, rfl⟩ := hashedMembers_inj (Json.object.inj htask)
      rfl
    | _ => simp [topic] at htopic
  | querySlotIds =>
    cases other with
    | querySlotIds => rfl
    | _ => simp [topic] at htopic
  | querySlotHashes slot =>
    cases other with
    | querySlotHashes slot' =>
      have hslot := (single_inj.mp (single_inj.mp h).2).2
      cases slot <;> cases slot'
      · rfl
      · cases hslot
      · cases hslot
      · exact congrArg (querySlotHashes ∘ some) (Json.integer.inj hslot)
    | _ => simp [topic] at htopic

/-- **Messages are unambiguous**: two of them have one text only if they are the same message. -/
theorem text_inj {message other : Message} : message.text = other.text ↔ message = other := by
  constructor
  · intro h
    exact toJson_injective (Json.encode_injective h)
  · exact congrArg text

end Message

end ContractDrill
