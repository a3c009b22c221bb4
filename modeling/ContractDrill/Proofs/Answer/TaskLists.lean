import ContractDrill.Proofs.Answer.Payload
import ContractDrill.Proofs.Json.Wire
import ContractDrill.Proofs.Schema.Acceptance

/-!
# Which payloads are task lists

A payload lists tasks if it is an array of objects each of which is a stored task, or `null`, which
lists none (`TaskList.Lists`).  Every task list is read as such; but what is read as the empty list
need not be one: `false`, zero and the empty text and object count as absent too, and what is absent
is the empty list (`TaskList.read_eq_ok_iff`).  Any other payload is rejected, each with what is
wrong with it.
-/

namespace ContractDrill

namespace Json

/-- The value counts as absent, although it is neither `null` nor an array. -/
inductive IsMistaken : Json → Prop where
  | falsehood : IsMistaken (.bool false)
  | zero : IsMistaken (.integer 0)
  | zeroNumber (negative : Bool) : IsMistaken (.number (.zero negative))
  | emptyText : IsMistaken (.string "")
  | emptyObject : IsMistaken (.object [])

/-- A number whose numerator is zero is a zero of one of the two signs. -/
theorem eq_zero_of_ratio {x : Binary64} (h : (x.ratio.any fun (num, _) => num = 0) = true) :
    ∃ negative, x = .zero negative := by
  cases x with
  | finite negative mantissa exponent hform =>
    have hmantissa : mantissa = 0 := by
      simpa [Binary64.ratio, scaleDown] using h
    subst hmantissa
    -- The canonical form of zero has the least exponent.
    have hexponent : exponent = -1074 := by
      rcases hform.2.2.2 with hfull | hleast
      · exact absurd hfull (by decide)
      · exact hleast
    subst hexponent
    exact ⟨negative, rfl⟩
  | infinity negative => cases h
  | nan => cases h

/-- What counts as absent is `null`, the empty array, or mistaken for them. -/
theorem isFalsy_iff {value : Json} :
    value.isFalsy = true ↔ value = .null ∨ value = .array [] ∨ IsMistaken value := by
  constructor
  · intro h
    cases value with
    | null => exact .inl rfl
    | bool value =>
      cases value with
      | false => exact .inr (.inr .falsehood)
      | true => cases h
    | integer n =>
      obtain rfl : n = 0 := by simpa [isFalsy] using h
      exact .inr (.inr .zero)
    | number x =>
      obtain ⟨negative, rfl⟩ := eq_zero_of_ratio h
      exact .inr (.inr (.zeroNumber negative))
    | string s =>
      obtain rfl : s = "" := by simpa [isFalsy] using h
      exact .inr (.inr .emptyText)
    | array items =>
      obtain rfl : items = [] := by simpa [isFalsy] using h
      exact .inr (.inl rfl)
    | object members =>
      obtain rfl : members = [] := by simpa [isFalsy] using h
      exact .inr (.inr .emptyObject)
  · rintro (rfl | rfl | hmistaken)
    · rfl
    · rfl
    · cases hmistaken <;> rfl

end Json

namespace TaskList

/-- The payload lists the tasks: it is an array of as many objects, each of which is its task, or
`null`, and there are none. -/
def Lists (payload : Json) (tasks : List StoredTask) : Prop :=
  payload = .null ∧ tasks = [] ∨
    ∃ objects : List Json.Members, payload = .array (objects.map .object) ∧
      List.Forall₂ (fun members task => StoredTask.ofJson (.object members) = .valid task)
        objects tasks

/-- Stored tasks are only read from objects. -/
theorem forall₂_storedTask_iff {parts : List Json} {tasks : List StoredTask} :
    List.Forall₂ (fun part task => StoredTask.ofJson part = .valid task) parts tasks ↔
      ∃ objects : List Json.Members, parts = objects.map .object ∧
        List.Forall₂ (fun members task => StoredTask.ofJson (.object members) = .valid task)
          objects tasks := by
  constructor
  · intro h
    induction h with
    | nil => exact ⟨[], rfl, .nil⟩
    | cons hpart _ ih =>
      obtain ⟨objects, rfl, hobjects⟩ := ih
      -- A stored task is read from nothing but an object.
      obtain ⟨members, rfl, -⟩ := Schema.record_eq_valid_iff.mp hpart
      exact ⟨members :: objects, rfl, .cons hpart hobjects⟩
  · rintro ⟨objects, rfl, hobjects⟩
    exact List.forall₂_map_left_iff.mpr hobjects

theorem lists_array_iff {parts : List Json} {tasks : List StoredTask} :
    Lists (.array parts) tasks ↔ Schema.list StoredTask.ofJson (.array parts) = .valid tasks := by
  simp [Lists, Schema.list_eq_valid_iff, forall₂_storedTask_iff]

theorem lists_null_iff {tasks : List StoredTask} : Lists .null tasks ↔ tasks = [] := by
  simp [Lists]

theorem lists_nil_iff {tasks : List StoredTask} : Lists (.array []) tasks ↔ tasks = [] := by
  simp [Lists, eq_comm]

theorem not_lists_of_isMistaken {payload : Json} (h : payload.IsMistaken)
    (tasks : List StoredTask) : ¬Lists payload tasks := by
  cases h <;> simp [Lists]

theorem ofJson_of_isFalsy {payload : Json} (h : payload.isFalsy = true) :
    ofJson payload = .valid [] := by
  unfold ofJson
  rw [if_pos h]
  rfl

/-- A payload is accepted for what it lists, and as the empty list if it is mistaken for one. -/
theorem ofJson_eq_valid_iff {payload : Json} {tasks : List StoredTask} :
    ofJson payload = .valid tasks ↔ Lists payload tasks ∨ payload.IsMistaken ∧ tasks = [] := by
  -- A payload that counts as absent is replaced by the empty list before it is read.
  by_cases hfalsy : payload.isFalsy = true
  · have hlists : Lists payload tasks ∨ payload.IsMistaken ∧ tasks = [] ↔ tasks = [] := by
      rcases Json.isFalsy_iff.mp hfalsy with rfl | rfl | hmistaken
      · simp [lists_null_iff]
      · simp [lists_nil_iff]
      · simp [not_lists_of_isMistaken hmistaken, hmistaken]
    rw [hlists, ofJson_of_isFalsy hfalsy]
    exact ⟨fun h => (Verdict.valid.inj h).symm, fun h => h ▸ rfl⟩
  · have hmistaken : ¬payload.IsMistaken := fun h => hfalsy (Json.isFalsy_iff.mpr (.inr (.inr h)))
    unfold ofJson
    rw [if_neg hfalsy]
    cases payload with
    | array parts => simp [← lists_array_iff, hmistaken]
    | null => cases hfalsy rfl
    | _ => simp [Schema.list, Verdict.broken, Lists, hmistaken]

/-- A list is read from exactly the texts whose payload has it, except that the empty one is also
read from a payload that is mistaken for it. -/
theorem read_eq_ok_iff {text : String} {tasks : List StoredTask} :
    read text = .ok tasks ↔
      ∃ payload, Payload.IsPayload text payload ∧
        (Lists payload tasks ∨ payload.IsMistaken ∧ tasks = []) := by
  unfold read
  simp only [Payload.readAs_eq_ok_iff, ofJson_eq_valid_iff]

/-- A payload that lists nothing, and is not mistaken for a list, is rejected as such. -/
theorem exists_invalid_of_not_lists {text : String} {payload : Json}
    (hpayload : Payload.IsPayload text payload) (hmistaken : ¬payload.IsMistaken)
    (hlists : ∀ tasks, ¬Lists payload tasks) :
    ∃ issues, read text = .error (.invalid issues) := by
  cases hmeaning : ofJson payload with
  | invalid issues =>
    exact ⟨issues, Payload.readAs_eq_invalid_iff.mpr ⟨payload, hpayload, hmeaning⟩⟩
  | valid tasks =>
    rcases ofJson_eq_valid_iff.mp hmeaning with h | ⟨h, -⟩
    · exact absurd h (hlists tasks)
    · exact absurd h hmistaken

/-- **What is read as a task list.**  It is what the payload lists, and every list is read; a
payload that is mistaken for an empty list is read as one; and of any other payload it is said what
is wrong with it. -/
theorem read_lists_iff (text : String) :
    (∀ tasks, read text = .ok tasks ↔
      ∃ payload, Payload.IsPayload text payload ∧
        (Lists payload tasks ∨ payload.IsMistaken ∧ tasks = [])) ∧
    (∀ payload, Payload.IsPayload text payload → ¬payload.IsMistaken →
      (∀ tasks, ¬Lists payload tasks) → ∃ issues, read text = .error (.invalid issues)) ∧
    (∀ error, Json.decode .usual text = .error error → read text = .error (.unreadable error)) :=
  ⟨fun _ => read_eq_ok_iff, fun _ => exists_invalid_of_not_lists,
    fun _ => Payload.readAs_of_decode_eq_error⟩

theorem isPayload_true : Payload.IsPayload "true" (.bool true) := by
  have htext : "true" = (Json.bool true).encode := by decide +kernel
  have hfits : Json.Fits .usual Json.Limits.usual.depth (.bool true) := by simp
  exact .bare (htext ▸ Json.decode_encode .usual hfits) fun _ => Json.noConfusion

/-- A truth value is no task list, and is rejected. -/
theorem exists_invalid_true : ∃ issues, read "true" = .error (.invalid issues) := by
  have hmistaken : ¬(Json.bool true).IsMistaken := by rintro ⟨⟩
  have hlists (tasks : List StoredTask) : ¬Lists (.bool true) tasks := by simp [Lists]
  exact (read_lists_iff "true").2.1 _ isPayload_true hmistaken hlists

/-- An answer that is wrapped around an empty object. -/
def emptyAnswer : String := "\x7b\"data\":\x7b\x7d\x7d"

theorem isPayload_emptyAnswer : Payload.IsPayload emptyAnswer (.object []) := by
  have htext : emptyAnswer = (Json.object [("data", .object [])]).encode := by decide +kernel
  have hfits : Json.Fits .usual 2 (.object [("data", .object [])]) := by simp
  exact .wrapped (htext ▸ Json.decode_encode .usual (hfits.mono (by decide))) rfl

/-- The empty object is no task list, and is read as one. -/
theorem not_forall_lists :
    ¬∀ text tasks, read text = .ok tasks →
      ∃ payload, Payload.IsPayload text payload ∧ Lists payload tasks := by
  intro h
  have hread : read emptyAnswer = .ok [] :=
    read_eq_ok_iff.mpr ⟨_, isPayload_emptyAnswer, .inr ⟨.emptyObject, rfl⟩⟩
  obtain ⟨payload, hpayload, hlists⟩ := h emptyAnswer [] hread
  rw [hpayload.unique isPayload_emptyAnswer] at hlists
  exact not_lists_of_isMistaken .emptyObject [] hlists

end TaskList

end ContractDrill
