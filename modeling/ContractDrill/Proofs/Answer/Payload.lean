import ContractDrill.Answer.ContractAnswer
import ContractDrill.Proofs.Json.Stopping

/-!
# Which payloads are settled

A query is settled if its answer is read, or rejected as a payload.  An answer is never left open
for what it means, only for what the decoder refuses to look at: brackets beyond its depth and
integers beyond its numerals (`Payload.settles_readAs_iff`).  Of these the integers need no more
than a long row of digits, so a short query can end in an error that nobody is told about
(`Payload.not_forall_queries_settle`).
-/

namespace ContractDrill

namespace Payload

variable {α : Type} {text : String}

/-! ### Payloads -/

/-- The value is the payload of the text: what stands under `data` in the object that the text
writes, or all that the text writes if there is no such member. -/
inductive IsPayload (text : String) : Json → Prop where
  | wrapped {members : Json.Members} {payload : Json}
      (hdecode : Json.decode .usual text = .ok (.object members))
      (hdata : members.lookup "data" = some payload) : IsPayload text payload
  | bare {answer : Json} (hdecode : Json.decode .usual text = .ok answer)
      (hdata : ∀ members, answer = .object members → members.lookup "data" = none) :
      IsPayload text answer

/-- The payload of an answer that is decoded is what is left of it without its wrapping. -/
theorem isPayload_unwrap {answer : Json} (hdecode : Json.decode .usual text = .ok answer) :
    IsPayload text (unwrap answer) := by
  unfold unwrap
  cases hdata : answer.member? "data" with
  | none =>
    refine .bare hdecode ?_
    rintro members rfl
    exact hdata
  | some payload =>
    cases answer with
    | object members => exact .wrapped hdecode hdata
    | _ => cases hdata

/-- What is read is the payload of the text. -/
theorem read_eq_ok_iff {payload : Json} : read text = .ok payload ↔ IsPayload text payload := by
  unfold read
  constructor
  · intro h
    cases hdecode : Json.decode .usual text with
    | error error =>
      rw [hdecode] at h
      cases h
    | ok answer =>
      rw [hdecode] at h
      obtain rfl := Except.ok.inj h
      exact isPayload_unwrap hdecode
  -- A payload stands under `data`, or it is the answer itself.
  · rintro (⟨hdecode, hdata⟩ | ⟨hdecode, hdata⟩)
    · rw [hdecode]
      exact congrArg Except.ok (by simp [unwrap, Json.member?, hdata])
    · rw [hdecode]
      refine congrArg Except.ok ?_
      cases payload with
      | object members => simp [unwrap, Json.member?, hdata members rfl]
      | _ => rfl

/-- A text has one payload at most. -/
theorem IsPayload.unique {payload payload' : Json} (h : IsPayload text payload)
    (h' : IsPayload text payload') : payload = payload' :=
  Except.ok.inj ((read_eq_ok_iff.mpr h).symm.trans (read_eq_ok_iff.mpr h'))

/-- Only the decoder fails. -/
theorem read_eq_error_iff {error : Json.Error} :
    read text = .error error ↔ Json.decode .usual text = .error error := by
  unfold read
  cases Json.decode .usual text <;> simp [Except.map]

/-! ### Meanings -/

section

variable {meaning : Json → Verdict α}

theorem readAs_of_isPayload {payload : Json} (h : IsPayload text payload) :
    readAs meaning text =
      match meaning payload with
      | .valid value => .ok value
      | .invalid issues => .error (.invalid issues) := by
  have hread := read_eq_ok_iff.mpr h
  cases hmeaning : meaning payload <;> simp [readAs, hread, hmeaning]

theorem readAs_of_decode_eq_error {error : Json.Error}
    (h : Json.decode .usual text = .error error) :
    readAs meaning text = .error (.unreadable error) := by
  simp [readAs, read_eq_error_iff.mpr h]

/-- What comes of a text that the decoder reads is told by its payload alone. -/
theorem readAs_eq_iff {result : Except Error α} {p : Json → Prop}
    (hreadable : ∀ error, .error (.unreadable error) ≠ result)
    (hpayload : ∀ payload, IsPayload text payload → (readAs meaning text = result ↔ p payload)) :
    readAs meaning text = result ↔ ∃ payload, IsPayload text payload ∧ p payload := by
  cases hread : read text with
  | error error =>
    -- Where nothing is decoded there is no payload, and both sides are false.
    have hnone (payload : Json) : ¬IsPayload text payload := by
      simp [← read_eq_ok_iff, hread]
    rw [readAs_of_decode_eq_error (read_eq_error_iff.mp hread)]
    exact iff_of_false (hreadable error) fun ⟨payload, h, _⟩ => hnone payload h
  | ok payload =>
    have h := read_eq_ok_iff.mp hread
    rw [hpayload payload h]
    exact ⟨fun hp => ⟨payload, h, hp⟩, fun ⟨_, h', hp⟩ => h'.unique h ▸ hp⟩

theorem readAs_eq_ok_iff {value : α} :
    readAs meaning text = .ok value ↔
      ∃ payload, IsPayload text payload ∧ meaning payload = .valid value := by
  refine readAs_eq_iff (by simp) fun payload h => ?_
  rw [readAs_of_isPayload h]
  cases meaning payload <;> simp

theorem readAs_eq_invalid_iff {issues : List Issue} :
    readAs meaning text = .error (.invalid issues) ↔
      ∃ payload, IsPayload text payload ∧ meaning payload = .invalid issues := by
  refine readAs_eq_iff (by simp) fun payload h => ?_
  rw [readAs_of_isPayload h]
  cases meaning payload <;> simp

end

/-! ### What is settled -/

/-- The text is read, or rejected with an error that is put down to the contract. -/
def Settles (read : String → Except Error α) (text : String) : Prop :=
  (∃ value, read text = .ok value) ∨ ∃ error, read text = .error error ∧ error.isReported = true

/-- Whatever a payload should mean, its text is settled unless the decoder stops for one of its
limits. -/
theorem settles_readAs_iff (meaning : Json → Verdict α) :
    Settles (readAs meaning) text ↔
      ¬Json.IsTooDeep .usual text ∧ ¬Json.HasLongInteger .usual text := by
  unfold Settles Json.IsTooDeep Json.HasLongInteger
  cases hdecode : Json.decode .usual text with
  | error error =>
    rw [readAs_of_decode_eq_error hdecode]
    cases error <;> simp [Error.isReported]
  | ok answer =>
    rw [readAs_of_isPayload (isPayload_unwrap hdecode)]
    cases meaning (unwrap answer) <;> simp [Error.isReported]

/-- **What the queries settle.**  Slots and task lists are read or rejected exactly from the texts
that the decoder looks at to the end.  Where it stops for its depth, more brackets are opened than
may be open at once; where it stops for an integer, the text has a row of more digits than a numeral
may have; and a whole number of so many digits is such a text. -/
theorem queries_settle_iff (text : String) :
    (Settles SlotHashes.read text ↔
      ¬Json.IsTooDeep .usual text ∧ ¬Json.HasLongInteger .usual text) ∧
    (Settles TaskList.read text ↔
      ¬Json.IsTooDeep .usual text ∧ ¬Json.HasLongInteger .usual text) ∧
    (Json.IsTooDeep .usual text → Json.Limits.usual.depth < Json.opened text.toList) ∧
    (Json.HasLongInteger .usual text →
      ∃ count, maxNumeralDigits < count ∧ Json.HasRow count text.toList) ∧
    (Json.IsWhole text.toList → maxNumeralDigits < text.toList.length →
      Json.HasLongInteger .usual text) := by
  refine ⟨settles_readAs_iff _, settles_readAs_iff _, Json.IsTooDeep.lt_opened,
    Json.HasLongInteger.exists_row, fun hwhole hlong => ?_⟩
  have h := Json.hasLongInteger_of_isWhole .usual hwhole hlong
  rwa [String.ofList_toList] at h

/-- A shortest numeral that is too long. -/
def longNumeral : String :=
  String.ofList (List.replicate (maxNumeralDigits + 1) '1')

theorem isWhole_ones : Json.IsWhole (List.replicate (maxNumeralDigits + 1) '1') := by
  refine ⟨⟨by simp, fun c hc => ?_⟩, .inr (by simp [List.replicate_succ])⟩
  rw [List.eq_of_mem_replicate hc]
  rfl

theorem hasLongInteger_longNumeral : Json.HasLongInteger .usual longNumeral :=
  Json.hasLongInteger_of_isWhole .usual isWhole_ones (by simp)

/-- The numeral is settled by neither query. -/
theorem not_settles_longNumeral :
    ¬Settles SlotHashes.read longNumeral ∧ ¬Settles TaskList.read longNumeral := by
  obtain ⟨hslots, htasks, -, -, hlong⟩ := queries_settle_iff longNumeral
  have hones : longNumeral.toList = List.replicate (maxNumeralDigits + 1) '1' :=
    String.toList_ofList
  have hinteger := hlong (hones ▸ isWhole_ones) (by simp [hones])
  exact ⟨fun h => (hslots.mp h).2 hinteger, fun h => (htasks.mp h).2 hinteger⟩

/-- Not every text within the depth of the decoder is settled. -/
theorem not_forall_queries_settle :
    ¬∀ text, ¬Json.IsTooDeep .usual text →
      Settles SlotHashes.read text ∧ Settles TaskList.read text := by
  intro h
  have hinteger := hasLongInteger_longNumeral
  have hsettles := (h longNumeral hinteger.not_isTooDeep).1
  exact ((settles_readAs_iff _).mp hsettles).2 hinteger

end Payload

end ContractDrill
