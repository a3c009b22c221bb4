import ContractDrill.Answer.ChainHead
import ContractDrill.Proofs.Json.Stopping
import ContractDrill.Proofs.Json.Wire

/-!
# Which statuses are settled

A status is settled if a chain head is read from it, or if it is rejected with an error that is put
down to the node.  Almost every text is: what escapes are texts beyond the depth of the decoder and
statuses that give the latest block an infinite height (`ChainHead.settles_iff`), as a decoder that
knows the names of the infinities can read (`ChainHead.not_forall_settles`).

Reading goes through four steps, and what escapes them all is what escapes one of them
(`ChainHead.escapes_bind_iff`); only the height can.
-/

namespace ContractDrill

namespace ChainHead

/-! ### The latest block of a status -/

/-- The value describes the latest block in a status with these members: it stands under the first
name, or, if nothing stands there but what counts as absent, under the second. -/
inductive IsInfo (members : Json.Members) (info : Json) : Prop where
  | first (hfirst : members.lookup "SyncInfo" = some info) (hpresent : info.isFalsy = false)
  | second (habsent : ∀ first, members.lookup "SyncInfo" = some first → first.isFalsy = true)
      (hsecond : members.lookup "sync_info" = some info)

/-- The text is a status that gives the latest block an infinite height. -/
def HasInfiniteHeight (text : String) : Prop :=
  ∃ members info negative, Json.decode .usual text = .ok (.object members) ∧
    IsInfo members (.object info) ∧
    info.lookup "latest_block_height" = some (.number (.infinity negative))

/-- An object that is found with a default of `null` was there. -/
theorem lookup_of_getD_eq_object {members info : Json.Members} {name : String}
    (h : (members.lookup name).getD .null = .object info) :
    members.lookup name = some (.object info) := by
  cases hlookup : members.lookup name with
  | none =>
    rw [hlookup] at h
    cases h
  | some value =>
    rw [hlookup] at h
    exact congrArg some h

/-- The object of the latest block is what the two names make of the members. -/
theorem syncInfo_eq_object_iff {status : Json} {info : Json.Members} :
    syncInfo status = .ok (.object info) ↔
      ∃ members, status = .object members ∧ IsInfo members (.object info) := by
  cases status with
  | object members =>
    simp only [syncInfo, Except.ok.injEq, Json.object.injEq, exists_eq_left']
    constructor
    -- What stands under the first name decides whether the second is looked at.
    · intro h
      split at h
      · rename_i hfalsy
        refine .second (fun first hfirst => ?_) (lookup_of_getD_eq_object h)
        rwa [hfirst] at hfalsy
      · rename_i hfalsy
        refine .first (lookup_of_getD_eq_object h) ?_
        rw [h] at hfalsy
        exact Bool.eq_false_of_not_eq_true hfalsy
    · rintro (⟨hfirst, hpresent⟩ | ⟨habsent, hsecond⟩)
      · simp [hfirst, hpresent]
      · have hfalsy : ((members.lookup "SyncInfo").getD .null).isFalsy = true := by
          cases hlookup : members.lookup "SyncInfo" with
          | none => rfl
          | some first => exact habsent first hlookup
        simp [hfalsy, hsecond]
  | _ => simp [syncInfo]

/-! ### What escapes -/

/-- The result is an error that is not put down to the node. -/
def Escapes {α : Type} (result : Except Error α) : Prop :=
  ∃ error, result = .error error ∧ error.isReported = false

section

variable {α β : Type}

@[simp] theorem not_escapes_ok (a : α) : ¬Escapes (.ok a : Except Error α) := by
  rintro ⟨error, herror, -⟩
  cases herror

theorem not_escapes_pure (a : α) : ¬Escapes (pure a : Except Error α) :=
  not_escapes_ok a

@[simp] theorem escapes_error_iff {error : Error} :
    Escapes (.error error : Except Error α) ↔ error.isReported = false := by
  simp [Escapes]

/-- What escapes two steps escapes the first, or the second behind it. -/
theorem escapes_bind_iff {x : Except Error α} {f : α → Except Error β} :
    Escapes (x >>= f) ↔ Escapes x ∨ ∃ a, x = .ok a ∧ Escapes (f a) := by
  cases x with
  | ok a => simp [bind, Except.bind]
  | error error => simp [bind, Except.bind]

end

theorem not_escapes_syncInfo (status : Json) : ¬Escapes (syncInfo status) := by
  cases status <;> simp [syncInfo, Error.isReported]

theorem not_escapes_infoMember (info : Json) (name : String) : ¬Escapes (infoMember info name) := by
  cases info with
  | object members =>
    unfold infoMember
    dsimp only
    split <;> simp [Error.isReported]
  | _ => simp [infoMember, Error.isReported]

theorem not_escapes_timeOf (time : Json) : ¬Escapes (timeOf time) := by
  cases time with
  | string text =>
    cases htime : Timestamp.read text <;> simp [timeOf, htime, Except.mapError, Error.isReported]
  | _ => simp [timeOf, Error.isReported]

/-- A height only escapes if it is infinite. -/
theorem escapes_heightOf_iff {height : Json} :
    Escapes (heightOf height) ↔ ∃ negative, height = .number (.infinity negative) := by
  cases height with
  | number x =>
    -- Of all numbers only the infinities have no integer part and are not reported.
    cases x with
    | finite negative mantissa exponent hform => simp [heightOf, Binary64.truncate?, Binary64.ratio]
    | infinity negative =>
      simp [heightOf, Binary64.truncate?, Binary64.ratio, Error.isReported]
    | nan => simp [heightOf, Binary64.truncate?, Binary64.ratio, Error.isReported]
  | string text =>
    unfold heightOf
    dsimp only
    split <;> simp [Error.isReported]
  | _ => simp [heightOf, Error.isReported]

theorem infoMember_eq_ok_iff {info value : Json} {name : String} :
    infoMember info name = .ok value ↔
      ∃ members, info = .object members ∧ members.lookup name = some value := by
  cases info with
  | object members =>
    unfold infoMember
    dsimp only
    split <;> simp [*]
  | _ => simp [infoMember]

/-- Of a status only an infinite height escapes, whatever else is wrong with it. -/
theorem escapes_ofJson_iff {status : Json} :
    Escapes (ofJson status) ↔
      ∃ members info negative, status = .object members ∧ IsInfo members (.object info) ∧
        info.lookup "latest_block_height" = some (.number (.infinity negative)) := by
  -- Neither a missing member nor a time escapes, in front of the height or behind it.
  unfold ofJson
  simp only [escapes_bind_iff, not_escapes_syncInfo, not_escapes_infoMember, not_escapes_timeOf,
    not_escapes_pure, escapes_heightOf_iff, false_or, or_false, and_false, exists_false]
  constructor
  · rintro ⟨info, hread, height, hheight, negative, rfl⟩
    obtain ⟨info, rfl, hlookup⟩ := infoMember_eq_ok_iff.mp hheight
    obtain ⟨members, rfl, hinfo⟩ := syncInfo_eq_object_iff.mp hread
    exact ⟨members, info, negative, rfl, hinfo, hlookup⟩
  · rintro ⟨members, info, negative, rfl, hinfo, hlookup⟩
    exact ⟨_, syncInfo_eq_object_iff.mpr ⟨members, rfl, hinfo⟩, _,
      infoMember_eq_ok_iff.mpr ⟨info, rfl, hlookup⟩, negative, rfl⟩

/-- What escapes the reading of a text: its depth, or an infinite height. -/
theorem escapes_read_iff {text : String} :
    Escapes (read text) ↔ Json.IsTooDeep .usual text ∨ HasInfiniteHeight text := by
  unfold read Json.IsTooDeep HasInfiniteHeight
  cases hdecode : Json.decode .usual text with
  | ok status => simp [escapes_ofJson_iff]
  | error error => cases error <;> simp [Error.isReported]

/-! ### What is settled -/

/-- A chain head is read from the text, or the text is rejected with an error that is put down to
the node. -/
def Settles (text : String) : Prop :=
  (∃ head, read text = .ok head) ∨ ∃ error, read text = .error error ∧ error.isReported = true

theorem settles_iff_not_escapes {text : String} : Settles text ↔ ¬Escapes (read text) := by
  unfold Settles
  cases read text <;> simp

theorem settles_iff {text : String} :
    Settles text ↔ ¬Json.IsTooDeep .usual text ∧ ¬HasInfiniteHeight text := by
  rw [settles_iff_not_escapes, escapes_read_iff, not_or]

/-- A block of infinite height. -/
def infiniteBlock : Json.Members :=
  [("latest_block_height", .number (.infinity false)),
    ("latest_block_time", .string "2022-05-01T10:00:00Z")]

/-- The status of a node whose latest block is that one. -/
def infiniteStatus : String :=
  "\x7b\"SyncInfo\":\x7b\"latest_block_height\":Infinity," ++
    "\"latest_block_time\":\"2022-05-01T10:00:00Z\"\x7d\x7d"

theorem hasInfiniteHeight_infiniteStatus : HasInfiniteHeight infiniteStatus := by
  have htext : infiniteStatus = (Json.object [("SyncInfo", .object infiniteBlock)]).encode := by
    decide +kernel
  have hfits : Json.Fits .usual 2 (.object [("SyncInfo", .object infiniteBlock)]) := by
    simp [infiniteBlock]
  exact ⟨_, infiniteBlock, false, htext ▸ Json.decode_encode .usual (hfits.mono (by decide)),
    .first rfl rfl, rfl⟩

/-- A status with an infinite height was decoded, so it is not too deep. -/
theorem not_isTooDeep_of_hasInfiniteHeight {text : String} (h : HasInfiniteHeight text) :
    ¬Json.IsTooDeep .usual text := by
  rintro ⟨bracket, hbracket⟩
  obtain ⟨members, info, negative, hdecode, -⟩ := h
  cases hdecode.symm.trans hbracket

/-- Not every text within the depth of the decoder is settled. -/
theorem not_forall_settles : ¬∀ text, ¬Json.IsTooDeep .usual text → Settles text := by
  intro h
  have hinfinite := hasInfiniteHeight_infiniteStatus
  exact (settles_iff.mp (h _ (not_isTooDeep_of_hasInfiniteHeight hinfinite))).2 hinfinite

end ChainHead

end ContractDrill
