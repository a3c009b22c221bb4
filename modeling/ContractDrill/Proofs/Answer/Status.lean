import ContractDrill.Proofs.Answer.Head
import ContractDrill.Proofs.Answer.Printed

/-!
# Statuses with the same latest block

What is read from a status is decided by the value that the node prints, not by how or where it
prints it (`ChainHead.readStatus_of_tells`).  Of the value only the description of the latest block
counts, as long as the reader gets to it (`ChainHead.reading_of_isBeside`), and under which of its
two names that stands makes a difference only to the words of a rejection
(`ChainHead.agree_of_names`).

The two names part over a description that counts as absent: under the first name it leaves the word
to the second, which is not there, and under the second it is looked into.  Neither gives a height.
-/

namespace ContractDrill

namespace Json

/-! ### What a reader can read -/

/-- Names are looked up alike in members whose values are changed. -/
theorem lookup_map_value (members : Members) (f : Json → Json) (name : String) :
    (members.map fun member => (member.1, f member.2)).lookup name =
      (members.lookup name).map f := by
  induction members with
  | nil => rfl
  | cons first rest ih =>
    rw [List.map_cons, List.lookup_cons, List.lookup_cons, ih]
    split <;> rfl

/-- A reader gets through the value, inside of which `depth` more brackets may be open. -/
def IsReadable (depth : Nat) (value : Json) : Prop :=
  ∃ found, reread .usual depth value = .ok found

/-- What a reader makes of a value, if it gets through it. -/
def readable (depth : Nat) (value : Json) : Json :=
  ((reread .usual depth value).toOption).getD .null

theorem readable_eq {depth : Nat} {value found : Json} (h : reread .usual depth value = .ok found) :
    readable depth value = found := by
  unfold readable
  rw [h]
  rfl

theorem IsReadable.reread_eq {depth : Nat} {value : Json} (h : IsReadable depth value) :
    reread .usual depth value = .ok (readable depth value) := by
  obtain ⟨found, hfound⟩ := h
  rw [readable_eq hfound, hfound]

/-- What counts as absent is read as it is. -/
theorem reread_of_isFalsy {value : Json} (h : value.isFalsy = true) {depth : Nat}
    (hdepth : 1 ≤ depth) : reread .usual depth value = .ok value := by
  suffices hfits : Fits .usual 1 value from reread_of_fits (hfits.mono hdepth)
  cases value with
  | integer n =>
    obtain rfl : n = 0 := of_decide_eq_true h
    exact .integer (by decide)
  | array items =>
    obtain rfl : items = [] := List.isEmpty_iff.mp h
    simp
  | object members =>
    obtain rfl : members = [] := List.isEmpty_iff.mp h
    simp
  | _ => simp

section

variable {α β ε : Type} {f : α → Except ε β} {items : List α}

/-- A run along a list stops with the only error that there is. -/
theorem mapM_eq_error {item : α} {error : ε} (hmem : item ∈ items) (hitem : f item = .error error)
    (honly : ∀ other ∈ items, ∀ error', f other = .error error' → error' = error) :
    items.mapM f = .error error := by
  induction items with
  | nil => cases hmem
  | cons first rest ih =>
    rw [List.mapM_cons]
    cases hfirst : f first with
    | error error' =>
      rw [honly first List.mem_cons_self error' hfirst]
      rfl
    | ok value =>
      -- The item that fails is not the first one, which succeeds.
      have hrest : item ∈ rest := by
        refine (List.mem_cons.mp hmem).resolve_left ?_
        rintro rfl
        cases hitem.symm.trans hfirst
      rw [ih hrest fun other hother => honly other (List.mem_cons_of_mem _ hother)]
      rfl

end

/-- An object whose values are readable is read with its names. -/
theorem reread_object_of_isReadable {depth : Nat} {members : Members}
    (hnames : (members.map Prod.fst).Nodup)
    (h : ∀ member ∈ members, IsReadable depth member.2) :
    reread .usual (depth + 1) (.object members) =
      .ok (.object (members.map fun member => (member.1, readable depth member.2))) := by
  have hmembers (member : String × Json) (hmember : member ∈ members) :
      (member.1, ·) <$> reread .usual depth member.2 = .ok (member.1, readable depth member.2) := by
    rw [(h member hmember).reread_eq]
    rfl
  have hnames' : ((members.map fun member =>
      (member.1, readable depth member.2)).map Prod.fst).Nodup := by
    rw [List.map_map]
    exact hnames
  rw [reread, mapM_eq_ok hmembers]
  show Except.ok (Json.object (mergeMembers _)) = _
  rw [mergeMembers_of_nodup hnames']

/-- An object with one value that is not readable stops the reader there. -/
theorem reread_object_of_error {depth : Nat} {members : Members}
    (hnames : (members.map Prod.fst).Nodup) {name : String} {value : Json} {stop : Stop}
    (hlookup : members.lookup name = some value) (hvalue : reread .usual depth value = .error stop)
    (h : ∀ member ∈ members, member.1 ≠ name → IsReadable depth member.2) :
    reread .usual (depth + 1) (.object members) = .error stop := by
  have hstop : (members.mapM fun member => (member.1, ·) <$> reread .usual depth member.2) =
      .error stop := by
    have hitem : ((name, value).1, ·) <$> reread .usual depth value = Except.error stop := by
      rw [hvalue]
      rfl
    -- Members of other names can be read, so what stops is the one that is looked up.
    refine mapM_eq_error (mem_of_lookup hlookup) hitem fun member hmember stop' hother => ?_
    have hstop' := eq_error_of_map_eq_error hother
    by_cases hname : member.1 = name
    · have hmember' := lookup_of_mem hnames hmember
      rw [hname, hlookup] at hmember'
      rw [← Option.some.inj hmember', hvalue] at hstop'
      exact (Except.error.inj hstop').symm
    · rw [(h member hmember hname).reread_eq] at hstop'
      cases hstop'
  rw [reread, hstop]
  rfl

end Json

namespace ChainHead

/-! ### Statuses as they are printed -/

/-- The node prints a text of the status, on one channel or the other. -/
def Tells (status : Json) (output errors : Option String) : Prop :=
  ∃ text, status.IsTextOf text ∧ Prints text output errors

/-- The brackets that may be open inside of a status. -/
abbrev insideDepth : Nat :=
  Json.Limits.usual.depth - 1

/-- A stop of the reader for one of its limits, as an error; such a stop has no place. -/
def unread (stop : Json.Stop) : Error :=
  .unreadable (stop.locate [])

/-- What is read from the texts of a status. -/
def reading (status : Json) : Except Error ChainHead :=
  (Json.reread .usual Json.Limits.usual.depth status).mapError unread >>= ofJson

/-- All texts of a status are read alike. -/
theorem read_of_isTextOf {status : Json} {text : String} (h : status.IsTextOf text) :
    read text = reading status := by
  unfold read reading
  rw [Json.decode_eq_reread .usual h]
  cases hreread : Json.reread .usual Json.Limits.usual.depth status with
  | ok found => rfl
  | error stop =>
    show Except.error (Error.unreadable (stop.locate text.toList)) = .error (unread stop)
    rw [(Json.isLimit_of_reread hreread).locate_eq text.toList []]
    rfl

/-- What is read from a status that is an object depends on the object alone. -/
theorem readStatus_of_tells {members : Json.Members} {output errors : Option String}
    (h : Tells (.object members) output errors) :
    readStatus output errors = reading (.object members) := by
  obtain ⟨text, htext, hprints⟩ := h
  obtain ⟨text', htext', hstatus⟩ := statusText_of_prints htext hprints
  unfold readStatus
  rw [hstatus]
  exact read_of_isTextOf htext'

/-! ### The description of the latest block -/

/-- The chain head in the description of the latest block. -/
def ofInfo (info : Json) : Except Error ChainHead := do
  let height ← heightOf (← infoMember info "latest_block_height")
  let time ← timeOf (← infoMember info "latest_block_time")
  return ⟨height, time⟩

theorem ofJson_eq (status : Json) : ofJson status = syncInfo status >>= ofInfo :=
  rfl

/-- Where the first name counts as absent, the second one gives the latest block. -/
theorem syncInfo_of_absent {members : Json.Members} {info : Json}
    (hinfo : members.lookup "sync_info" = some info)
    (habsent : ∀ first, members.lookup "SyncInfo" = some first → first.isFalsy = true) :
    syncInfo (.object members) = .ok info := by
  have hfalsy : ((members.lookup "SyncInfo").getD .null).isFalsy = true := by
    cases hlookup : members.lookup "SyncInfo" with
    | none => rfl
    | some first => exact habsent first hlookup
  unfold syncInfo
  dsimp only
  rw [if_pos hfalsy, hinfo]
  rfl

/-- The status describes the latest block under the second name, beside other members; what stands
under the first name, if anything does, counts as absent. -/
structure IsBeside (info : Json) (members : Json.Members) : Prop where
  names : (members.map Prod.fst).Nodup
  info_eq : members.lookup "sync_info" = some info
  absent : ∀ first, members.lookup "SyncInfo" = some first → first.isFalsy = true

theorem isBeside_singleton (info : Json) : IsBeside info [("sync_info", info)] where
  names := List.nodup_singleton _
  info_eq := rfl
  absent first hfirst := by cases hfirst

/-- The reader gets through the members that stand beside the description of the latest block. -/
def ReadableBeside (members : Json.Members) : Prop :=
  ∀ member ∈ members, member.1 ∉ ["SyncInfo", "sync_info"] → Json.IsReadable insideDepth member.2

/-- A status that has only its latest block has nothing else to read. -/
theorem readableBeside_singleton (info : Json) : ReadableBeside [("sync_info", info)] := by
  intro member hmember hname
  rw [List.mem_singleton.mp hmember] at hname
  simp at hname

/-- What is read from such a status is read from the description. -/
theorem reading_of_isBeside {info : Json} {members : Json.Members} (h : IsBeside info members)
    (hbeside : ReadableBeside members) :
    reading (.object members) =
      (Json.reread .usual insideDepth info).mapError unread >>= ofInfo := by
  have hothers (member : String × Json) (hmember : member ∈ members)
      (hname : member.1 ≠ "sync_info") : Json.IsReadable insideDepth member.2 := by
    -- A member under the first name counts as absent, and such a value is always readable.
    by_cases hfirst : member.1 = "SyncInfo"
    · have hlookup := Json.lookup_of_mem h.names hmember
      rw [hfirst] at hlookup
      exact ⟨member.2, Json.reread_of_isFalsy (h.absent _ hlookup) (by decide)⟩
    · exact hbeside member hmember (by simp [hfirst, hname])
  show (Json.reread .usual (insideDepth + 1) (.object members)).mapError unread >>= ofJson = _
  cases hinfo : Json.reread .usual insideDepth info with
  | error stop =>
    rw [Json.reread_object_of_error h.names h.info_eq hinfo hothers]
    rfl
  | ok found =>
    have hreadable (member : String × Json) (hmember : member ∈ members) :
        Json.IsReadable insideDepth member.2 := by
      by_cases hname : member.1 = "sync_info"
      · have hlookup := Json.lookup_of_mem h.names hmember
        rw [hname, h.info_eq] at hlookup
        exact ⟨found, Option.some.inj hlookup ▸ hinfo⟩
      · exact hothers member hmember hname
    rw [Json.reread_object_of_isReadable h.names hreadable]
    -- Reading member by member keeps the names, so the same member is looked up behind it.
    show ofJson (.object _) = ofInfo found
    have hlookup : (members.map fun member =>
        (member.1, Json.readable insideDepth member.2)).lookup "sync_info" = some found := by
      rw [Json.lookup_map_value, h.info_eq, Option.map_some, Json.readable_eq hinfo]
    rw [ofJson_eq, syncInfo_of_absent hlookup]
    · rfl
    · intro first hfirst
      rw [Json.lookup_map_value] at hfirst
      obtain ⟨value, hvalue, rfl⟩ := Option.map_eq_some_iff.mp hfirst
      have hfalsy := h.absent value hvalue
      rw [Json.readable_eq (Json.reread_of_isFalsy hfalsy (by decide))]
      exact hfalsy

/-! ### The two names -/

/-- The status is rejected, and the rejection is put down to the node. -/
def Rejected (result : Except Error ChainHead) : Prop :=
  ∃ error, result = .error error ∧ error.isReported = true

/-- Two readings come to the same, or both are rejections. -/
def Agree (result result' : Except Error ChainHead) : Prop :=
  result = result' ∨ Rejected result ∧ Rejected result'

/-- What counts as absent describes no block. -/
theorem rejected_ofInfo_of_isFalsy {info : Json} (h : info.isFalsy = true) :
    Rejected (ofInfo info) := by
  cases info with
  | object members =>
    obtain rfl : members = [] := List.isEmpty_iff.mp h
    exact ⟨.absent "latest_block_height", rfl, rfl⟩
  | _ => exact ⟨.infoKind _, rfl, rfl⟩

/-- Under the first name what counts as absent is not looked into. -/
theorem reading_first (info : Json) :
    reading (.object [("SyncInfo", info)]) =
      (Json.reread .usual insideDepth info).mapError unread >>=
        fun found => ofInfo (if found.isFalsy then .null else found) := by
  show (Json.reread .usual (insideDepth + 1) (.object _)).mapError unread >>= ofJson = _
  have hnames : (([("SyncInfo", info)] : Json.Members).map Prod.fst).Nodup :=
    List.nodup_singleton _
  cases hinfo : Json.reread .usual insideDepth info with
  | error stop =>
    have hlookup : ([("SyncInfo", info)] : Json.Members).lookup "SyncInfo" = some info := rfl
    rw [Json.reread_object_of_error hnames hlookup hinfo]
    · rfl
    · intro member hmember hname
      rw [List.mem_singleton.mp hmember] at hname
      exact absurd rfl hname
  | ok found =>
    rw [Json.reread_object_of_isReadable hnames (List.forall_mem_singleton.mpr ⟨found, hinfo⟩)]
    show ofJson (.object [("SyncInfo", Json.readable insideDepth info)]) = _
    rw [Json.readable_eq hinfo]
    rfl

/-- Under the two names a description gives the same, or neither gives a chain head. -/
theorem agree_first_second (info : Json) :
    Agree (reading (.object [("SyncInfo", info)])) (reading (.object [("sync_info", info)])) := by
  rw [reading_first, reading_of_isBeside (isBeside_singleton info) (readableBeside_singleton info)]
  cases Json.reread .usual insideDepth info with
  | error stop => exact .inl rfl
  | ok found =>
    show Agree (ofInfo (if found.isFalsy then .null else found)) (ofInfo found)
    by_cases hfalsy : found.isFalsy = true
    · rw [if_pos hfalsy]
      exact .inr ⟨rejected_ofInfo_of_isFalsy rfl, rejected_ofInfo_of_isFalsy hfalsy⟩
    · rw [if_neg hfalsy]
      exact .inl rfl

/-- The names under which a status may describe the latest block. -/
def infoNames : List String :=
  ["SyncInfo", "sync_info"]

/-- The two names differ at most in the words of a rejection. -/
theorem agree_of_names {name name' : String} (hname : name ∈ infoNames)
    (hname' : name' ∈ infoNames) (info : Json) :
    Agree (reading (.object [(name, info)])) (reading (.object [(name', info)])) := by
  have hagree := agree_first_second info
  simp only [infoNames, List.mem_cons, List.not_mem_nil, or_false] at hname hname'
  rcases hname with rfl | rfl <;> rcases hname' with rfl | rfl
  · exact .inl rfl
  · exact hagree
  · exact hagree.imp Eq.symm And.symm
  · exact .inl rfl

end ChainHead

end ContractDrill
