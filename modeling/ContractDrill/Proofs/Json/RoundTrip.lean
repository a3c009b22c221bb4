import ContractDrill.Proofs.Json.Rereading

/-!
# Reading JSON back

A value that fits the limits of a reader (`Fits`) is read from each of its texts, with any gaps
behind its commas and colons and around it (`decode_of_isTextOf`); the members of an object keep
their order.

What the reader makes of a value that fits is the value itself (`reread_of_fits`), by induction on
`Fits`.
-/

namespace ContractDrill

namespace Json

/-- A value within the limits of a reader: its integers are not too long, the members of an object
have different names, and no more than `depth` of its brackets are open at once, except for one with
nothing in it where the reader lets that pass. -/
inductive Fits (limits : Limits) : Nat → Json → Prop where
  | null {depth : Nat} : Fits limits depth .null
  | bool {depth : Nat} (value : Bool) : Fits limits depth (.bool value)
  | integer {depth : Nat} {n : Int} (h : FitsNumeral n) : Fits limits depth (.integer n)
  | number {depth : Nat} (x : Binary64) : Fits limits depth (.number x)
  | string {depth : Nat} (s : String) : Fits limits depth (.string s)
  | array {depth : Nat} {items : List Json} (h : ∀ item ∈ items, Fits limits depth item) :
      Fits limits (depth + 1) (.array items)
  | object {depth : Nat} {members : Members} (hnames : (members.map Prod.fst).Nodup)
      (h : ∀ member ∈ members, Fits limits depth member.2) :
      Fits limits (depth + 1) (.object members)
  | emptyArray (h : limits.emptyBeyond = true) : Fits limits 0 (.array [])
  | emptyObject (h : limits.emptyBeyond = true) : Fits limits 0 (.object [])

variable {limits : Limits}

@[simp] theorem fits_null (depth : Nat) : Fits limits depth .null := .null

@[simp] theorem fits_bool (depth : Nat) (value : Bool) : Fits limits depth (.bool value) :=
  .bool value

@[simp] theorem fits_number (depth : Nat) (x : Binary64) : Fits limits depth (.number x) :=
  .number x

@[simp] theorem fits_string (depth : Nat) (s : String) : Fits limits depth (.string s) := .string s

@[simp] theorem fits_integer_iff {depth : Nat} {n : Int} :
    Fits limits depth (.integer n) ↔ FitsNumeral n := by
  constructor
  · intro h
    cases h
    assumption
  · exact .integer

@[simp] theorem fits_array_iff {depth : Nat} {items : List Json} :
    Fits limits (depth + 1) (.array items) ↔ ∀ item ∈ items, Fits limits depth item := by
  constructor
  · intro h
    cases h
    assumption
  · exact .array

@[simp] theorem fits_object_iff {depth : Nat} {members : Members} :
    Fits limits (depth + 1) (.object members) ↔
      (members.map Prod.fst).Nodup ∧ ∀ member ∈ members, Fits limits depth member.2 := by
  constructor
  · intro h
    cases h
    exact ⟨‹_›, ‹_›⟩
  · exact fun h => .object h.1 h.2

/-- The usual reader counts each array, so that one less bracket may be open inside of it. -/
theorem Fits.exists_inside {depth : Nat} {items : List Json}
    (h : Fits .usual depth (.array items)) :
    ∃ inside, depth = inside + 1 ∧ ∀ item ∈ items, Fits .usual inside item := by
  generalize hvalue : Json.array items = value at h
  cases h with
  | array hitems =>
    obtain rfl := Json.array.inj hvalue
    exact ⟨_, rfl, hitems⟩
  | emptyArray hbeyond => exact absurd hbeyond (by decide)
  | _ => cases hvalue

/-- What fits fits where more brackets may be open. -/
theorem Fits.mono {depth depth' : Nat} {value : Json} (h : Fits limits depth value)
    (hle : depth ≤ depth') : Fits limits depth' value := by
  induction h generalizing depth' with
  | null => exact .null
  | bool value => exact .bool value
  | integer h => exact .integer h
  | number x => exact .number x
  | string s => exact .string s
  | array _ ih =>
    obtain ⟨inside, rfl⟩ := Nat.exists_eq_add_of_le' (Nat.le_of_add_left_le hle)
    exact .array fun item hitem => ih item hitem (Nat.le_of_succ_le_succ hle)
  | object hnames _ ih =>
    obtain ⟨inside, rfl⟩ := Nat.exists_eq_add_of_le' (Nat.le_of_add_left_le hle)
    exact .object hnames fun member hmember => ih member hmember (Nat.le_of_succ_le_succ hle)
  -- With more brackets to open, empty ones are no longer beyond them.
  | emptyArray h =>
    cases depth' with
    | zero => exact .emptyArray h
    | succ inside => exact .array fun _ hnil => absurd hnil List.not_mem_nil
  | emptyObject h =>
    cases depth' with
    | zero => exact .emptyObject h
    | succ inside => exact .object List.nodup_nil fun _ hnil => absurd hnil List.not_mem_nil

/-! ### Members of different names -/

/-- A name that is not there yet is put at the end. -/
theorem put_of_notMem {members : Members} {name : String} (h : name ∉ members.map Prod.fst)
    (value : Json) : members.put name value = members ++ [(name, value)] := by
  induction members with
  | nil => rfl
  | cons member rest ih =>
    rw [List.map_cons, List.mem_cons, not_or] at h
    unfold Members.put
    rw [if_neg (Ne.symm h.1), ih h.2]
    rfl

/-- Members of different names are put one behind the other. -/
theorem foldl_put (merged : Members) {members : Members}
    (h : ((merged ++ members).map Prod.fst).Nodup) :
    members.foldl (fun merged (name, value) => Members.put merged name value) merged =
      merged ++ members := by
  induction members generalizing merged with
  | nil => exact (List.append_nil merged).symm
  | cons member rest ih =>
    have hsplit : merged ++ member :: rest = merged ++ [member] ++ rest := by simp
    have hnot : member.1 ∉ merged.map Prod.fst := by
      rw [List.map_append, List.nodup_append] at h
      exact fun hmem => h.2.2 _ hmem _ (by simp) rfl
    rw [List.foldl_cons]
    dsimp only
    rw [put_of_notMem hnot, hsplit]
    exact ih _ (hsplit ▸ h)

/-- Members of different names stay as they are. -/
theorem mergeMembers_of_nodup {members : Members} (h : (members.map Prod.fst).Nodup) :
    mergeMembers members = members :=
  foldl_put [] h

/-! ### Values -/

/-- A value within the limits is left as it is. -/
theorem reread_of_fits {depth : Nat} {value : Json} (h : Fits limits depth value) :
    reread limits depth value = .ok value := by
  induction h with
  | null => exact reread_null _ _
  | bool value => exact reread_bool _ _ value
  | integer h => rw [reread_integer, rereadInteger, if_pos h]
  | number x => exact reread_number _ _ x
  | string s => exact reread_string _ _ s
  | array h ih =>
    rw [reread, mapM_eq_ok ih, List.map_id']
    rfl
  | @object depth members hnames h ih =>
    have hmembers (member : String × Json) (hmember : member ∈ members) :
        (member.1, ·) <$> reread limits depth member.2 = .ok member := by
      rw [ih member hmember]
      rfl
    rw [reread, mapM_eq_ok hmembers, List.map_id']
    -- No name comes twice, so no member is merged into another.
    show Except.ok (Json.object (mergeMembers _)) = _
    rw [mergeMembers_of_nodup hnames]
  | emptyArray h =>
    rw [reread, rereadBeyond, h]
    rfl
  | emptyObject h =>
    rw [reread, rereadBeyond, h]
    rfl

/-! ### Whole texts -/

/-- A value within the limits of the reader is read from each of its texts. -/
theorem decode_of_isTextOf (limits : Limits) {value : Json} (h : Fits limits limits.depth value)
    {text : String} (htext : IsTextOf value text) : decode limits text = .ok value := by
  rw [decode_eq_reread limits htext, reread_of_fits h]
  rfl

end Json

end ContractDrill
