import ContractDrill.Proofs.Json.RoundTrip

/-!
# Writing within limits

A value is written just if it is `Writable`: its integers are not too long, and no more of its
brackets are open at once than may be.  What is written is its text, and nothing else is
(`write_eq_ok_iff`).

Whatever fits the limits of the usual reader can be written where as many brackets may be open
(`Fits.writable`), so a value that was read can be written again.
-/

namespace ContractDrill

namespace Json

/-- A value that can be written where `depth` brackets may be open at once. -/
inductive Writable : Nat → Json → Prop where
  | null {depth : Nat} : Writable depth .null
  | bool {depth : Nat} (value : Bool) : Writable depth (.bool value)
  | integer {depth : Nat} {n : Int} (h : FitsNumeral n) : Writable depth (.integer n)
  | number {depth : Nat} (x : Binary64) : Writable depth (.number x)
  | string {depth : Nat} (s : String) : Writable depth (.string s)
  | array {depth : Nat} {items : List Json} (h : ∀ item ∈ items, Writable depth item) :
      Writable (depth + 1) (.array items)
  | object {depth : Nat} {members : Members} (h : ∀ member ∈ members, Writable depth member.2) :
      Writable (depth + 1) (.object members)

@[simp] theorem writable_null (depth : Nat) : Writable depth .null := .null

@[simp] theorem writable_bool (depth : Nat) (value : Bool) : Writable depth (.bool value) :=
  .bool value

@[simp] theorem writable_number (depth : Nat) (x : Binary64) : Writable depth (.number x) :=
  .number x

@[simp] theorem writable_string (depth : Nat) (s : String) : Writable depth (.string s) :=
  .string s

@[simp] theorem writable_integer_iff {depth : Nat} {n : Int} :
    Writable depth (.integer n) ↔ FitsNumeral n := by
  constructor
  · intro h
    cases h
    assumption
  · exact .integer

/-- An array needs a bracket more than each of its items. -/
theorem writable_array_iff {depth : Nat} {items : List Json} :
    Writable depth (.array items) ↔ 1 ≤ depth ∧ ∀ item ∈ items, Writable (depth - 1) item := by
  constructor
  · intro h
    cases h
    exact ⟨Nat.le_add_left .., ‹_›⟩
  · rintro ⟨hdepth, h⟩
    obtain ⟨inside, rfl⟩ := Nat.exists_eq_add_of_le' hdepth
    exact .array h

theorem writable_object_iff {depth : Nat} {members : Members} :
    Writable depth (.object members) ↔
      1 ≤ depth ∧ ∀ member ∈ members, Writable (depth - 1) member.2 := by
  constructor
  · intro h
    cases h
    exact ⟨Nat.le_add_left .., ‹_›⟩
  · rintro ⟨hdepth, h⟩
    obtain ⟨inside, rfl⟩ := Nat.exists_eq_add_of_le' hdepth
    exact .object h

/-! ### Obstacles -/

theorem itemObstacle?_eq_none_iff {depth : Nat} {items : List Json} :
    itemObstacle? depth items = none ↔ ∀ item ∈ items, obstacle? depth item = none := by
  induction items with
  | nil => simp [itemObstacle?]
  | cons item rest ih => rw [itemObstacle?, Option.or_eq_none_iff, ih, List.forall_mem_cons]

theorem memberObstacle?_eq_none_iff {depth : Nat} {members : Members} :
    memberObstacle? depth members = none ↔
      ∀ member ∈ members, obstacle? depth member.2 = none := by
  induction members with
  | nil => simp [memberObstacle?]
  | cons member rest ih => rw [memberObstacle?, Option.or_eq_none_iff, ih, List.forall_mem_cons]

/-- Only what can be written has no obstacle. -/
theorem obstacle?_eq_none_iff {depth : Nat} {value : Json} :
    obstacle? depth value = none ↔ Writable depth value := by
  -- The induction is on the brackets; what is no bracket has its obstacle at any depth.
  induction depth generalizing value with
  | zero =>
    cases value with
    | integer n => simp [obstacle?]
    | array items => simp [obstacle?, writable_array_iff]
    | object members => simp [obstacle?, writable_object_iff]
    | _ => simp [obstacle?]
  | succ depth ih =>
    cases value with
    | integer n => simp [obstacle?]
    | array items =>
      rw [obstacle?, itemObstacle?_eq_none_iff, writable_array_iff]
      simp [ih]
    | object members =>
      rw [obstacle?, memberObstacle?_eq_none_iff, writable_object_iff]
      simp [ih]
    | _ => simp [obstacle?]

/-- Just a value that can be written is written, as its text. -/
theorem write_eq_ok_iff {depth : Nat} {value : Json} {s : String} :
    value.write depth = .ok s ↔ Writable depth value ∧ s = value.encode := by
  rw [← obstacle?_eq_none_iff]
  unfold write
  cases obstacle? depth value with
  | none => simp [eq_comm]
  | some error => simp

/-- An integer is written just if it fits a numeral. -/
theorem writeInteger_eq_ok_iff {n : Int} {s : String} :
    writeInteger n = .ok s ↔ FitsNumeral n ∧ s = toString n := by
  unfold writeInteger
  split
  · rename_i h
    simp [h, eq_comm]
  · rename_i h
    simp [h]

/-- What fits the limits of the usual reader can be written. -/
theorem Fits.writable {depth : Nat} {value : Json} (h : Fits .usual depth value) :
    Writable depth value := by
  induction h with
  | null => exact .null
  | bool value => exact .bool value
  | integer h => exact .integer h
  | number x => exact .number x
  | string s => exact .string s
  | array _ ih => exact .array ih
  | object _ _ ih => exact .object ih
  | emptyArray h => exact absurd h (by decide)
  | emptyObject h => exact absurd h (by decide)

end Json

end ContractDrill
