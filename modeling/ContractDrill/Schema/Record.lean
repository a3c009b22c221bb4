import ContractDrill.Schema.Scalar

/-!
# Lists and records of a schema

A record is checked field by field, and a list item by item.  Members of an object that no field
names are ignored; a field that is not there takes its default, or is missing.  That is what models
of pydantic 2.14 do.

`Unset` decides how a record is written back: a field without a value as `null`, or not at all.
-/

namespace ContractDrill

namespace Schema

variable {α : Type}

/-- What a value of a schema is read with. -/
abbrev Reader (α : Type) := Json → Verdict α

/-- `null`, or a value of `item`. -/
def nullable (item : Reader α) : Reader (Option α)
  | .null => .valid none
  | value => some <$> item value

/-! ### Lists -/

/-- The items of a list from position `position` on. -/
def items (item : Reader α) (position : Nat) : List Json → Verdict (List α)
  | [] => .valid []
  | value :: rest =>
    List.cons <$> (item value).under (.index position) <*> items item (position + 1) rest

/-- A list of values of `item`. -/
def list (item : Reader α) : Reader (List α)
  | .array values => items item 0 values
  | _ => .broken .listType

/-- A list that is not empty. -/
abbrev SomeOf (α : Type) := { list : List α // list ≠ [] }

/-- A list of at least one value of `item`. -/
def someOf (item : Reader α) (value : Json) : Verdict (SomeOf α) :=
  (list item value).andThen fun values =>
    if h : values ≠ [] then .valid ⟨values, h⟩ else .broken .tooShort

/-- Items that are written one by one read back one by one. -/
theorem items_map {item : Reader α} {write : α → Json}
    (h : ∀ value, item (write value) = .valid value) (values : List α) (position : Nat) :
    items item position (values.map write) = .valid values := by
  induction values generalizing position with
  | nil => rfl
  | cons value rest ih =>
    rw [List.map_cons, items, h, ih]
    rfl

/-- A list is read back if its items are. -/
theorem list_map {item : Reader α} {write : α → Json}
    (h : ∀ value, item (write value) = .valid value) (values : List α) :
    list item (.array (values.map write)) = .valid values :=
  items_map h values 0

theorem someOf_map {item : Reader α} {write : α → Json}
    (h : ∀ value, item (write value) = .valid value) (values : SomeOf α) :
    someOf item (.array (values.val.map write)) = .valid values := by
  unfold someOf
  rw [list_map h]
  exact dif_pos values.property

/-! ### Records -/

/-- A record, read from the members of an object. -/
def record (fields : Json.Members → Verdict α) : Reader α
  | .object members => fields members
  | _ => .broken .modelType

/-- The field `name`, which has to be there. -/
def required (name : String) (item : Reader α) (members : Json.Members) : Verdict α :=
  match members.get? name with
  | some value => (item value).under (.key name)
  | none => Verdict.under (.key name) (.broken .missing)

/-- The field `name`, or `default` in its place. -/
def optional (name : String) (default : α) (item : Reader α) (members : Json.Members) :
    Verdict α :=
  match members.get? name with
  | some value => (item value).under (.key name)
  | none => .valid default

theorem required_of_get? {name : String} {item : Reader α} {members : Json.Members} {value : Json}
    {a : α} (hget : members.get? name = some value) (hitem : item value = .valid a) :
    required name item members = .valid a := by
  unfold required
  rw [hget]
  dsimp only
  rw [hitem]
  rfl

/-- A field that is there does not take its default. -/
theorem optional_of_get? {name : String} {default : α} {item : Reader α} {members : Json.Members}
    {value : Json} {a : α} (hget : members.get? name = some value) (hitem : item value = .valid a) :
    optional name default item members = .valid a := by
  unfold optional
  rw [hget]
  dsimp only
  rw [hitem]
  rfl

/-! ### Writing -/

/-- How a field without a value is written. -/
inductive Unset where
  | asNull
  | omitted
  deriving DecidableEq

/-- The member of a field that may be without a value. -/
def Unset.member (unset : Unset) (name : String) : Option Json → Json.Members
  | some value => [(name, value)]
  | none =>
    match unset with
    | asNull => [(name, .null)]
    | omitted => []

/-- The array of some texts. -/
def texts (values : List String) : Json :=
  .array (values.map .string)

theorem list_text_texts (values : List String) : list text (texts values) = .valid values := by
  have hitem (value : String) : text (.string value) = .valid value := rfl
  exact list_map hitem values

end Schema

end ContractDrill
