import ContractDrill.Schema.Record
import Mathlib.Data.List.Forall2

/-!
# What a schema accepts

Each reader of a schema accepts a value exactly if the value has the form that the schema names.
The scalars and the lists of texts are told by what they accept as a whole; lists, fields and
records by what their parts accept.
-/

namespace ContractDrill

namespace Schema

variable {α : Type} {item : Reader α}

/-! ### Scalars -/

theorem text_eq_valid_iff {value : Json} {s : String} :
    text value = .valid s ↔ value = .string s := by
  cases value with
  | string s' => simp [text]
  | _ => simp [text, Verdict.broken]

/-- What may be `null` is accepted as `null`, or as what it may be beside that. -/
theorem nullable_eq_valid_iff {value : Json} {a : Option α} :
    nullable item value = .valid a ↔
      value = .null ∧ a = none ∨ value ≠ .null ∧ ∃ b, item value = .valid b ∧ a = some b := by
  by_cases hnull : value = .null
  · subst hnull
    simp [nullable, eq_comm]
  · rw [nullable, Verdict.map_eq_valid_iff]
    · simp [hnull, eq_comm]
    · exact hnull

/-! ### Lists -/

/-- Items are accepted one by one, wherever in the list they stand. -/
theorem items_eq_valid_iff {position : Nat} {parts : List Json} {values : List α} :
    items item position parts = .valid values ↔
      List.Forall₂ (fun part a => item part = .valid a) parts values := by
  induction parts generalizing position values with
  | nil => simp [items, List.forall₂_nil_left_iff, eq_comm]
  | cons part rest ih =>
    simp only [items, Verdict.seq_eq_valid_iff, Verdict.map_eq_valid_iff,
      Verdict.under_eq_valid_iff, List.forall₂_cons_left_iff, ih]
    constructor
    · rintro ⟨extend, tail, ⟨a, hitem, rfl⟩, htail, rfl⟩
      exact ⟨a, tail, hitem, htail, rfl⟩
    · rintro ⟨a, tail, hitem, htail, rfl⟩
      exact ⟨_, tail, ⟨a, hitem, rfl⟩, htail, rfl⟩

/-- A list is accepted if it is an array of which each item is. -/
theorem list_eq_valid_iff {value : Json} {values : List α} :
    list item value = .valid values ↔
      ∃ parts, value = .array parts ∧
        List.Forall₂ (fun part a => item part = .valid a) parts values := by
  cases value with
  | array parts => simp [list, items_eq_valid_iff]
  | _ => simp [list, Verdict.broken]

/-- A list of texts is accepted if it is an array of strings and of nothing else. -/
theorem list_text_eq_valid_iff {value : Json} {values : List String} :
    list text value = .valid values ↔ value = texts values := by
  have hparts (parts : List Json) :
      List.Forall₂ (fun part a => text part = .valid a) parts values ↔
        parts = values.map .string := by
    simp only [text_eq_valid_iff]
    rw [← List.forall₂_map_right_iff (f := Json.string), List.forall₂_eq_eq_eq]
  simp [list_eq_valid_iff, hparts, texts]

/-! ### Records -/

theorem record_eq_valid_iff {fields : Json.Members → Verdict α} {value : Json} {a : α} :
    record fields value = .valid a ↔
      ∃ members, value = .object members ∧ fields members = .valid a := by
  cases value with
  | object members => simp [record]
  | _ => simp [record, Verdict.broken]

/-- A field that may be left out takes its default where it is, and is accepted where it is not. -/
theorem optional_eq_valid_iff {name : String} {default : α} {members : Json.Members} {a : α} :
    optional name default item members = .valid a ↔
      members.get? name = none ∧ a = default ∨
        ∃ value, members.get? name = some value ∧ item value = .valid a := by
  unfold optional
  split
  · rename_i hget
    simp [hget, Verdict.under_eq_valid_iff]
  · rename_i hget
    simp [hget, eq_comm]

end Schema

end ContractDrill
