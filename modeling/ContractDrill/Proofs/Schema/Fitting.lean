import ContractDrill.Proofs.Json.RoundTrip
import ContractDrill.Schema.Record

/-!
# Writing within the limits of the source

Whatever a schema accepts can be written again within the limits of a reader that its source fits
into (`WritesWithin`): no integer grows, no name comes twice, and no bracket is added.  Each scalar
has this property, and lists and fields inherit it.
-/

namespace ContractDrill

open Schema

/-- Written by `write`, whatever the reader accepts fits where its source does. -/
def WritesWithin {α : Type} (item : Reader α) (write : α → Json) : Prop :=
  ∀ (depth : Nat) (value : Json) (a : α), Json.Fits .usual depth value → item value = .valid a →
    Json.Fits .usual depth (write a)

/-! ### Scalars -/

/-- An integer of one machine word fits a numeral. -/
theorem fitsNumeral_of_natAbs_lt {n : Int} (h : n.natAbs < wordBound) : FitsNumeral n := by
  have hlt : n.natAbs < 10 ^ 19 := h.trans (by decide)
  have hlength : (Nat.toDigits 10 n.natAbs).length ≤ 19 :=
    (Nat.length_toDigits_le_iff (by decide) (by decide)).mpr hlt
  exact hlength.trans (by decide)

/-- A free-form object is written as it was read. -/
theorem writesWithin_freeForm : WritesWithin freeForm .object := by
  intro depth value members hfits hread
  cases value with
  | object members' =>
    obtain rfl := Verdict.valid.inj hread
    exact hfits
  | _ => cases hread

/-- An integer has no more digits than a numeral may have, however it came. -/
theorem writesWithin_integer : WritesWithin integer .integer := by
  intro depth value n hfits hread
  apply Json.Fits.integer
  -- An integer is longer than its source just if that is a number, and then it is one machine word.
  cases value with
  | bool value =>
    obtain rfl := Verdict.valid.inj hread
    cases value <;> decide
  | integer m =>
    obtain rfl := Verdict.valid.inj hread
    exact Json.fits_integer_iff.mp hfits
  | number x =>
    unfold integer integerOfNumber at hread
    dsimp only at hread
    split at hread
    · split at hread
      · cases hread
      · split at hread
        · rename_i hlt
          obtain rfl := Verdict.valid.inj hread
          exact fitsNumeral_of_natAbs_lt hlt
        · cases hread
    · cases hread
  | string s =>
    unfold integer at hread
    dsimp only at hread
    split at hread
    · rename_i hwhole
      obtain rfl := Verdict.valid.inj hread
      exact fitsNumeral_of_readWhole hwhole
    · cases hread
  | _ => cases hread

/-! ### Lists and records -/

section

variable {α : Type} {item : Reader α} {write : α → Json}

/-- What may be `null` is written as `null`, or within the limits of its source. -/
theorem WritesWithin.nullable (h : WritesWithin item write) :
    WritesWithin (nullable item) fun a => (a.map write).getD .null := by
  intro depth value a hfits hread
  by_cases hnull : value = .null
  · subst hnull
    obtain rfl := Verdict.valid.inj hread
    exact .null
  · rw [Schema.nullable, Verdict.map_eq_valid_iff] at hread
    · obtain ⟨b, hitem, rfl⟩ := hread
      exact h depth value b hfits hitem
    · exact hnull

theorem WritesWithin.items (h : WritesWithin item write) {depth : Nat} {parts : List Json}
    (hparts : ∀ part ∈ parts, Json.Fits .usual depth part) {position : Nat} {values : List α}
    (hread : items item position parts = .valid values) :
    ∀ a ∈ values, Json.Fits .usual depth (write a) := by
  induction parts generalizing position values with
  | nil =>
    obtain rfl := Verdict.valid.inj hread
    simp
  | cons part rest ih =>
    rw [Schema.items, Verdict.seq_eq_valid_iff] at hread
    obtain ⟨extend, tail, hhead, htail, rfl⟩ := hread
    rw [Verdict.map_eq_valid_iff] at hhead
    obtain ⟨a, hitem, rfl⟩ := hhead
    rw [List.forall_mem_cons] at hparts ⊢
    exact ⟨h depth part a hparts.1 (Verdict.under_eq_valid_iff.mp hitem), ih hparts.2 htail⟩

/-- A list is written within the limits of its source: its bracket is that of the source. -/
theorem WritesWithin.list (h : WritesWithin item write) :
    WritesWithin (list item) fun values => .array (values.map write) := by
  intro depth value values hfits hread
  cases hfits with
  | array hparts =>
    refine .array fun part hpart => ?_
    obtain ⟨a, ha, rfl⟩ := List.mem_map.mp hpart
    exact h.items hparts hread a ha
  | emptyArray hbeyond => exact absurd hbeyond (by decide)
  | _ => cases hread

/-- That a list is not empty makes no difference to how it is written. -/
theorem WritesWithin.someOf (h : WritesWithin item write) :
    WritesWithin (someOf item) fun values => .array (values.val.map write) := by
  intro depth value values hfits hread
  unfold Schema.someOf at hread
  cases hlist : Schema.list item value with
  | invalid issues =>
    rw [hlist] at hread
    cases hread
  | valid all =>
    rw [hlist] at hread
    unfold Verdict.andThen at hread
    dsimp only at hread
    split at hread
    · obtain rfl := Verdict.valid.inj hread
      exact h.list depth value all hfits hlist
    · cases hread

theorem fits_of_get? {depth : Nat} {members : Json.Members}
    (hmembers : ∀ member ∈ members, Json.Fits .usual depth member.2) {name : String} {value : Json}
    (hget : members.get? name = some value) : Json.Fits .usual depth value :=
  hmembers (name, value) (Json.mem_of_lookup hget)

/-- A field is written as what it was read from allows, unless it has its default. -/
theorem WritesWithin.optional (h : WritesWithin item write) {depth : Nat} {members : Json.Members}
    (hmembers : ∀ member ∈ members, Json.Fits .usual depth member.2) {name : String} {default a : α}
    (hdefault : Json.Fits .usual depth (write default))
    (hread : optional name default item members = .valid a) : Json.Fits .usual depth (write a) := by
  unfold Schema.optional at hread
  split at hread
  · rename_i hget
    exact h depth _ a (fits_of_get? hmembers hget) (Verdict.under_eq_valid_iff.mp hread)
  · obtain rfl := Verdict.valid.inj hread
    exact hdefault

/-- A field is written within the limits of the members it was read from. -/
theorem WritesWithin.required (h : WritesWithin item write) {depth : Nat} {members : Json.Members}
    (hmembers : ∀ member ∈ members, Json.Fits .usual depth member.2) {name : String} {a : α}
    (hread : required name item members = .valid a) : Json.Fits .usual depth (write a) := by
  unfold Schema.required at hread
  split at hread
  · rename_i hget
    exact h depth _ a (fits_of_get? hmembers hget) (Verdict.under_eq_valid_iff.mp hread)
  · cases hread

end

/-! ### Members that may be left out -/

/-- A field is written under its name, if it is written at all. -/
theorem member_sublist (unset : Unset) (name : String) (value : Option Json) :
    ((unset.member name value).map Prod.fst).Sublist [name] := by
  cases value with
  | some value => exact List.Sublist.refl _
  | none =>
    cases unset with
    | asNull => exact List.Sublist.refl _
    | omitted => exact List.nil_sublist _

theorem fits_of_mem_member {depth : Nat} {unset : Unset} {name : String} {value : Option Json}
    (h : Json.Fits .usual depth (value.getD .null)) {member : String × Json}
    (hmember : member ∈ unset.member name value) : Json.Fits .usual depth member.2 := by
  cases value with
  | some value =>
    rw [List.mem_singleton.mp hmember]
    exact h
  | none =>
    cases unset with
    | asNull =>
      rw [List.mem_singleton.mp hmember]
      exact .null
    | omitted => cases hmember

end ContractDrill
