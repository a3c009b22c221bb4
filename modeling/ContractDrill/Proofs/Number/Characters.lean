import ContractDrill.Number.Layout
import ContractDrill.Proofs.Text.Numeral

/-!
# Characters of number texts

However a number is set, its text has only digits, a point, an exponent and signs, unless it is not
finite (`forall_mem_writeWith`).
-/

namespace ContractDrill

/-- The character may stand in the text of a finite number. -/
def IsNumeric (c : Char) : Prop :=
  c.isDigit = true ∨ c = '.' ∨ c = 'e' ∨ c = '+' ∨ c = '-'
  deriving Decidable

/-- All characters may stand in the text of a finite number. -/
abbrev AllNumeric (s : List Char) : Prop := ∀ c ∈ s, IsNumeric c

theorem allNumeric_zeros (count : Nat) : AllNumeric (List.replicate count '0') := by
  intro c hc
  rw [List.eq_of_mem_replicate hc]
  decide

theorem allNumeric_toDigits (n : Nat) : AllNumeric (Nat.toDigits 10 n) :=
  fun _ hc => .inl (isDigit_of_mem_toDigits hc)

/-- An integer has only digits and a sign. -/
theorem allNumeric_integerLiteral (n : Int) : AllNumeric (Json.integerLiteral n) := by
  unfold Json.integerLiteral
  dsimp only
  split
  · exact List.forall_mem_cons.mpr ⟨by decide, allNumeric_toDigits _⟩
  · exact allNumeric_toDigits _

namespace NumberLayout

variable {digits : List Char}

/-- Wherever the point stands, there are only digits beside it. -/
theorem allNumeric_positional (layout : NumberLayout) (h : AllNumeric digits) (lead : Int) :
    AllNumeric (layout.positional digits lead) := by
  unfold positional
  split
  · simp only [List.cons_append, List.forall_mem_cons, List.forall_mem_append]
    exact ⟨by decide, by decide, allNumeric_zeros _, h⟩
  · dsimp only
    -- In front of the point stand the first digits, and zeros where they do not reach it.
    have hwhole : AllNumeric (digits.take (lead.toNat + 1) ++
        List.replicate (lead.toNat + 1 - digits.length) '0') :=
      List.forall_mem_append.mpr ⟨fun c hc => h c (List.mem_of_mem_take hc), allNumeric_zeros _⟩
    split
    · split
      · have hpoint : AllNumeric ['.', '0'] :=
          List.forall_mem_cons.mpr ⟨by decide, allNumeric_zeros 1⟩
        exact List.forall_mem_append.mpr ⟨hwhole, hpoint⟩
      · exact hwhole
    · refine List.forall_mem_append.mpr ⟨hwhole, List.forall_mem_cons.mpr ⟨by decide, ?_⟩⟩
      exact fun c hc => h c (List.mem_of_mem_drop hc)

theorem allNumeric_exponentPart (lead : Int) : AllNumeric (exponentPart lead) := by
  unfold exponentPart
  dsimp only
  simp only [List.cons_append, List.forall_mem_cons, List.forall_mem_append]
  refine ⟨by decide, ?_, allNumeric_zeros _, allNumeric_toDigits _⟩
  split <;> decide

/-- The point and the exponent are all that is put to the digits. -/
theorem allNumeric_scientific (h : AllNumeric digits) (lead : Int) :
    AllNumeric (scientific digits lead) := by
  have hexponent := allNumeric_exponentPart lead
  unfold scientific
  split
  · exact hexponent
  · rename_i d
    exact List.forall_mem_cons.mpr ⟨h d List.mem_cons_self, hexponent⟩
  · rename_i d rest hrest
    obtain ⟨hd, hbehind⟩ := List.forall_mem_cons.mp h
    simp only [List.cons_append, List.forall_mem_cons, List.forall_mem_append]
    exact ⟨hd, by decide, hbehind, hexponent⟩

/-- A decimal has only numeric characters. -/
theorem allNumeric_write (layout : NumberLayout) (negative : Bool) (d : Decimal) :
    AllNumeric (layout.write negative d).toList := by
  have hbody (lead : Int) : AllNumeric
      (if layout.firstPositional ≤ lead ∧ lead < layout.firstScientific then
        layout.positional (Nat.toDigits 10 d.digits) lead
      else scientific (Nat.toDigits 10 d.digits) lead) := by
    split
    · exact layout.allNumeric_positional (allNumeric_toDigits _) lead
    · exact allNumeric_scientific (allNumeric_toDigits _) lead
  unfold write
  rw [String.toList_ofList]
  cases negative with
  | false => exact hbody _
  | true => exact List.forall_mem_cons.mpr ⟨by decide, hbody _⟩

/-- What holds of numeric characters, and of those in the names of the other values, holds of all
characters in the text of a number. -/
theorem forall_mem_writeWith {layout : NumberLayout} {p : Char → Prop}
    (hnumeric : ∀ c, IsNumeric c → p c) (hinfinity : ∀ c ∈ layout.infinityText.toList, p c)
    (hnan : ∀ c ∈ layout.nanText.toList, p c) (form : Nat → Nat → Decimal) (x : Binary64) :
    ∀ c ∈ (layout.writeWith form x).toList, p c := by
  have hfinite (negative : Bool) (d : Decimal) : ∀ c ∈ (layout.write negative d).toList, p c :=
    fun c hc => hnumeric c (layout.allNumeric_write negative d c hc)
  unfold writeWith
  split
  · exact hnan
  · split
    · rw [String.toList_append]
      exact List.forall_mem_append.mpr ⟨by simpa using hnumeric '-' (by decide), hinfinity⟩
    · exact hinfinity
  · split
    · exact hfinite _ _
    · exact hfinite _ _

end NumberLayout

/-- A number of one place behind the point has only numeric characters. -/
theorem Binary64.forall_mem_fixed1 {p : Char → Prop} (hnumeric : ∀ c, IsNumeric c → p c)
    (hinfinity : ∀ c ∈ plainLayout.infinityText.toList, p c)
    (hnan : ∀ c ∈ plainLayout.nanText.toList, p c) (x : Binary64) :
    ∀ c ∈ x.fixed1.toList, p c := by
  have hminus : p '-' := hnumeric '-' (by decide)
  have hbody (n : Nat) :
      ∀ c ∈ Nat.toDigits 10 (n / 10) ++ '.' :: Nat.toDigits 10 (n % 10), p c := by
    have hdigits (k : Nat) : ∀ c ∈ Nat.toDigits 10 k, p c :=
      fun c hc => hnumeric c (allNumeric_toDigits k c hc)
    exact List.forall_mem_append.mpr
      ⟨hdigits _, List.forall_mem_cons.mpr ⟨hnumeric '.' (by decide), hdigits _⟩⟩
  unfold fixed1
  split
  · exact hnan
  · split
    · exact List.forall_mem_cons.mpr ⟨hminus, hinfinity⟩
    · exact hinfinity
  · rename_i negative mantissa exponent _
    rw [String.toList_ofList]
    cases negative with
    | false => exact hbody _
    | true => exact List.forall_mem_cons.mpr ⟨hminus, hbody _⟩

end ContractDrill
