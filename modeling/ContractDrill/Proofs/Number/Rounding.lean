import ContractDrill.Number.Binary64
import Mathlib.Algebra.Order.Field.Power
import Mathlib.Data.Rat.Cast.Order
import Mathlib.Tactic.FieldSimp
import Mathlib.Tactic.Linarith
import Mathlib.Tactic.Positivity
import Mathlib.Tactic.Ring

/-!
# Rounding as a property of the quotient

What `roundHalfEven num den` yields depends on the rational number `num / den` only: it is the one
natural number that is a rounding of it (`IsRounding`, `isRounding_roundHalfEven`,
`IsRounding.unique`).  Likewise `scaleDown` divides the quotient by a power
(`quotientOf_scaleDown`).
-/

namespace ContractDrill

/-- The quotient that a numerator and a denominator stand for. -/
def quotientOf (pair : Nat × Nat) : ℚ :=
  pair.1 / pair.2

/-! ### Scaling -/

theorem scaleDown_snd_pos {base : Nat} (hbase : 0 < base) {den : Nat} (hden : 0 < den) (num : Nat)
    (e : Int) : 0 < (scaleDown base num den e).2 :=
  Nat.mul_pos hden (Nat.pow_pos hbase)

/-- Scaling down divides the quotient by a power, whichever of the two numbers it multiplies. -/
theorem quotientOf_scaleDown {base : Nat} (hbase : 0 < base) (num den : Nat) (e : Int) :
    quotientOf (scaleDown base num den e) = quotientOf (num, den) / (base : ℚ) ^ e := by
  have hne : (base : ℚ) ≠ 0 := Nat.cast_ne_zero.mpr hbase.ne'
  unfold quotientOf scaleDown
  simp only [Nat.pow_eq]
  push_cast
  rcases le_total 0 e with he | he
  · obtain ⟨k, rfl⟩ := Int.eq_ofNat_of_zero_le he
    simp [div_div]
  · obtain ⟨k, hk⟩ := Int.eq_ofNat_of_zero_le (Int.neg_nonneg_of_nonpos he)
    obtain rfl : e = -(k : Int) := by omega
    rw [Int.neg_neg, Int.toNat_natCast, Int.toNat_neg_natCast, pow_zero, mul_one, zpow_neg,
      zpow_natCast, div_inv_eq_mul, mul_div_right_comm]

/-! ### Roundings -/

/-- The natural number is nearest to `v`, and even if `v` lies in the middle of two. -/
def IsRounding (r : Nat) (v : ℚ) : Prop :=
  |(r : ℚ) - v| ≤ 1 / 2 ∧ (|(r : ℚ) - v| = 1 / 2 → r % 2 = 0)

/-- Rounding half to even is a rounding: no natural number is nearer, and of two the even one is
taken. -/
theorem isRounding_roundHalfEven (num : Nat) {den : Nat} (hden : 0 < den) :
    IsRounding (roundHalfEven num den) (quotientOf (num, den)) := by
  have hpos : (0 : ℚ) < den := Nat.cast_pos.mpr hden
  obtain ⟨quotient, hquotient⟩ : ∃ quotient, num / den = quotient := ⟨_, rfl⟩
  obtain ⟨rest, hrest⟩ : ∃ rest, num % den = rest := ⟨_, rfl⟩
  have hlt : rest < den := hrest ▸ Nat.mod_lt num hden
  have hnum : (num : ℚ) = den * quotient + rest := by
    rw [← hquotient, ← hrest]
    exact_mod_cast (Nat.div_add_mod num den).symm
  have hvalue : quotientOf (num, den) = quotient + (rest : ℚ) / den := by
    unfold quotientOf
    rw [hnum, add_div, mul_div_cancel_left₀ _ hpos.ne']
  have hbelow : (quotient : ℚ) - quotientOf (num, den) = -((rest : ℚ) / den) := by
    rw [hvalue]
    ring
  have habove : ((quotient + 1 : Nat) : ℚ) - quotientOf (num, den) = 1 - (rest : ℚ) / den := by
    rw [hvalue]
    push_cast
    ring
  have hnonneg : 0 ≤ (rest : ℚ) / den := by positivity
  have hle : (rest : ℚ) / den ≤ 1 := (div_le_one hpos).mpr (by exact_mod_cast hlt.le)
  -- By the rest: more than half of the denominator, less than that, or just half.
  unfold roundHalfEven
  rw [hquotient, hrest]
  dsimp only
  split
  · rename_i htwice
    have hhalf : 1 / 2 < (rest : ℚ) / den := by
      rw [div_lt_div_iff₀ (by norm_num) hpos]
      exact_mod_cast (by omega : 1 * den < rest * 2)
    unfold IsRounding
    rw [habove, abs_of_nonneg (by linarith)]
    exact ⟨by linarith, fun h => by linarith⟩
  · split
    · rename_i htwice
      have hhalf : (rest : ℚ) / den < 1 / 2 := by
        rw [div_lt_div_iff₀ hpos (by norm_num)]
        exact_mod_cast (by omega : rest * 2 < 1 * den)
      unfold IsRounding
      rw [hbelow, abs_neg, abs_of_nonneg hnonneg]
      exact ⟨by linarith, fun h => by linarith⟩
    · have hhalf : (rest : ℚ) / den = 1 / 2 := by
        rw [div_eq_div_iff hpos.ne' (by norm_num)]
        exact_mod_cast (by omega : rest * 2 = 1 * den)
      unfold IsRounding
      split
      · rename_i heven
        rw [hbelow, abs_neg, abs_of_nonneg hnonneg]
        exact ⟨hhalf.le, fun _ => heven⟩
      · rename_i hodd
        rw [habove, abs_of_nonneg (by linarith)]
        exact ⟨by linarith, fun _ => by omega⟩

/-- A number has one rounding: two would lie on both sides of it, and both be even. -/
theorem IsRounding.unique {r r' : Nat} {v : ℚ} (h : IsRounding r v) (h' : IsRounding r' v) :
    r = r' := by
  wlog hlt : r < r' generalizing r r'
  · rcases Nat.lt_trichotomy r r' with hlt' | heq | hgt
    · exact absurd hlt' hlt
    · exact heq
    · exact (this h' h hgt).symm
  exfalso
  have hnext : (r : ℚ) + 1 ≤ r' := by exact_mod_cast hlt
  obtain ⟨hnear, heven⟩ := h
  obtain ⟨hnear', heven'⟩ := h'
  have hlow := (abs_le.mp hnear).1
  have hhigh := (abs_le.mp hnear').2
  -- Both are exactly one half away, so they are neighbours.
  have hmiddle : (r : ℚ) - v = -(1 / 2) := by linarith
  have hmiddle' : (r' : ℚ) - v = 1 / 2 := by linarith
  have hnext' : r' = r + 1 := by
    have : (r' : ℚ) = r + 1 := by linarith
    exact_mod_cast this
  have hr := heven (by rw [hmiddle, abs_neg, abs_of_pos]; all_goals norm_num)
  have hr' := heven' (by rw [hmiddle', abs_of_pos]; norm_num)
  omega

/-- What is a rounding is what rounding half to even yields. -/
theorem roundHalfEven_eq {num den r : Nat} (hden : 0 < den)
    (h : IsRounding r (quotientOf (num, den))) : roundHalfEven num den = r :=
  (isRounding_roundHalfEven num hden).unique h

end ContractDrill
