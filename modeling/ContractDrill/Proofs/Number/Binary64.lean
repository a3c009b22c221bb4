import ContractDrill.Number.Binary64
import ContractDrill.Proofs.Number.Rounding

/-!
# Rounding to the format

`Binary64.ofRatio` depends on the rational number `num / den` only (`ofRatio_congr`): the exponent
of its last place is the one that `IsLastPlace` describes, and the mantissa is its rounding there.

A number of the format is what every quotient close to it is rounded to (`ofRatio_of_near`): closer,
that is, than a `2 ^ 54`th of its own magnitude.  So a decimal of seventeen digits is close enough,
because `2 ^ 54` is less than `2 * 10 ^ 16`.
-/

namespace ContractDrill

namespace Binary64

/-! ### The last place -/

/-- A mantissa at this place has no more than 53 bits, and needs them all unless the place is the
lowest. -/
structure IsLastPlace (v : ℚ) (place : Int) : Prop where
  lowest_le : -1074 ≤ place
  lt_bound : v < 2 ^ (place + 53)
  full : place = -1074 ∨ 2 ^ (place + 52) ≤ v

theorem lt_of_zpow_lt {a b : Int} (h : (2 : ℚ) ^ a < 2 ^ b) : a < b :=
  (zpow_lt_zpow_iff_right₀ one_lt_two).mp h

theorem zpow_mono {a b : Int} (h : a ≤ b) : (2 : ℚ) ^ a ≤ 2 ^ b :=
  (zpow_le_zpow_iff_right₀ one_lt_two).mpr h

/-- No last place of a number is below another one: the number would have too many digits there. -/
theorem IsLastPlace.le {v : ℚ} {place place' : Int} (h : IsLastPlace v place)
    (h' : IsLastPlace v place') : place' ≤ place := by
  rcases h'.full with hlowest | hfull
  · rw [hlowest]
    exact h.lowest_le
  · have := lt_of_zpow_lt (lt_of_le_of_lt hfull h.lt_bound)
    omega

theorem IsLastPlace.unique {v : ℚ} {place place' : Int} (h : IsLastPlace v place)
    (h' : IsLastPlace v place') : place = place' :=
  le_antisymm (h'.le h) (h.le h')

/-- The logarithms of a numerator and a denominator tell the logarithm of the quotient up to
one. -/
theorem quotientOf_bounds {num den : Nat} (hnum : num ≠ 0) (hden : den ≠ 0) :
    2 ^ ((num.log2 : Int) - den.log2 - 1) < quotientOf (num, den) ∧
      quotientOf (num, den) < 2 ^ ((num.log2 : Int) - den.log2 + 1) := by
  have hpos : (0 : ℚ) < den := Nat.cast_pos.mpr (Nat.pos_of_ne_zero hden)
  -- Each of the two numbers lies between two powers of two, and their quotient between four.
  have hlow : (2 : ℚ) ^ num.log2 ≤ num := by exact_mod_cast Nat.log2_self_le hnum
  have hhigh : (num : ℚ) < 2 ^ (num.log2 + 1) := by exact_mod_cast Nat.lt_log2_self
  have hlow' : (2 : ℚ) ^ den.log2 ≤ den := by exact_mod_cast Nat.log2_self_le hden
  have hhigh' : (den : ℚ) < 2 ^ (den.log2 + 1) := by exact_mod_cast Nat.lt_log2_self
  have hbelow : (2 : ℚ) ^ ((num.log2 : Int) - den.log2 - 1) =
      2 ^ num.log2 / 2 ^ (den.log2 + 1) := by
    rw [sub_sub, zpow_sub₀ two_ne_zero, zpow_natCast]
    norm_cast
  have habove : (2 : ℚ) ^ ((num.log2 : Int) - den.log2 + 1) =
      2 ^ (num.log2 + 1) / 2 ^ den.log2 := by
    rw [sub_add_eq_add_sub, zpow_sub₀ two_ne_zero, zpow_natCast]
    norm_cast
  unfold quotientOf
  rw [hbelow, habove, div_lt_div_iff₀ (by positivity) hpos, div_lt_div_iff₀ hpos (by positivity)]
  constructor
  · calc (2 : ℚ) ^ num.log2 * den ≤ num * den := by gcongr
      _ < num * 2 ^ (den.log2 + 1) := by
        have : (0 : ℚ) < num := Nat.cast_pos.mpr (Nat.pos_of_ne_zero hnum)
        gcongr
  · calc (num : ℚ) * 2 ^ den.log2 ≤ num * den := by gcongr
      _ < 2 ^ (num.log2 + 1) * den := by gcongr

/-- Whether a quotient reaches the bound of the mantissas can be seen from its integer part. -/
theorem mantissaBound_le_div_iff {num den : Nat} (hden : 0 < den) (place : Int) :
    mantissaBound ≤ (scaleDown 2 num den place).1 / (scaleDown 2 num den place).2 ↔
      2 ^ (place + 53) ≤ quotientOf (num, den) := by
  have hpos := scaleDown_snd_pos Nat.two_pos hden num place
  have hcast : (0 : ℚ) < (scaleDown 2 num den place).2 := Nat.cast_pos.mpr hpos
  have hpow : (0 : ℚ) < 2 ^ place := zpow_pos two_pos place
  have hscale := quotientOf_scaleDown Nat.two_pos num den place
  have hbound : ((mantissaBound : Nat) : ℚ) = 2 ^ (53 : Int) := by norm_num
  rw [Nat.le_div_iff_mul_le hpos, ← Nat.cast_le (α := ℚ), Nat.cast_mul, ← le_div_iff₀ hcast]
  show ((mantissaBound : Nat) : ℚ) ≤ quotientOf (scaleDown 2 num den place) ↔ _
  rw [hscale, Nat.cast_two, le_div_iff₀ hpow, hbound, ← zpow_add₀ two_ne_zero, add_comm]

/-- The place that is computed from the lengths of both numbers is the last place of their
quotient. -/
theorem isLastPlace_lastPlace {num den : Nat} (hnum : num ≠ 0) (hden : den ≠ 0) :
    IsLastPlace (quotientOf (num, den)) (lastPlace num den) := by
  obtain ⟨hlow, hhigh⟩ := quotientOf_bounds hnum hden
  unfold lastPlace
  dsimp only
  obtain ⟨low, hlowest⟩ : ∃ low, max ((num.log2 : Int) - den.log2 - 53) (-1074) = low := ⟨_, rfl⟩
  rw [hlowest]
  -- The first guess is at most one place too low.
  split
  · rename_i hreach
    rw [mantissaBound_le_div_iff (Nat.pos_of_ne_zero hden)] at hreach
    have hlt := lt_of_zpow_lt (lt_of_le_of_lt hreach hhigh)
    refine ⟨by omega, ?_, Or.inr ?_⟩
    · exact lt_of_lt_of_le hhigh (zpow_mono (by omega))
    · rwa [add_right_comm, add_assoc]
  · rename_i hreach
    rw [mantissaBound_le_div_iff (Nat.pos_of_ne_zero hden), not_le] at hreach
    refine ⟨by omega, hreach, ?_⟩
    by_cases hfloor : low = -1074
    · exact Or.inl hfloor
    · exact Or.inr (le_trans (zpow_mono (by omega)) hlow.le)

/-! ### Quotients -/

/-- The number with a rounded mantissa: a full one is carried to the next place, and beyond the last
place there is only the infinity. -/
def ofRounded (negative : Bool) (rounded : Nat) (place : Int) : Binary64 :=
  let (mantissa, exponent) :=
    if rounded = mantissaBound then (leastFullMantissa, place + 1) else (rounded, place)
  if h : CanonicalForm mantissa exponent then .finite negative mantissa exponent h
  else .infinity negative

/-- A mantissa that was rounded up to its bound is carried into the next place. -/
theorem ofRounded_mantissaBound (negative : Bool) {exponent : Int}
    (h : CanonicalForm leastFullMantissa exponent) :
    ofRounded negative mantissaBound (exponent - 1) =
      .finite negative leastFullMantissa exponent h := by
  unfold ofRounded
  rw [if_pos rfl, Int.sub_add_cancel]
  exact dif_pos h

/-- A rounding in canonical form stays as it is. -/
theorem ofRounded_of_canonicalForm (negative : Bool) {mantissa : Nat} {exponent : Int}
    (h : CanonicalForm mantissa exponent) :
    ofRounded negative mantissa exponent = .finite negative mantissa exponent h := by
  unfold ofRounded
  rw [if_neg (Nat.ne_of_lt h.1)]
  exact dif_pos h

/-- A quotient is rounded at its last place. -/
theorem ofRatio_eq (negative : Bool) {num den rounded : Nat} {place : Int} (hnum : num ≠ 0)
    (hden : den ≠ 0) (hplace : IsLastPlace (quotientOf (num, den)) place)
    (hrounded : IsRounding rounded (quotientOf (num, den) / 2 ^ place)) :
    ofRatio negative num den = ofRounded negative rounded place := by
  have hscale := quotientOf_scaleDown Nat.two_pos num den place
  rw [Nat.cast_two] at hscale
  have hround : roundHalfEven (scaleDown 2 num den place).1 (scaleDown 2 num den place).2 =
      rounded := by
    apply roundHalfEven_eq (scaleDown_snd_pos Nat.two_pos (Nat.pos_of_ne_zero hden) num place)
    rw [hscale]
    exact hrounded
  unfold ofRatio
  rw [if_neg hnum, (isLastPlace_lastPlace hnum hden).unique hplace]
  dsimp only
  rw [hround]
  rfl

/-- A quotient is zero just if it has a zero above. -/
theorem quotientOf_eq_zero_iff {num den : Nat} (hden : den ≠ 0) :
    quotientOf (num, den) = 0 ↔ num = 0 := by
  unfold quotientOf
  simp [hden]

/-- Equal quotients are rounded to the same number. -/
theorem ofRatio_congr (negative : Bool) {num den num' den' : Nat} (hden : den ≠ 0)
    (hden' : den' ≠ 0) (h : quotientOf (num, den) = quotientOf (num', den')) :
    ofRatio negative num den = ofRatio negative num' den' := by
  have hiff : num = 0 ↔ num' = 0 := by
    rw [← quotientOf_eq_zero_iff hden, h, quotientOf_eq_zero_iff hden']
  by_cases hnum : num = 0
  · rw [hnum, hiff.mp hnum]
    rfl
  · have hnum' : num' ≠ 0 := fun hzero => hnum (hiff.mpr hzero)
    have hplace := isLastPlace_lastPlace hnum hden
    have hrounded := isRounding_roundHalfEven (scaleDown 2 num den (lastPlace num den)).1
      (scaleDown_snd_pos Nat.two_pos (Nat.pos_of_ne_zero hden) num (lastPlace num den))
    rw [Prod.mk.eta, quotientOf_scaleDown Nat.two_pos, Nat.cast_two] at hrounded
    rw [ofRatio_eq negative hnum hden hplace hrounded]
    rw [h] at hplace hrounded
    exact (ofRatio_eq negative hnum' hden' hplace hrounded).symm

/-! ### Signs -/

theorem neg_ofRounded (rounded : Nat) (place : Int) :
    (ofRounded false rounded place).neg = ofRounded true rounded place := by
  unfold ofRounded
  dsimp only
  split
  · dsimp only
    split <;> rfl
  · dsimp only
    split <;> rfl

/-- The sign of a quotient does not take part in the rounding. -/
theorem neg_ofRatio (num den : Nat) : (ofRatio false num den).neg = ofRatio true num den := by
  unfold ofRatio
  split
  · rfl
  · exact neg_ofRounded _ _

/-! ### Numbers of the format -/

/-- The magnitude `mantissa * 2 ^ exponent`. -/
def magnitude (mantissa : Nat) (exponent : Int) : ℚ :=
  mantissa * 2 ^ exponent

section

variable {exponent : Int} {num den : Nat} {u : ℚ}

/-- At its own place a quotient is rounded to the mantissa next to it. -/
theorem ofRatio_of_lt_half (negative : Bool) {mantissa : Nat} (h : CanonicalForm mantissa exponent)
    (hnum : num ≠ 0) (hden : den ≠ 0) (hu : quotientOf (num, den) = u * 2 ^ exponent)
    (hplace : exponent = -1074 ∨ 2 ^ 52 ≤ u) (hnear : |(mantissa : ℚ) - u| < 1 / 2) :
    ofRatio negative num den = .finite negative mantissa exponent h := by
  have hpow : (0 : ℚ) < 2 ^ exponent := zpow_pos two_pos exponent
  have hmantissa : (mantissa : ℚ) + 1 ≤ 2 ^ 53 := by exact_mod_cast h.1
  have habs := abs_lt.mp hnear
  have hlast : IsLastPlace (quotientOf (num, den)) exponent := by
    refine ⟨h.2.1, ?_, hplace.imp_right fun hle => ?_⟩
    · rw [hu, zpow_add₀ two_ne_zero, mul_comm]
      exact mul_lt_mul_of_pos_left (by norm_num; linarith) hpow
    · rw [hu, zpow_add₀ two_ne_zero, mul_comm]
      exact mul_le_mul_of_nonneg_right (by exact_mod_cast hle) hpow.le
  have hrounded : IsRounding mantissa (quotientOf (num, den) / 2 ^ exponent) := by
    rw [hu, mul_div_cancel_right₀ _ hpow.ne']
    exact ⟨hnear.le, fun heq => absurd heq hnear.ne⟩
  rw [ofRatio_eq negative hnum hden hlast hrounded]
  exact ofRounded_of_canonicalForm negative h

/-- Just below a power of two the numbers of the format lie closer together; a quotient that is
rounded up to the power is carried to the place above. -/
theorem ofRatio_of_lt_quarter (negative : Bool) (h : CanonicalForm leastFullMantissa exponent)
    (hexponent : exponent ≠ -1074) (hnum : num ≠ 0) (hden : den ≠ 0)
    (hu : quotientOf (num, den) = u * 2 ^ exponent) (hbelow : u < 2 ^ 52)
    (hnear : |u - 2 ^ 52| < 1 / 4) :
    ofRatio negative num den = .finite negative leastFullMantissa exponent h := by
  have hpow : (0 : ℚ) < 2 ^ exponent := zpow_pos two_pos exponent
  have hlowest := h.2.1
  have habs := abs_lt.mp hnear
  -- Below a power of two the last place is one lower, and so there the unit is half of it.
  have hlast : IsLastPlace (quotientOf (num, den)) (exponent - 1) := by
    refine ⟨by omega, ?_, Or.inr ?_⟩
    · rw [hu, show exponent - 1 + 53 = 52 + exponent by ring, zpow_add₀ two_ne_zero]
      exact mul_lt_mul_of_pos_right (by exact_mod_cast hbelow) hpow
    · rw [hu, show exponent - 1 + 52 = 51 + exponent by ring, zpow_add₀ two_ne_zero]
      exact mul_le_mul_of_nonneg_right (by norm_num; linarith) hpow.le
  have hrounded : IsRounding mantissaBound (quotientOf (num, den) / 2 ^ (exponent - 1)) := by
    have hscaled : quotientOf (num, den) / 2 ^ (exponent - 1) = 2 * u := by
      rw [hu, zpow_sub₀ two_ne_zero, zpow_one]
      field_simp
    have hlt : |((mantissaBound : Nat) : ℚ) - 2 * u| < 1 / 2 := by
      rw [abs_lt]
      constructor <;> norm_num <;> linarith
    rw [hscaled]
    exact ⟨hlt.le, fun heq => absurd heq hlt.ne⟩
  rw [ofRatio_eq negative hnum hden hlast hrounded]
  exact ofRounded_mantissaBound negative h

/-- Whatever is close to a number of the format is rounded to it. -/
theorem ofRatio_of_near (negative : Bool) {mantissa : Nat} (h : CanonicalForm mantissa exponent)
    (hden : den ≠ 0) (hnear : 2 ^ 54 * |quotientOf (num, den) - magnitude mantissa exponent| <
      magnitude mantissa exponent) :
    ofRatio negative num den = .finite negative mantissa exponent h := by
  have hpow : (0 : ℚ) < 2 ^ exponent := zpow_pos two_pos exponent
  -- In units of the last place.
  obtain ⟨u, hu⟩ : ∃ u, quotientOf (num, den) = u * 2 ^ exponent :=
    ⟨_, (div_mul_cancel₀ _ hpow.ne').symm⟩
  have hclose : 2 ^ 54 * |u - mantissa| < mantissa := by
    unfold magnitude at hnear
    rw [hu, ← sub_mul, abs_mul, abs_of_pos hpow, ← mul_assoc] at hnear
    exact lt_of_mul_lt_mul_right hnear hpow.le
  have hmantissa : (mantissa : ℚ) + 1 ≤ 2 ^ 53 := by exact_mod_cast h.1
  have hhalf : |u - mantissa| < 1 / 2 := by linarith
  have hnum : num ≠ 0 := by
    rintro rfl
    have hzero : u = 0 := by
      rw [(quotientOf_eq_zero_iff hden).mpr rfl] at hu
      exact (mul_eq_zero.mp hu.symm).resolve_right hpow.ne'
    rw [hzero, zero_sub, abs_neg, abs_of_nonneg (Nat.cast_nonneg _)] at hclose
    have : (0 : ℚ) ≤ mantissa := Nat.cast_nonneg _
    linarith
  by_cases hplace : exponent = -1074 ∨ 2 ^ 52 ≤ u
  · rw [abs_sub_comm] at hhalf
    exact ofRatio_of_lt_half negative h hnum hden hu hplace hhalf
  · rw [not_or, not_le] at hplace
    obtain ⟨hexponent, hbelow⟩ := hplace
    -- The quotient is just below a power of two, which the mantissa stands for.
    obtain rfl : mantissa = leastFullMantissa := by
      refine le_antisymm ?_ (h.2.2.2.resolve_right hexponent)
      have habs := abs_lt.mp hhalf
      have : (mantissa : ℚ) < 2 ^ 52 + 1 := by linarith
      exact Nat.lt_succ_iff.mp (by exact_mod_cast this)
    have hcast : ((leastFullMantissa : Nat) : ℚ) = 2 ^ 52 := by norm_num
    have hquarter : |u - 2 ^ 52| < 1 / 4 := by
      rw [hcast] at hclose
      generalize |u - 2 ^ 52| = gap at hclose ⊢
      linarith
    exact ofRatio_of_lt_quarter negative h hexponent hnum hden hu hbelow hquarter

end

end Binary64

end ContractDrill
