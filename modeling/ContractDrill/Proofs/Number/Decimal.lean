import ContractDrill.Number.Decimal
import ContractDrill.Proofs.Number.Binary64

/-!
# Decimals that read back

`Decimal.shortest` of a number of the format reads back as that number (`toBinary64_shortest`): it
looks for a decimal that does, and if there is none of fewer digits, one of seventeen digits is
close enough.

What a decimal reads as depends on its value only (`toBinary64_congr`), so zeros at the end of its
digits may be dropped or added.
-/

namespace ContractDrill

namespace Decimal

/-- The rational number that a decimal stands for. -/
def value (d : Decimal) : ℚ :=
  d.digits * 10 ^ d.exponent

/-! ### Values and digits -/

theorem value_eq_zero_iff (d : Decimal) : d.value = 0 ↔ d.digits = 0 := by
  unfold value
  rw [mul_eq_zero, Nat.cast_eq_zero, or_iff_left (zpow_pos (by norm_num) _).ne']

/-- How many digits a decimal has in front of its point; a negative count is one of zeros behind
it. -/
def places (d : Decimal) : Int :=
  (Nat.toDigits 10 d.digits).length + d.exponent

/-- A decimal is below the power of ten with as many places. -/
theorem value_lt_zpow_places (d : Decimal) : d.value < 10 ^ d.places := by
  have hlt : d.digits < 10 ^ (Nat.toDigits 10 d.digits).length :=
    (Nat.length_toDigits_le_iff (by norm_num) Nat.length_toDigits_pos).mp le_rfl
  have hcast : (d.digits : ℚ) < 10 ^ (Nat.toDigits 10 d.digits).length := by exact_mod_cast hlt
  unfold value places
  rw [zpow_add₀ (by norm_num), zpow_natCast]
  exact mul_lt_mul_of_pos_right hcast (zpow_pos (by norm_num) _)

/-- A decimal that is not zero reaches the power of ten with one place less. -/
theorem zpow_le_value {d : Decimal} (hd : d.digits ≠ 0) : 10 ^ (d.places - 1) ≤ d.value := by
  obtain ⟨size, hsize⟩ : ∃ size, (Nat.toDigits 10 d.digits).length = size + 1 :=
    ⟨_, (Nat.succ_pred_eq_of_pos Nat.length_toDigits_pos).symm⟩
  have hle : 10 ^ size ≤ d.digits := by
    rcases Nat.eq_zero_or_pos size with rfl | hpos
    · exact Nat.pos_of_ne_zero hd
    · by_contra hlt
      have hle := (Nat.length_toDigits_le_iff (by norm_num) hpos).mpr (not_le.mp hlt)
      omega
  have hcast : (10 : ℚ) ^ size ≤ d.digits := by exact_mod_cast hle
  unfold value places
  rw [hsize, show ((size + 1 : Nat) : Int) + d.exponent - 1 = size + d.exponent by push_cast; ring,
    zpow_add₀ (by norm_num), zpow_natCast]
  exact mul_le_mul_of_nonneg_right hcast (zpow_pos (by norm_num) _).le

/-- A greater decimal has no fewer places. -/
theorem places_le_of_value_le {d d' : Decimal} (hd : d.digits ≠ 0) (h : d.value ≤ d'.value) :
    d.places ≤ d'.places := by
  have hlt := lt_of_le_of_lt ((zpow_le_value hd).trans h) (value_lt_zpow_places d')
  have := (zpow_lt_zpow_iff_right₀ (by norm_num : (1 : ℚ) < 10)).mp hlt
  omega

/-! ### What is read of a decimal -/

/-- The ratio that a decimal is read as is its value. -/
theorem quotientOf_scaleDown_neg (d : Decimal) :
    quotientOf (scaleDown 10 d.digits 1 (-d.exponent)) = d.value := by
  rw [quotientOf_scaleDown (by norm_num), zpow_neg, div_inv_eq_mul]
  unfold quotientOf value
  norm_num

/-- Decimals of one value read as the same number. -/
theorem toBinary64_congr (negative : Bool) {d d' : Decimal} (h : d.value = d'.value) :
    d.toBinary64 negative = d'.toBinary64 negative := by
  have hiff : d.digits = 0 ↔ d'.digits = 0 := by
    rw [← value_eq_zero_iff, h, value_eq_zero_iff]
  unfold toBinary64 Binary64.ofDecimal
  by_cases hd : d.digits = 0
  · rw [if_pos (Or.inl hd), if_pos (Or.inl (hiff.mp hd))]
  · have hd' : d'.digits ≠ 0 := fun hzero => hd (hiff.mpr hzero)
    -- The count of places, which may settle the number at once, depends on the value.
    have hplaces : d.places = d'.places :=
      le_antisymm (places_le_of_value_le hd h.le) (places_le_of_value_le hd' h.ge)
    unfold places at hplaces
    dsimp only
    rw [hplaces]
    simp only [hd, hd', false_or]
    split
    · rfl
    · split
      · rfl
      · apply Binary64.ofRatio_congr
        · exact (scaleDown_snd_pos (by norm_num) one_pos _ _).ne'
        · exact (scaleDown_snd_pos (by norm_num) one_pos _ _).ne'
        · rw [Prod.mk.eta, Prod.mk.eta, quotientOf_scaleDown_neg, quotientOf_scaleDown_neg, h]

theorem toBinary64_of_digits_eq_zero (negative : Bool) {d : Decimal} (hd : d.digits = 0) :
    d.toBinary64 negative = .zero negative := by
  unfold toBinary64 Binary64.ofDecimal
  rw [hd]
  rfl

theorem neg_toBinary64 (d : Decimal) : (d.toBinary64 false).neg = d.toBinary64 true := by
  unfold toBinary64 Binary64.ofDecimal
  dsimp only
  split
  · rfl
  · split
    · rfl
    · exact Binary64.neg_ofRatio _ _

/-! ### Powers of two and of ten -/

/-- The fractions `59 / 196` and `28 / 93` stand for the decimal logarithm of 2, which lies between
them. -/
theorem ten_zpow_le_two_zpow {a b : Int} (hup : 196 * a ≤ 59 * b) (hdown : 93 * a ≤ 28 * b) :
    (10 : ℚ) ^ a ≤ 2 ^ b := by
  -- With `10 ^ 59 ≤ 2 ^ 196` for powers that are whole, and `2 ^ 93 ≤ 10 ^ 28` for the others.
  rcases le_total 0 a with ha | ha
  · have hpow : ((10 : ℚ) ^ a) ^ 59 ≤ (2 ^ b) ^ 59 := by
      calc ((10 : ℚ) ^ a) ^ 59 = (10 ^ 59) ^ a := by
            rw [← zpow_natCast, ← zpow_natCast, zpow_comm]
        _ ≤ (2 ^ 196) ^ a := zpow_le_zpow_left₀ ha (by positivity) (by norm_num)
        _ = 2 ^ (196 * a) := by rw [zpow_mul]; norm_cast
        _ ≤ 2 ^ (59 * b) := Binary64.zpow_mono hup
        _ = (2 ^ b) ^ 59 := by rw [mul_comm, zpow_mul]; norm_cast
    exact le_of_pow_le_pow_left₀ (by norm_num) (by positivity) hpow
  · have hpow : ((10 : ℚ) ^ a) ^ 28 ≤ (2 ^ b) ^ 28 := by
      calc ((10 : ℚ) ^ a) ^ 28 = (10 ^ 28) ^ a := by
            rw [← zpow_natCast, ← zpow_natCast, zpow_comm]
        _ ≤ (2 ^ 93) ^ a := by
            obtain ⟨size, hsize⟩ := Int.eq_ofNat_of_zero_le (Int.neg_nonneg_of_nonpos ha)
            obtain rfl : a = -(size : Int) := by omega
            rw [zpow_neg, zpow_neg, zpow_natCast, zpow_natCast]
            exact inv_anti₀ (by positivity) (pow_le_pow_left₀ (by positivity) (by norm_num) size)
        _ = 2 ^ (93 * a) := by rw [zpow_mul]; norm_cast
        _ ≤ 2 ^ (28 * b) := Binary64.zpow_mono hdown
        _ = (2 ^ b) ^ 28 := by rw [mul_comm, zpow_mul]; norm_cast
    exact le_of_pow_le_pow_left₀ (by norm_num) (by positivity) hpow

theorem ten_zpow_le_lowest : (10 : ℚ) ^ (-400 : Int) ≤ 2 ^ (-1075 : Int) :=
  ten_zpow_le_two_zpow (by norm_num) (by norm_num)

theorem highest_le_ten_zpow : (2 : ℚ) ^ (1025 : Int) ≤ 10 ^ (400 : Int) := by
  have hinverse : (10 : ℚ) ^ (-400 : Int) ≤ 2 ^ (-1025 : Int) :=
    ten_zpow_le_two_zpow (by norm_num) (by norm_num)
  rw [zpow_neg, zpow_neg] at hinverse
  exact (inv_le_inv₀ (zpow_pos (by norm_num) _) (zpow_pos (by norm_num) _)).mp hinverse

/-- Small counts of places have values below all numbers of the format. -/
theorem le_places {d : Decimal} (h : 2 ^ (-1075 : Int) ≤ d.value) : -400 ≤ d.places := by
  by_contra hlt
  have hsmall : d.value < 2 ^ (-1075 : Int) :=
    calc d.value < 10 ^ d.places := value_lt_zpow_places d
      _ ≤ 10 ^ (-400 : Int) := (zpow_le_zpow_iff_right₀ (by norm_num)).mpr (by omega)
      _ ≤ 2 ^ (-1075 : Int) := ten_zpow_le_lowest
  exact absurd h (not_le.mpr hsmall)

/-- Large counts of places have values above all numbers of the format. -/
theorem places_le {d : Decimal} (hd : d.digits ≠ 0) (h : d.value < 2 ^ (1025 : Int)) :
    d.places ≤ 400 := by
  by_contra hlt
  have hlarge : 2 ^ (1025 : Int) ≤ d.value :=
    calc (2 : ℚ) ^ (1025 : Int) ≤ 10 ^ (400 : Int) := highest_le_ten_zpow
      _ ≤ 10 ^ (d.places - 1) := (zpow_le_zpow_iff_right₀ (by norm_num)).mpr (by omega)
      _ ≤ d.value := zpow_le_value hd
  exact absurd h (not_lt.mpr hlarge)

/-! ### Decimals close to a number of the format -/

/-- The numbers of the format that are not zero lie between two powers of two. -/
theorem magnitude_bounds {mantissa : Nat} {exponent : Int}
    (h : CanonicalForm mantissa exponent) (hmantissa : mantissa ≠ 0) :
    2 ^ (-1074 : Int) ≤ Binary64.magnitude mantissa exponent ∧
      Binary64.magnitude mantissa exponent < 2 ^ (1024 : Int) := by
  obtain ⟨hbound, hlowest, hhighest, -⟩ := h
  have hpow : (0 : ℚ) < 2 ^ exponent := zpow_pos two_pos exponent
  have hone : (1 : ℚ) ≤ mantissa := by exact_mod_cast Nat.pos_of_ne_zero hmantissa
  have hlt : (mantissa : ℚ) < 2 ^ (53 : Int) := by exact_mod_cast hbound
  unfold Binary64.magnitude
  constructor
  · calc (2 : ℚ) ^ (-1074 : Int) ≤ 2 ^ exponent := Binary64.zpow_mono hlowest
      _ ≤ mantissa * 2 ^ exponent := le_mul_of_one_le_left hpow.le hone
  · calc (mantissa : ℚ) * 2 ^ exponent < 2 ^ (53 : Int) * 2 ^ exponent := by gcongr
      _ = 2 ^ (53 + exponent) := (zpow_add₀ two_ne_zero _ _).symm
      _ ≤ 2 ^ (1024 : Int) := Binary64.zpow_mono (by omega)

/-- Whatever is close to a number of the format reads as it. -/
theorem toBinary64_of_near (negative : Bool) {mantissa : Nat} {exponent : Int}
    (h : CanonicalForm mantissa exponent) {d : Decimal}
    (hnear : 2 ^ 54 * |d.value - Binary64.magnitude mantissa exponent| <
      Binary64.magnitude mantissa exponent) :
    d.toBinary64 negative = .finite negative mantissa exponent h := by
  have hpositive : 0 < Binary64.magnitude mantissa exponent :=
    lt_of_le_of_lt (by positivity) hnear
  have hmantissa : mantissa ≠ 0 := by
    rintro rfl
    unfold Binary64.magnitude at hpositive
    rw [Nat.cast_zero, zero_mul] at hpositive
    exact lt_irrefl _ hpositive
  obtain ⟨hlow, hhigh⟩ := magnitude_bounds h hmantissa
  have habs := abs_lt.mp (show |d.value - Binary64.magnitude mantissa exponent| <
    Binary64.magnitude mantissa exponent / 2 by linarith)
  have hd : d.digits ≠ 0 := by
    intro hzero
    rw [(value_eq_zero_iff d).mpr hzero] at habs
    linarith
  -- The value is far from both ends of what is settled by the count of digits.
  have hplaces : -400 ≤ d.places := by
    apply le_places
    have hdouble : (2 : ℚ) ^ (-1074 : Int) = 2 ^ (-1075 : Int) * 2 := by
      rw [← zpow_add_one₀ two_ne_zero]
      norm_num
    rw [hdouble] at hlow
    linarith
  have hplaces' : d.places ≤ 400 := by
    apply places_le hd
    calc d.value < 2 * Binary64.magnitude mantissa exponent := by
          linarith only [habs.2, hpositive]
      _ < 2 * 2 ^ (1024 : Int) := by gcongr
      _ = 2 ^ (1025 : Int) := by
        rw [← zpow_one_add₀ two_ne_zero]
        norm_num
  unfold toBinary64 Binary64.ofDecimal
  unfold places at hplaces hplaces'
  dsimp only
  rw [if_neg (by omega), if_neg (by omega)]
  apply Binary64.ofRatio_of_near
  · exact (scaleDown_snd_pos (by norm_num) one_pos _ _).ne'
  · rwa [Prod.mk.eta, quotientOf_scaleDown_neg]

/-! ### The leading digit -/

theorem reaches_iff {num den : Nat} (hden : 0 < den) (place : Int) :
    reaches num den place = true ↔ 10 ^ place ≤ quotientOf (num, den) := by
  have hpos := scaleDown_snd_pos (by norm_num : 0 < 10) hden num place
  have hcast : (0 : ℚ) < (scaleDown 10 num den place).2 := Nat.cast_pos.mpr hpos
  have hscale := quotientOf_scaleDown (by norm_num : 0 < 10) num den place
  unfold quotientOf at hscale
  unfold reaches
  dsimp only
  rw [decide_eq_true_iff, ← Nat.cast_le (α := ℚ), ← one_le_div₀ hcast, hscale, Nat.cast_ofNat,
    one_le_div₀ (zpow_pos (by norm_num) _)]
  rfl

/-- A number is no less than the power of ten of its leading digit. -/
theorem zpow_leadingPlace_le {num den : Nat} (hnum : num ≠ 0) (hden : den ≠ 0)
    (hlow : -10000 ≤ (num.log2 : Int) - den.log2) (hhigh : (num.log2 : Int) - den.log2 ≤ 10000) :
    10 ^ leadingPlace num den ≤ quotientOf (num, den) := by
  have hpos := Nat.pos_of_ne_zero hden
  unfold leadingPlace
  dsimp only
  split
  · rename_i hreach
    exact (reaches_iff hpos _).mp hreach
  · split
    · rename_i hreach
      exact (reaches_iff hpos _).mp hreach
    · refine le_trans ?_ (Binary64.quotientOf_bounds hnum hden).1.le
      exact ten_zpow_le_two_zpow (by omega) (by omega)

/-! ### The shortest decimal -/

/-- Rounding at a place moves a quotient by half of its unit at most. -/
theorem value_roundAt (num : Nat) {den : Nat} (hden : 0 < den) (place : Int) :
    |(roundAt num den place).value - quotientOf (num, den)| ≤ 10 ^ place / 2 := by
  have hten : 0 < 10 := by norm_num
  have hpow : (0 : ℚ) < 10 ^ place := zpow_pos (by norm_num) place
  have hrounded := isRounding_roundHalfEven (scaleDown 10 num den place).1
    (scaleDown_snd_pos hten hden num place)
  rw [Prod.mk.eta, quotientOf_scaleDown hten, Nat.cast_ofNat] at hrounded
  have hscaled : (roundAt num den place).value - quotientOf (num, den) =
      ((roundAt num den place).digits - quotientOf (num, den) / 10 ^ place) * 10 ^ place := by
    rw [sub_mul, div_mul_cancel₀ _ hpow.ne']
    rfl
  calc |(roundAt num den place).value - quotientOf (num, den)|
      = |(roundAt num den place).digits - quotientOf (num, den) / 10 ^ place| * 10 ^ place := by
        rw [hscaled, abs_mul, abs_of_pos hpow]
    _ ≤ 1 / 2 * 10 ^ place := mul_le_mul_of_nonneg_right hrounded.1 hpow.le
    _ = 10 ^ place / 2 := by ring

/-- Zeros at the end of the digits count for nothing. -/
theorem value_trim (d : Decimal) : d.trim.value = d.value := by
  induction d using trim.induct with
  | case1 d h ih =>
    have hdigits : d.digits = d.digits / 10 * 10 := by omega
    rw [trim, dif_pos h, ih]
    unfold value
    rw [zpow_add_one₀ (by norm_num), mul_comm ((10 : ℚ) ^ d.exponent), ← mul_assoc]
    congr 1
    exact_mod_cast hdigits.symm
  | case2 d h =>
    rw [trim, dif_neg h]

section

variable {mantissa : Nat} {exponent : Int} {num den : Nat}

/-- The ratio of a number of the format is its magnitude. -/
theorem quotientOf_eq_magnitude (hpair : scaleDown 2 mantissa 1 (-exponent) = (num, den)) :
    quotientOf (num, den) = Binary64.magnitude mantissa exponent := by
  rw [← hpair, quotientOf_scaleDown Nat.two_pos, zpow_neg, div_inv_eq_mul]
  unfold quotientOf Binary64.magnitude
  norm_num

theorem denominator_ne_zero (hpair : scaleDown 2 mantissa 1 (-exponent) = (num, den)) :
    den ≠ 0 := by
  have hpos := scaleDown_snd_pos Nat.two_pos one_pos mantissa (-exponent)
  rw [hpair] at hpos
  exact hpos.ne'

theorem numerator_ne_zero (hpair : scaleDown 2 mantissa 1 (-exponent) = (num, den))
    (hmantissa : mantissa ≠ 0) : num ≠ 0 := by
  obtain ⟨rfl, -⟩ := Prod.mk.inj hpair
  exact Nat.mul_ne_zero hmantissa (Nat.pow_pos Nat.two_pos).ne'

/-- Seventeen digits suffice: what is rounded away from them is no more than half of what the last
of them stands for. -/
theorem near_roundTo (h : CanonicalForm mantissa exponent) (hmantissa : mantissa ≠ 0)
    (hpair : scaleDown 2 mantissa 1 (-exponent) = (num, den)) :
    2 ^ 54 * |(roundTo 16 num den).value - Binary64.magnitude mantissa exponent| <
      Binary64.magnitude mantissa exponent := by
  have hden := denominator_ne_zero hpair
  have hnum := numerator_ne_zero hpair hmantissa
  have hquotient := quotientOf_eq_magnitude hpair
  obtain ⟨hlow, hhigh⟩ := magnitude_bounds h hmantissa
  obtain ⟨hbelow, habove⟩ := Binary64.quotientOf_bounds hnum hden
  rw [hquotient] at hbelow habove
  have hlogLow := Binary64.lt_of_zpow_lt (lt_of_le_of_lt hlow habove)
  have hlogHigh := Binary64.lt_of_zpow_lt (lt_trans hbelow hhigh)
  have hlead := zpow_leadingPlace_le hnum hden (by omega) (by omega)
  have herror := value_roundAt num (Nat.pos_of_ne_zero hden) (leadingPlace num den - (16 : Nat))
  have hunit : (10 : ℚ) ^ (leadingPlace num den - (16 : Nat)) * 10 ^ 16 =
      10 ^ leadingPlace num den := by
    rw [← zpow_natCast, ← zpow_add₀ (by norm_num)]
    norm_num
  rw [hquotient] at hlead herror
  show 2 ^ 54 * |(roundAt num den (leadingPlace num den - (16 : Nat))).value - _| < _
  have hpositive : 0 < Binary64.magnitude mantissa exponent :=
    lt_of_lt_of_le (zpow_pos two_pos _) hlow
  -- What is left is linear in the error and in the unit of the seventeenth digit.
  generalize |(roundAt num den (leadingPlace num den - (16 : Nat))).value -
    Binary64.magnitude mantissa exponent| = error at herror ⊢
  rw [← hunit] at hlead
  generalize (10 : ℚ) ^ (leadingPlace num den - (16 : Nat)) = unit at hlead herror
  linarith only [hlead, herror, hpositive]

/-- The shortest decimal of a number of the format reads back as the number. -/
theorem toBinary64_shortest (negative : Bool) (h : CanonicalForm mantissa exponent)
    (hmantissa : mantissa ≠ 0) (hpair : scaleDown 2 mantissa 1 (-exponent) = (num, den)) :
    (shortest num den).toBinary64 negative = .finite negative mantissa exponent h := by
  have hden := denominator_ne_zero hpair
  have hpositive : 0 < Binary64.magnitude mantissa exponent :=
    lt_of_lt_of_le (zpow_pos two_pos _) (magnitude_bounds h hmantissa).1
  have htarget : Binary64.ofRatio false num den = .finite false mantissa exponent h := by
    apply Binary64.ofRatio_of_near false h hden
    rwa [quotientOf_eq_magnitude hpair, sub_self, abs_zero, mul_zero]
  -- Whatever is found reads back by the test that it was found with.
  have hfalse : (shortest num den).toBinary64 false = .finite false mantissa exponent h := by
    rw [shortest, toBinary64_congr false (value_trim _), htarget]
    cases hfound : (List.range 17).findSome? fun (count : Nat) =>
        (neighbours num den (leadingPlace num den - count)).find? fun d =>
          d.toBinary64 false = .finite false mantissa exponent h with
    | none => exact toBinary64_of_near false h (near_roundTo h hmantissa hpair)
    | some d =>
      obtain ⟨count, -, hfind⟩ := List.exists_of_findSome?_eq_some hfound
      have hmatch := List.find?_some hfind
      exact of_decide_eq_true hmatch
  cases negative with
  | false => exact hfalse
  | true =>
    rw [← neg_toBinary64, hfalse]
    rfl

end

end Decimal

end ContractDrill
