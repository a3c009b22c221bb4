import ContractDrill.Proofs.Number.Binary64

/-!
# Values, order and differences

`Binary64.value?` is the rational number that a finite number of the format stands for.  The order
is the order of the values (`lt_iff_of_value?`, `le_iff_of_value?`).

A number that stands for an exact result is *faithful* to it (`IsFaithful`) if no other number of
the format lies between them: whatever the exact result has reached is not above it, and whatever
the exact result has not passed is not below it.  `ofRatio` rounds faithfully
(`isFaithful_ofRatio`), and so do sum and difference (`isFaithful_add`, `isFaithful_sub`).

All values are multiples of the least positive one, so two that differ are at least that far apart
(`leastValue_le_sub`).
-/

namespace ContractDrill

namespace Binary64

/-! ### Values -/

/-- The value of a finite number. -/
def value? : Binary64 → Option ℚ
  | .finite negative mantissa exponent _ => some (signed negative mantissa * 2 ^ exponent)
  | _ => none

section

variable {x y : Binary64} {v w : ℚ}

/-- A number with a value is finite, and its value is that of its mantissa at its exponent. -/
theorem exists_eq_finite_of_value? (h : x.value? = some v) :
    ∃ negative mantissa exponent canonical,
      x = .finite negative mantissa exponent canonical ∧
        v = signed negative mantissa * 2 ^ exponent := by
  cases x with
  | finite negative mantissa exponent canonical =>
    exact ⟨negative, mantissa, exponent, canonical, rfl, (Option.some.inj h).symm⟩
  | infinity negative => cases h
  | nan => cases h

theorem exists_value?_of_isFinite (h : x.isFinite = true) : ∃ v, x.value? = some v := by
  cases x with
  | finite negative mantissa exponent canonical => exact ⟨_, rfl⟩
  | infinity negative => cases h
  | nan => cases h

@[simp] theorem value?_zero (negative : Bool) : (zero negative).value? = some 0 := by
  unfold zero value?
  cases negative <;> simp [signed]

theorem value?_neg (h : x.value? = some v) : (-x).value? = some (-v) := by
  obtain ⟨negative, mantissa, exponent, canonical, rfl, rfl⟩ := exists_eq_finite_of_value? h
  show some ((signed (!negative) mantissa : ℚ) * 2 ^ exponent) = _
  cases negative <;> simp [signed]

/-! ### Order -/

/-- A mantissa that is doubled on the way to a lower exponent keeps its value. -/
theorem doubled_mul_zpow (m : Int) {unit q : Int} (h : unit ≤ q) :
    (doubled m (q - unit).toNat : ℚ) * 2 ^ unit = m * 2 ^ q := by
  obtain ⟨k, hk⟩ := Int.eq_ofNat_of_zero_le (Int.sub_nonneg_of_le h)
  obtain rfl : q = unit + k := by omega
  rw [show (unit + k - unit).toNat = k by omega, zpow_add₀ two_ne_zero, zpow_natCast]
  unfold doubled
  push_cast [Nat.pow_eq]
  ring

/-- Two mantissas that are brought to the lower exponent keep their values. -/
theorem aligned_mul_zpow (m m' : Int) (q q' : Int) :
    ((aligned m m' q q').1 : ℚ) * 2 ^ min q q' = m * 2 ^ q ∧
      ((aligned m m' q q').2 : ℚ) * 2 ^ min q q' = m' * 2 ^ q' :=
  ⟨doubled_mul_zpow m (min_le_left q q'), doubled_mul_zpow m' (min_le_right q q')⟩

/-- The order is that of the values. -/
theorem lt_iff_of_value? (hx : x.value? = some v) (hy : y.value? = some w) : x < y ↔ v < w := by
  obtain ⟨s, m, q, hc, rfl, rfl⟩ := exists_eq_finite_of_value? hx
  obtain ⟨s', m', q', hc', rfl, rfl⟩ := exists_eq_finite_of_value? hy
  have hunit : (0 : ℚ) < 2 ^ min q q' := zpow_pos two_pos _
  obtain ⟨hfirst, hsecond⟩ := aligned_mul_zpow (signed s m) (signed s' m') q q'
  have hlt : (finite s m q hc < finite s' m' q' hc') ↔
      (aligned (signed s m) (signed s' m') q q').1 < (aligned (signed s m) (signed s' m') q q').2 :=
    decide_eq_true_iff
  rw [hlt, ← hfirst, ← hsecond, mul_lt_mul_iff_left₀ hunit, Int.cast_lt]

theorem le_iff_of_value? (hx : x.value? = some v) (hy : y.value? = some w) : x ≤ y ↔ v ≤ w := by
  obtain ⟨s, m, q, hc, rfl, -⟩ := exists_eq_finite_of_value? hx
  obtain ⟨s', m', q', hc', rfl, -⟩ := exists_eq_finite_of_value? hy
  have hle : (finite s m q hc ≤ finite s' m' q' hc') ↔
      ¬ (finite s' m' q' hc' < finite s m q hc) := by
    show (!lt _ _) = true ↔ ¬ lt _ _ = true
    rw [Bool.not_eq_true', Bool.not_eq_true]
  rw [hle, lt_iff_of_value? hy hx, not_lt]

/-- A positive number that is not finite is the infinity above all others. -/
theorem eq_infinity_of_pos (hpos : 0 < x) (h : ¬ x.isFinite = true) : x = infinity false := by
  cases x with
  | finite negative mantissa exponent canonical => exact absurd rfl h
  | infinity negative =>
    cases negative with
    | false => rfl
    | true => cases hpos
  | nan => cases hpos

theorem le_infinity (hx : x.value? = some v) : x ≤ infinity false := by
  obtain ⟨_, _, _, _, rfl, -⟩ := exists_eq_finite_of_value? hx
  rfl

theorem neg_infinity_le (hx : x.value? = some v) : infinity true ≤ x := by
  obtain ⟨_, _, _, _, rfl, -⟩ := exists_eq_finite_of_value? hx
  rfl

theorem not_infinity_le (hx : x.value? = some v) : ¬ infinity false ≤ x := by
  obtain ⟨_, _, _, _, rfl, -⟩ := exists_eq_finite_of_value? hx
  exact Bool.false_ne_true

theorem not_le_neg_infinity (hx : x.value? = some v) : ¬ x ≤ infinity true := by
  obtain ⟨_, _, _, _, rfl, -⟩ := exists_eq_finite_of_value? hx
  exact Bool.false_ne_true

/-- A number between two finite ones is finite. -/
theorem exists_value?_of_le_of_le {low high : Binary64} {a b : ℚ} (hlow : low.value? = some a)
    (hhigh : high.value? = some b) (hle : low ≤ x) (hle' : x ≤ high) :
    ∃ v, x.value? = some v ∧ a ≤ v ∧ v ≤ b := by
  cases x with
  | finite negative mantissa exponent canonical =>
    exact ⟨_, rfl, (le_iff_of_value? hlow rfl).mp hle, (le_iff_of_value? rfl hhigh).mp hle'⟩
  | infinity negative =>
    cases negative with
    | false => exact absurd hle' (not_infinity_le hhigh)
    | true => exact absurd hle (not_le_neg_infinity hlow)
  | nan =>
    obtain ⟨_, _, _, _, rfl, -⟩ := exists_eq_finite_of_value? hlow
    cases hle

/-! ### The least positive number -/

/-- The least positive number of the format. -/
def least : Binary64 := .finite false 1 (-1074) (by decide)

/-- The value of the least positive number. -/
def leastValue : ℚ := 2 ^ (-1074 : Int)

theorem leastValue_pos : 0 < leastValue := zpow_pos two_pos _

theorem value?_least : least.value? = some leastValue := by
  unfold least value? leastValue
  simp [signed]

theorem exists_mul_leastValue (h : x.value? = some v) : ∃ n : Int, v = n * leastValue := by
  obtain ⟨s, m, q, hc, rfl, rfl⟩ := exists_eq_finite_of_value? h
  exact ⟨_, (doubled_mul_zpow (signed s m) hc.2.1).symm⟩

/-- Two values that differ are at least the least positive one apart. -/
theorem leastValue_le_sub (hx : x.value? = some v) (hy : y.value? = some w) (h : w < v) :
    leastValue ≤ v - w := by
  obtain ⟨n, rfl⟩ := exists_mul_leastValue hx
  obtain ⟨k, rfl⟩ := exists_mul_leastValue hy
  have hlt : k < n := by exact_mod_cast lt_of_mul_lt_mul_right h leastValue_pos.le
  have hone : (1 : ℚ) ≤ n - k := by exact_mod_cast (by omega : 1 ≤ n - k)
  calc leastValue = 1 * leastValue := (one_mul _).symm
    _ ≤ (n - k) * leastValue := mul_le_mul_of_nonneg_right hone leastValue_pos.le
    _ = n * leastValue - k * leastValue := sub_mul _ _ _

end

/-! ### Faithful numbers -/

/-- No number of the format lies between the number and the exact result. -/
structure IsFaithful (x : Binary64) (v : ℚ) : Prop where
  le_of_reached : ∀ {d : Binary64} {w : ℚ}, d.value? = some w → w ≤ v → d ≤ x
  le_of_notPassed : ∀ {d : Binary64} {w : ℚ}, d.value? = some w → v ≤ w → x ≤ d

section

variable {x y : Binary64} {v w : ℚ}

theorem isFaithful_of_value? (h : x.value? = some v) : x.IsFaithful v where
  le_of_reached hd := (le_iff_of_value? hd h).mpr
  le_of_notPassed hd := (le_iff_of_value? h hd).mpr

/-- What is faithful to a value of the format has that value. -/
theorem IsFaithful.value?_eq (hx : x.IsFaithful v) (hy : y.value? = some v) :
    x.value? = some v := by
  obtain ⟨u, hu, hle, hle'⟩ := exists_value?_of_le_of_le hy hy (hx.le_of_reached hy le_rfl)
    (hx.le_of_notPassed hy le_rfl)
  rw [hu, le_antisymm hle' hle]

/-- What is faithful to a number is faithful to what that number is faithful to. -/
theorem IsFaithful.trans (hx : x.value? = some w) (hy : y.IsFaithful w) (hv : x.IsFaithful v) :
    y.IsFaithful v where
  le_of_reached hd hle :=
    hy.le_of_reached hd ((le_iff_of_value? hd hx).mp (hv.le_of_reached hd hle))
  le_of_notPassed hd hle :=
    hy.le_of_notPassed hd ((le_iff_of_value? hx hd).mp (hv.le_of_notPassed hd hle))

/-- Above all finite numbers the infinity is faithful. -/
theorem isFaithful_infinity (h : ∀ {d : Binary64} {w : ℚ}, d.value? = some w → w < v) :
    (infinity false).IsFaithful v where
  le_of_reached hd _ := le_infinity hd
  le_of_notPassed hd hle := absurd hle (not_le.mpr (h hd))

theorem IsFaithful.neg (hx : x.IsFaithful v) : (-x).IsFaithful (-v) := by
  -- Negation turns the order round, at the infinities too, and no finite number is compared with
  -- `nan`.
  have hswap {y : Binary64} {d : Binary64} {w : ℚ} (hd : d.value? = some w) :
      (d ≤ -y ↔ y ≤ -d) ∧ (-y ≤ d ↔ -d ≤ y) := by
    have hd' := value?_neg hd
    cases y with
    | finite s m q hc =>
      have hy' := value?_neg (x := finite s m q hc) rfl
      rw [le_iff_of_value? hd hy', le_iff_of_value? rfl hd', le_iff_of_value? hy' hd,
        le_iff_of_value? hd' rfl]
      exact ⟨le_neg, neg_le⟩
    | infinity negative =>
      cases negative with
      | false =>
        exact ⟨iff_of_false (not_le_neg_infinity hd) (not_infinity_le hd'),
          iff_of_true (neg_infinity_le hd) (le_infinity hd')⟩
      | true =>
        exact ⟨iff_of_true (le_infinity hd) (neg_infinity_le hd'),
          iff_of_false (not_infinity_le hd) (not_le_neg_infinity hd')⟩
    | nan =>
      obtain ⟨_, _, _, _, rfl, -⟩ := exists_eq_finite_of_value? hd
      exact ⟨Iff.rfl, Iff.rfl⟩
  constructor
  · intro d w hd hle
    exact (hswap hd).1.mpr (hx.le_of_notPassed (value?_neg hd) (le_neg.mp hle))
  · intro d w hd hle
    exact (hswap hd).2.mpr (hx.le_of_reached (value?_neg hd) (neg_le.mp hle))

end

/-! ### Rounding is faithful -/

theorem signed_lt (negative : Bool) {mantissa : Nat} (h : mantissa < mantissaBound) :
    (signed negative mantissa : ℚ) < 2 ^ (53 : Int) := by
  have hcast : (mantissa : ℚ) < 2 ^ (53 : Int) := by exact_mod_cast h
  have hnonneg : (0 : ℚ) ≤ mantissa := Nat.cast_nonneg mantissa
  unfold signed
  split
  · push_cast
    linarith
  · exact hcast

theorem le_of_isRounding {r M : Nat} {u : ℚ} (hr : IsRounding r u) (h : M ≤ u) : M ≤ r := by
  have hnear := abs_le.mp hr.1
  have hlt : (M : ℚ) < r + 1 := by linarith
  exact Nat.lt_succ_iff.mp (by exact_mod_cast hlt)

theorem le_of_isRounding' {r M : Nat} {u : ℚ} (hr : IsRounding r u) (h : u ≤ M) : r ≤ M := by
  have hnear := abs_le.mp hr.1
  have hlt : (r : ℚ) < M + 1 := by linarith
  exact Nat.lt_succ_iff.mp (by exact_mod_cast hlt)

section

variable {v : ℚ} {place : Int} {rounded : Nat} {d : Binary64} {w : ℚ}

/-- A value of the format is a multiple of the last place of `v`, or below all that have this last
place. -/
theorem exists_mul_or_lt_of_isLastPlace (hplace : IsLastPlace v place) (hd : d.value? = some w)
    (hw : 0 ≤ w) :
    (∃ M : Nat, w = M * 2 ^ place) ∨ 2 ^ (place + 52) ≤ v ∧ w < 2 ^ (place + 52) := by
  obtain ⟨s, m, q, ⟨hbound, hlowest, -⟩, rfl, rfl⟩ := exists_eq_finite_of_value? hd
  have hpow : (0 : ℚ) < 2 ^ q := zpow_pos two_pos q
  rcases le_or_gt place q with hle | hlt
  · have hmultiple := doubled_mul_zpow (signed s m) hle
    have hnonneg : 0 ≤ doubled (signed s m) (q - place).toNat := by
      have hpow' : (0 : ℚ) < 2 ^ place := zpow_pos two_pos place
      rw [← hmultiple] at hw
      exact_mod_cast nonneg_of_mul_nonneg_left hw hpow'
    refine Or.inl ⟨(doubled (signed s m) (q - place).toNat).toNat, ?_⟩
    rw [← hmultiple]
    congr 1
    exact_mod_cast (Int.toNat_of_nonneg hnonneg).symm
  -- A number with digits below the last place has too few of them to come as high.
  · have hfull := hplace.full.resolve_left (by omega)
    refine Or.inr ⟨hfull, ?_⟩
    calc (signed s m : ℚ) * 2 ^ q < 2 ^ (53 : Int) * 2 ^ q :=
          mul_lt_mul_of_pos_right (signed_lt s hbound) hpow
      _ = 2 ^ (53 + q) := (zpow_add₀ two_ne_zero _ _).symm
      _ ≤ 2 ^ (place + 52) := zpow_mono (by omega)

/-- Rounding at the last place does not pass a value of the format. -/
theorem le_rounded (hplace : IsLastPlace v place) (hrounded : IsRounding rounded (v / 2 ^ place))
    (hd : d.value? = some w) (h : w ≤ v) : w ≤ rounded * 2 ^ place := by
  have hpow : (0 : ℚ) < 2 ^ place := zpow_pos two_pos place
  rcases lt_or_ge w 0 with hneg | hw
  · exact hneg.le.trans (by positivity)
  · rcases exists_mul_or_lt_of_isLastPlace hplace hd hw with ⟨M, rfl⟩ | ⟨hfull, hbelow⟩
    · refine mul_le_mul_of_nonneg_right ?_ hpow.le
      exact_mod_cast le_of_isRounding hrounded ((le_div_iff₀ hpow).mpr h)
    · have hleast : leastFullMantissa ≤ rounded := by
        refine le_of_isRounding hrounded ((le_div_iff₀ hpow).mpr ?_)
        rw [zpow_add₀ two_ne_zero, mul_comm] at hfull
        exact_mod_cast hfull
      calc w ≤ 2 ^ (place + 52) := hbelow.le
        _ = (leastFullMantissa : Nat) * 2 ^ place := by
          rw [zpow_add₀ two_ne_zero, mul_comm]
          norm_num
        _ ≤ rounded * 2 ^ place := mul_le_mul_of_nonneg_right (by exact_mod_cast hleast) hpow.le

/-- A number that the quotient has not passed is not passed by its rounding. -/
theorem rounded_le (hplace : IsLastPlace v place) (hrounded : IsRounding rounded (v / 2 ^ place))
    (hv : 0 ≤ v) (hd : d.value? = some w) (h : v ≤ w) : rounded * 2 ^ place ≤ w := by
  have hpow : (0 : ℚ) < 2 ^ place := zpow_pos two_pos place
  rcases exists_mul_or_lt_of_isLastPlace hplace hd (hv.trans h) with ⟨M, rfl⟩ | ⟨hfull, hbelow⟩
  · refine mul_le_mul_of_nonneg_right ?_ hpow.le
    exact_mod_cast le_of_isRounding' hrounded ((div_le_iff₀ hpow).mpr h)
  · exact absurd (hfull.trans h) (not_le.mpr hbelow)

/-- All values lie below the first power of two that the format does not hold. -/
theorem value_lt (hd : d.value? = some w) : w < 2 ^ (1024 : Int) := by
  obtain ⟨s, m, q, ⟨hbound, -, hhighest, -⟩, rfl, rfl⟩ := exists_eq_finite_of_value? hd
  have hpow : (0 : ℚ) < 2 ^ q := zpow_pos two_pos q
  calc (signed s m : ℚ) * 2 ^ q < 2 ^ (53 : Int) * 2 ^ q :=
        mul_lt_mul_of_pos_right (signed_lt s hbound) hpow
    _ = 2 ^ (53 + q) := (zpow_add₀ two_ne_zero _ _).symm
    _ ≤ 2 ^ (1024 : Int) := zpow_mono (by omega)

/-- A rounded mantissa keeps its value, unless that is beyond the format. -/
theorem value?_ofRounded (hlowest : -1074 ≤ place) (hbound : rounded ≤ mantissaBound)
    (hfull : place = -1074 ∨ leastFullMantissa ≤ rounded) :
    (ofRounded false rounded place).value? = some ((rounded : ℚ) * 2 ^ place) ∨
      ofRounded false rounded place = .infinity false ∧
        (2 : ℚ) ^ (1024 : Int) ≤ rounded * 2 ^ place := by
  -- A mantissa at its bound is carried into the next place, at which the number may be too great.
  rcases hbound.eq_or_lt with rfl | hlt
  · have hcarry : ((mantissaBound : Nat) : ℚ) * 2 ^ place =
        (leastFullMantissa : Nat) * 2 ^ (place + 1) := by
      rw [zpow_add₀ two_ne_zero]
      norm_num
      ring
    unfold ofRounded
    rw [if_pos rfl]
    dsimp only
    split
    · refine Or.inl ?_
      rw [hcarry]
      rfl
    · rename_i hform
      have hhigh : 972 ≤ place + 1 := by
        by_contra hhigh
        exact hform ⟨by decide, by omega, by omega, Or.inl le_rfl⟩
      refine Or.inr ⟨rfl, ?_⟩
      rw [hcarry]
      calc (2 : ℚ) ^ (1024 : Int) ≤ 2 ^ (52 + (place + 1)) := zpow_mono (by omega)
        _ = (leastFullMantissa : Nat) * 2 ^ (place + 1) := by
          rw [zpow_add₀ two_ne_zero]
          norm_num
  · unfold ofRounded
    rw [if_neg hlt.ne]
    dsimp only
    split
    · exact Or.inl rfl
    · rename_i hform
      have hhigh : 972 ≤ place := by
        by_contra hhigh
        exact hform ⟨hlt, hlowest, by omega, hfull.symm⟩
      have hleast : leastFullMantissa ≤ rounded := hfull.resolve_left (by omega)
      have hpow : (0 : ℚ) < 2 ^ place := zpow_pos two_pos place
      refine Or.inr ⟨rfl, ?_⟩
      calc (2 : ℚ) ^ (1024 : Int) ≤ 2 ^ (52 + place) := zpow_mono (by omega)
        _ = (leastFullMantissa : Nat) * 2 ^ place := by
          rw [zpow_add₀ two_ne_zero]
          norm_num
        _ ≤ rounded * 2 ^ place := mul_le_mul_of_nonneg_right (by exact_mod_cast hleast) hpow.le

end

/-- A ratio without a sign is rounded faithfully. -/
theorem isFaithful_ofRatio_false (num : Nat) {den : Nat} (hden : den ≠ 0) :
    (ofRatio false num den).IsFaithful (quotientOf (num, den)) := by
  by_cases hnum : num = 0
  · rw [(quotientOf_eq_zero_iff hden).mpr hnum, hnum]
    exact isFaithful_of_value? (value?_zero false)
  have hplace := isLastPlace_lastPlace hnum hden
  generalize lastPlace num den = place at hplace
  have hv : 0 ≤ quotientOf (num, den) := by
    unfold quotientOf
    positivity
  have hpow : (0 : ℚ) < 2 ^ place := zpow_pos two_pos place
  obtain ⟨rounded, hrounded⟩ :
      ∃ rounded, IsRounding rounded (quotientOf (num, den) / 2 ^ place) := by
    have hround := isRounding_roundHalfEven (scaleDown 2 num den place).1
      (scaleDown_snd_pos Nat.two_pos (Nat.pos_of_ne_zero hden) num place)
    rw [Prod.mk.eta, quotientOf_scaleDown Nat.two_pos, Nat.cast_two] at hround
    exact ⟨_, hround⟩
  rw [ofRatio_eq false hnum hden hplace hrounded]
  have hbound : rounded ≤ mantissaBound := by
    refine le_of_isRounding' hrounded ((div_le_iff₀ hpow).mpr ?_)
    have hlt := hplace.lt_bound.le
    rw [zpow_add₀ two_ne_zero, mul_comm] at hlt
    exact_mod_cast hlt
  have hfull : place = -1074 ∨ leastFullMantissa ≤ rounded := by
    refine hplace.full.imp_right fun hle => le_of_isRounding hrounded ((le_div_iff₀ hpow).mpr ?_)
    rw [zpow_add₀ two_ne_zero, mul_comm] at hle
    exact_mod_cast hle
  -- The rounding is a number of the format, or it is beyond the greatest one.
  rcases value?_ofRounded hplace.lowest_le hbound hfull with hvalue | ⟨hinfinity, hbeyond⟩
  · exact ⟨fun hd hle => (le_iff_of_value? hd hvalue).mpr (le_rounded hplace hrounded hd hle),
      fun hd hle => (le_iff_of_value? hvalue hd).mpr (rounded_le hplace hrounded hv hd hle)⟩
  · rw [hinfinity]
    refine isFaithful_infinity fun {d w} hd => not_le.mp fun hle => ?_
    have hbelow := rounded_le hplace hrounded hv hd hle
    exact absurd (hbeyond.trans hbelow) (not_le.mpr (value_lt hd))

/-- Rounding a quotient to the format is faithful to it. -/
theorem isFaithful_ofRatio (negative : Bool) (num : Nat) {den : Nat} (hden : den ≠ 0) :
    (ofRatio negative num den).IsFaithful
      (if negative then -quotientOf (num, den) else quotientOf (num, den)) := by
  have hround := isFaithful_ofRatio_false num hden
  cases negative with
  | false => exact hround
  | true =>
    rw [← neg_ofRatio]
    exact hround.neg

/-- The number of the format nearest to a rational number. -/
def nearest (v : ℚ) : Binary64 :=
  ofRatio (decide (v < 0)) v.num.natAbs v.den

/-- The number nearest to a rational one is faithful to it. -/
theorem isFaithful_nearest (v : ℚ) : (nearest v).IsFaithful v := by
  have hround := isFaithful_ofRatio (decide (v < 0)) v.num.natAbs v.den_ne_zero
  have habs : quotientOf (v.num.natAbs, v.den) = |v| := by
    unfold quotientOf
    calc (v.num.natAbs : ℚ) / v.den = |(v.num : ℚ) / v.den| := by
          rw [Nat.cast_natAbs, Int.cast_abs, abs_div, Nat.abs_cast]
      _ = |v| := by rw [Rat.num_div_den]
  rw [habs] at hround
  by_cases hneg : v < 0
  · rwa [if_pos (decide_eq_true hneg), abs_of_neg hneg, neg_neg] at hround
  · rwa [if_neg (by simpa using hneg), abs_of_nonneg (not_lt.mp hneg)] at hround

section

variable {x y : Binary64} {v w : ℚ}

/-- A sum is faithful to the exact one. -/
theorem isFaithful_add (hx : x.value? = some v) (hy : y.value? = some w) :
    (x + y).IsFaithful (v + w) := by
  obtain ⟨s, m, q, hc, rfl, rfl⟩ := exists_eq_finite_of_value? hx
  obtain ⟨s', m', q', hc', rfl, rfl⟩ := exists_eq_finite_of_value? hy
  obtain ⟨hfirst, hsecond⟩ := aligned_mul_zpow (signed s m) (signed s' m') q q'
  have hsum : (finite s m q hc + finite s' m' q' hc') =
      let sum := (aligned (signed s m) (signed s' m') q q').1 +
        (aligned (signed s m) (signed s' m') q q').2
      if sum = 0 then zero (s && s')
      else ofRatio (decide (sum < 0)) (scaleDown 2 sum.natAbs 1 (-min q q')).1
        (scaleDown 2 sum.natAbs 1 (-min q q')).2 := rfl
  rw [hsum, ← hfirst, ← hsecond, ← add_mul, ← Int.cast_add]
  dsimp only
  generalize (aligned (signed s m) (signed s' m') q q').1 +
    (aligned (signed s m) (signed s' m') q q').2 = sum
  -- A sum that is zero is exact, and any other one is rounded once.
  split
  · rename_i hzero
    rw [hzero, Int.cast_zero, zero_mul]
    exact isFaithful_of_value? (value?_zero _)
  · have hround := isFaithful_ofRatio (decide (sum < 0)) (scaleDown 2 sum.natAbs 1 (-min q q')).1
      (scaleDown_snd_pos Nat.two_pos Nat.one_pos sum.natAbs (-min q q')).ne'
    have hquotient : quotientOf (scaleDown 2 sum.natAbs 1 (-min q q')) =
        sum.natAbs * 2 ^ min q q' := by
      rw [quotientOf_scaleDown Nat.two_pos, Nat.cast_two, zpow_neg, div_inv_eq_mul]
      unfold quotientOf
      rw [Nat.cast_one, div_one]
    rw [Prod.mk.eta, hquotient] at hround
    have hsigned : (sum : ℚ) * 2 ^ min q q' =
        if decide (sum < 0) = true then -((sum.natAbs : ℚ) * 2 ^ min q q')
        else (sum.natAbs : ℚ) * 2 ^ min q q' := by
      rw [Nat.cast_natAbs]
      by_cases hneg : sum < 0
      · rw [if_pos (decide_eq_true hneg), abs_of_neg hneg, Int.cast_neg, neg_mul, neg_neg]
      · rw [if_neg (by simpa using hneg), abs_of_nonneg (not_lt.mp hneg)]
    rw [hsigned]
    exact hround

/-- A difference is faithful to the exact one. -/
theorem isFaithful_sub (hx : x.value? = some v) (hy : y.value? = some w) :
    (x - y).IsFaithful (v - w) := by
  rw [sub_eq_add_neg]
  exact isFaithful_add hx (value?_neg hy)

end

end Binary64

end ContractDrill
