/-!
# Double-precision numbers

A `Binary64` is a number of the 64-bit binary format as a value of the logic: a finite number in
canonical form, an infinity, or not-a-number.  Each value has exactly one representation, so
equality of values is equality of terms, and `nan` equals itself; the numeric comparison, for
which it does not, is `<` and `≤`.

Every operation is the exact one followed by `ofRatio`, which rounds a quotient of naturals to the
nearest number of the format, a half going to the even mantissa.  `roundHalfEven` is the only
rounding of the library: decimal texts are read with it (`Binary64.ofRatio`) and written with it
(`Decimal.roundTo`).
-/

namespace ContractDrill

/-! ### Rounding a quotient -/

/-- The integer nearest to `num / den`; of two equally near ones the even one. -/
def roundHalfEven (num den : Nat) : Nat :=
  let quotient := num / den
  let twice := 2 * (num % den)
  if den < twice then quotient + 1
  else if twice < den then quotient
  else if quotient % 2 = 0 then quotient
  else quotient + 1

/-- The numerator and denominator of `(num / den) / base ^ e`, for an exponent of either sign. -/
def scaleDown (base num den : Nat) (e : Int) : Nat × Nat :=
  (num * Nat.pow base (-e).toNat, den * Nat.pow base e.toNat)

/-! ### The format -/

/-- The first natural number beyond the mantissas of the format: `2 ^ 53`. -/
abbrev mantissaBound : Nat := 0x20000000000000

/-- The least mantissa that needs all 53 bits: `2 ^ 52`. -/
abbrev leastFullMantissa : Nat := 0x10000000000000

/-- The mantissa and exponent of a finite number in canonical form: the exponent is the least that
keeps the mantissa below `2 ^ 53`, and no less than `-1074`. -/
def CanonicalForm (mantissa : Nat) (exponent : Int) : Prop :=
  mantissa < mantissaBound ∧ -1074 ≤ exponent ∧ exponent ≤ 971 ∧
    (leastFullMantissa ≤ mantissa ∨ exponent = -1074)

instance (mantissa : Nat) (exponent : Int) : Decidable (CanonicalForm mantissa exponent) :=
  inferInstanceAs (Decidable (_ ∧ _ ∧ _ ∧ (_ ∨ _)))

/-- A double-precision number.  `finite s m q _` is `m * 2 ^ q`, negated if `s` holds; both zeros
have mantissa `0`. -/
inductive Binary64 where
  | finite (negative : Bool) (mantissa : Nat) (exponent : Int)
      (canonical : CanonicalForm mantissa exponent)
  | infinity (negative : Bool)
  | nan
  deriving DecidableEq

namespace Binary64

/-- The zero with the given sign. -/
def zero (negative : Bool) : Binary64 :=
  .finite negative 0 (-1074) (by decide)

instance : Inhabited Binary64 := ⟨zero false⟩

/-! ### Rounding to the format -/

/-- The exponent of the last place of `num / den`, when that is not `0`: the least for which the
mantissa stays below `2 ^ 53`, but no less than `-1074`. -/
def lastPlace (num den : Nat) : Int :=
  -- The logarithms tell the exponent up to one.
  let low : Int := max ((num.log2 : Int) - den.log2 - 53) (-1074)
  let (n, d) := scaleDown 2 num den low
  if mantissaBound ≤ n / d then low + 1 else low

/-- The number of the format nearest to `num / den`, negated if `negative` holds.  From half a unit
beyond the largest finite number on it is the infinity. -/
def ofRatio (negative : Bool) (num den : Nat) : Binary64 :=
  if num = 0 then zero negative
  else
    let place := lastPlace num den
    let (n, d) := scaleDown 2 num den place
    let rounded := roundHalfEven n d
    -- Rounding up can reach the next power of two, which has a full mantissa one place higher.
    let (mantissa, exponent) :=
      if rounded = mantissaBound then (leastFullMantissa, place + 1) else (rounded, place)
    if h : CanonicalForm mantissa exponent then .finite negative mantissa exponent h
    else .infinity negative

/-- The number nearest to an integer. -/
def ofInt (n : Int) : Binary64 :=
  ofRatio (decide (n < 0)) n.natAbs 1

/-- The number nearest to `digits * 10 ^ exponent`, negated if `negative` holds.  A magnitude that
lies far outside the format is settled by its count of digits alone. -/
def ofDecimal (negative : Bool) (digits : Nat) (exponent : Int) : Binary64 :=
  let places : Int := (Nat.toDigits 10 digits).length + exponent
  if digits = 0 ∨ places < -400 then zero negative
  else if 400 < places then .infinity negative
  else
    let (num, den) := scaleDown 10 digits 1 (-exponent)
    ofRatio negative num den

/-! ### Parts -/

/-- Whether the number carries a minus sign, the negative zero included. -/
def isNegative : Binary64 → Bool
  | .finite negative _ _ _ => negative
  | .infinity negative => negative
  | .nan => false

/-- The magnitude of a finite number as a quotient of naturals. -/
def ratio : Binary64 → Option (Nat × Nat)
  | .finite _ mantissa exponent _ => some (scaleDown 2 mantissa 1 (-exponent))
  | _ => none

/-- `mantissa`, negated if `negative` holds. -/
def signed (negative : Bool) (mantissa : Nat) : Int :=
  if negative then -mantissa else mantissa

/-- The integer part of a finite number: what lies behind the point is dropped. -/
def truncate? (x : Binary64) : Option Int :=
  x.ratio.map fun (num, den) => signed x.isNegative (num / den)

/-- The integer that a finite number equals, if it equals one. -/
def toInt? (x : Binary64) : Option Int :=
  match x.ratio with
  | some (num, den) => if num % den = 0 then some (signed x.isNegative (num / den)) else none
  | none => none

/-- Whether the number is finite. -/
def isFinite : Binary64 → Bool
  | .finite .. => true
  | _ => false

/-! ### Order -/

/-- The integer `m * 2 ^ size`. -/
def doubled (m : Int) (size : Nat) : Int :=
  m * (Nat.pow 2 size : Nat)

/-- The finite numbers `m * 2 ^ q` and `m' * 2 ^ q'` as integers in a common unit. -/
def aligned (m m' : Int) (q q' : Int) : Int × Int :=
  let unit := min q q'
  (doubled m (q - unit).toNat, doubled m' (q' - unit).toNat)

/-- Numeric `<`; it fails whenever an operand is `nan`. -/
def lt : Binary64 → Binary64 → Bool
  | .nan, _ => false
  | _, .nan => false
  | .infinity negative, .infinity negative' => negative && !negative'
  | .infinity negative, .finite .. => negative
  | .finite .., .infinity negative => !negative
  | .finite s m q _, .finite s' m' q' _ =>
    let (a, b) := aligned (signed s m) (signed s' m') q q'
    decide (a < b)

/-- Numeric `≤`; it fails whenever an operand is `nan`. -/
def le : Binary64 → Binary64 → Bool
  | .nan, _ => false
  | _, .nan => false
  | x, y => !lt y x

instance : LT Binary64 := ⟨fun x y => lt x y = true⟩

instance : LE Binary64 := ⟨fun x y => le x y = true⟩

instance (x y : Binary64) : Decidable (x < y) := inferInstanceAs (Decidable (lt x y = true))

instance (x y : Binary64) : Decidable (x ≤ y) := inferInstanceAs (Decidable (le x y = true))

instance : OfNat Binary64 0 := ⟨zero false⟩

/-! ### Sum and difference -/

/-- The number with the opposite sign. -/
def neg : Binary64 → Binary64
  | .finite negative mantissa exponent h => .finite (!negative) mantissa exponent h
  | .infinity negative => .infinity (!negative)
  | .nan => .nan

/-- The sum, rounded once.  An exact sum of `0` is the negative zero only for two negative
zeros. -/
def add : Binary64 → Binary64 → Binary64
  | .nan, _ => .nan
  | _, .nan => .nan
  | .infinity negative, .infinity negative' =>
    if negative = negative' then .infinity negative else .nan
  | .infinity negative, .finite .. => .infinity negative
  | .finite .., .infinity negative => .infinity negative
  | .finite s m q _, .finite s' m' q' _ =>
    let (a, b) := aligned (signed s m) (signed s' m') q q'
    let sum := a + b
    if sum = 0 then zero (s && s')
    else
      let (num, den) := scaleDown 2 sum.natAbs 1 (-min q q')
      ofRatio (decide (sum < 0)) num den

instance : Neg Binary64 := ⟨neg⟩

instance : Add Binary64 := ⟨add⟩

instance : Sub Binary64 := ⟨fun x y => x + -y⟩

end Binary64

end ContractDrill
