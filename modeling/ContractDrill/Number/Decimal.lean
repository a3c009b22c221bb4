import ContractDrill.Number.Binary64

/-!
# Decimal forms of a double-precision number

A `Decimal` is `digits * 10 ^ exponent`.  A positive quotient has two decimal forms here:
`Decimal.roundTo count`, which keeps a given count of digits, and `Decimal.shortest`, which keeps
the fewest digits that read back as the same `Binary64`, and of those the nearest.
-/

namespace ContractDrill

/-- The number `digits * 10 ^ exponent`. -/
structure Decimal where
  digits : Nat
  exponent : Int
  deriving DecidableEq, Inhabited

namespace Decimal

/-- The number of the double-precision format nearest to a decimal. -/
def toBinary64 (negative : Bool) (d : Decimal) : Binary64 :=
  Binary64.ofDecimal negative d.digits d.exponent

/-- The same number without zeros at the end of its digits. -/
def trim (d : Decimal) : Decimal :=
  if h : d.digits ≠ 0 ∧ d.digits % 10 = 0 then
    trim ⟨d.digits / 10, d.exponent + 1⟩
  else d
termination_by d.digits
decreasing_by omega

/-- Whether `10 ^ place ≤ num / den`. -/
def reaches (num den : Nat) (place : Int) : Bool :=
  let (n, d) := scaleDown 10 num den place
  decide (d ≤ n)

/-- The exponent of the leading decimal digit of `num / den`, for the positive quotients that
double-precision numbers have.  The binary logarithms leave three candidates. -/
def leadingPlace (num den : Nat) : Int :=
  -- 0.30103 is the decimal logarithm of 2, to five digits.
  let guess : Int := ((num.log2 : Int) - den.log2) * 30103 / 100000
  if reaches num den (guess + 1) then guess + 1
  else if reaches num den guess then guess
  else guess - 1

/-- The decimal nearest to `num / den` whose last digit stands for `10 ^ place`; of two equally
near ones the one with the even last digit. -/
def roundAt (num den : Nat) (place : Int) : Decimal :=
  let (n, d) := scaleDown 10 num den place
  ⟨roundHalfEven n d, place⟩

/-- The decimal nearest to `num / den` among those with `count + 1` digits. -/
def roundTo (count : Nat) (num den : Nat) : Decimal :=
  roundAt num den (leadingPlace num den - count)

/-- The two decimals around `num / den` whose last digit stands for `10 ^ place`, the nearer one
first. -/
def neighbours (num den : Nat) (place : Int) : List Decimal :=
  let (n, d) := scaleDown 10 num den place
  let near := roundHalfEven n d
  let far := if near = n / d then n / d + 1 else n / d
  [⟨near, place⟩, ⟨far, place⟩]

/-- The decimal with the fewest digits that reads back as the double-precision number nearest to
`num / den`, and of those the nearest to it.  Seventeen digits always suffice. -/
def shortest (num den : Nat) : Decimal :=
  let target := Binary64.ofRatio false num den
  let lead := leadingPlace num den
  let found := (List.range 17).findSome? fun (count : Nat) =>
    (neighbours num den (lead - count)).find? fun d => d.toBinary64 false = target
  (found.getD (roundTo 16 num den)).trim

end Decimal

end ContractDrill
