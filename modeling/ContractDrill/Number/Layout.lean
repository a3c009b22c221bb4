import ContractDrill.Number.Decimal

/-!
# Texts of double-precision numbers

A `NumberLayout` says how a decimal is set: from which magnitudes it is written with an exponent,
whether a whole number keeps a point, and how the values that are not finite are spelled.  The
library writes numbers in four ways:

* `Binary64.literal`, the shortest text that reads back, as a JSON text spells it;
* `Binary64.plain`, the same for a reader of logs;
* `Binary64.compact`, six significant digits;
* `Binary64.fixed1`, one digit behind the point.
-/

namespace ContractDrill

/-- How a decimal is set.  A number whose leading digit stands for `10 ^ k` is written without an
exponent if `firstPositional ≤ k < firstScientific`. -/
structure NumberLayout where
  firstPositional : Int
  firstScientific : Int
  /-- Whether a whole number written without an exponent ends in `.0`. -/
  keepsPoint : Bool
  infinityText : String
  nanText : String

namespace NumberLayout

/-- Digits, a point and more digits for a number whose leading digit stands for `10 ^ lead`. -/
def positional (layout : NumberLayout) (digits : List Char) (lead : Int) : List Char :=
  if lead < 0 then
    '0' :: '.' :: List.replicate (-lead - 1).toNat '0' ++ digits
  else
    let size := lead.toNat + 1
    let whole := digits.take size ++ List.replicate (size - digits.length) '0'
    match digits.drop size with
    | [] => if layout.keepsPoint then whole ++ ['.', '0'] else whole
    | rest => whole ++ '.' :: rest

/-- The exponent of a number in scientific form: its sign and at least two digits. -/
def exponentPart (lead : Int) : List Char :=
  let digits := Nat.toDigits 10 lead.natAbs
  let sign := if lead < 0 then '-' else '+'
  'e' :: sign :: List.replicate (2 - digits.length) '0' ++ digits

/-- One digit, the other digits behind a point, and the exponent. -/
def scientific (digits : List Char) (lead : Int) : List Char :=
  match digits with
  | [] => exponentPart lead
  | [d] => d :: exponentPart lead
  | d :: rest => d :: '.' :: rest ++ exponentPart lead

/-- The text of a decimal, after a minus sign if `negative` holds. -/
def write (layout : NumberLayout) (negative : Bool) (d : Decimal) : String :=
  let digits := Nat.toDigits 10 d.digits
  let lead := d.exponent + digits.length - 1
  let body :=
    if layout.firstPositional ≤ lead ∧ lead < layout.firstScientific then
      layout.positional digits lead
    else scientific digits lead
  String.ofList (if negative then '-' :: body else body)

/-- The text of a number whose magnitude, if it is finite and not zero, is given in decimal by
`form`. -/
def writeWith (layout : NumberLayout) (form : Nat → Nat → Decimal) (x : Binary64) : String :=
  match x with
  | .nan => layout.nanText
  | .infinity negative => if negative then "-" ++ layout.infinityText else layout.infinityText
  | .finite negative mantissa exponent _ =>
    if mantissa = 0 then layout.write negative ⟨0, 0⟩
    else
      let (num, den) := scaleDown 2 mantissa 1 (-exponent)
      layout.write negative (form num den)

end NumberLayout

namespace Binary64

/-! ### The four texts -/

/-- JSON spells a number without an exponent from `10 ^ -4` up to `10 ^ 16`, with a point even if
it is whole. -/
def literalLayout : NumberLayout := ⟨-4, 16, true, "Infinity", "NaN"⟩

/-- Logs differ from JSON in the spelling of the values that are not finite. -/
def plainLayout : NumberLayout := ⟨-4, 16, true, "inf", "nan"⟩

/-- Six significant digits are written without an exponent up to `10 ^ 6`, and a whole number
without a point. -/
def compactLayout : NumberLayout := ⟨-4, 6, false, "inf", "nan"⟩

/-- The shortest text that reads back, as JSON spells it. -/
def literal (x : Binary64) : String :=
  literalLayout.writeWith Decimal.shortest x

/-- The shortest text that reads back, for a reader of logs. -/
def plain (x : Binary64) : String :=
  plainLayout.writeWith Decimal.shortest x

/-- Six significant digits without zeros at the end. -/
def compact (x : Binary64) : String :=
  compactLayout.writeWith (fun num den => (Decimal.roundTo 5 num den).trim) x

/-- One digit behind the point, the exact value rounded half to even. -/
def fixed1 (x : Binary64) : String :=
  match x with
  | .nan => plainLayout.nanText
  | .infinity negative => if negative then "-inf" else "inf"
  | .finite negative mantissa exponent _ =>
    let (num, den) := scaleDown 2 mantissa 1 (-exponent)
    let tenths := roundHalfEven (10 * num) den
    let body := Nat.toDigits 10 (tenths / 10) ++ '.' :: Nat.toDigits 10 (tenths % 10)
    String.ofList (if negative then '-' :: body else body)

end Binary64

end ContractDrill
