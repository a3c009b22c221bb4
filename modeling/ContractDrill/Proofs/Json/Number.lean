import ContractDrill.Proofs.Json.Scanning
import ContractDrill.Proofs.Number.Decimal

/-!
# Scanning numbers

A number is written as digits, with a point and more digits behind them or an exponent or both
(`numberText`).  Each number is read from its literal, integers (`comesTo_integerLiteral`) as well
as those of the double-precision format (`finds_literal`), if nothing stands behind it that would
make it longer (`EndsNumber`); only an integer can stop the reader, for its digits.

The writer of double-precision numbers moves the point and pads with zeros.  Whatever it writes, the
parts are those of a decimal of the same value (`Spells`), and that is all that the reader cares
about.
-/

namespace ContractDrill

namespace Json

/-! ### Parts of a number -/

/-- No number goes on with these characters. -/
def EndsNumber (rest : List Char) : Prop :=
  ∀ c ∈ rest.head?, c.isDigit = false ∧ c ≠ '.' ∧ c ≠ 'e' ∧ c ≠ 'E'

/-- No row of digits goes on with these characters. -/
def EndsDigits (rest : List Char) : Prop :=
  ∀ c ∈ rest.head?, c.isDigit = false

theorem EndsNumber.endsDigits {rest : List Char} (h : EndsNumber rest) : EndsDigits rest :=
  fun c hc => (h c hc).1

/-- The characters are digits, at least one. -/
structure IsDigits (digits : List Char) : Prop where
  ne_nil : digits ≠ []
  isDigit : ∀ c ∈ digits, c.isDigit = true

/-- The digits of a whole number: a zero alone, or digits that begin with another. -/
structure IsWhole (digits : List Char) : Prop extends IsDigits digits where
  leading : digits = ['0'] ∨ digits.head? ≠ some '0'

theorem isDigit_of_mem_zeros {count : Nat} {c : Char} (h : c ∈ List.replicate count '0') :
    c.isDigit = true := by
  rw [List.eq_of_mem_replicate h]
  rfl

theorem IsDigits.zeros_append {digits : List Char} (h : IsDigits digits) (count : Nat) :
    IsDigits (List.replicate count '0' ++ digits) := by
  refine ⟨by simp [h.ne_nil], fun c hc => ?_⟩
  rcases List.mem_append.mp hc with hzero | hdigit
  · exact isDigit_of_mem_zeros hzero
  · exact h.isDigit c hdigit

theorem IsDigits.append_zeros {digits : List Char} (h : IsDigits digits) (count : Nat) :
    IsDigits (digits ++ List.replicate count '0') := by
  refine ⟨by simp [h.ne_nil], fun c hc => ?_⟩
  rcases List.mem_append.mp hc with hdigit | hzero
  · exact h.isDigit c hdigit
  · exact isDigit_of_mem_zeros hzero

theorem isDigits_toDigits (n : Nat) : IsDigits (Nat.toDigits 10 n) :=
  ⟨Nat.toDigits_ne_nil, fun _ => isDigit_of_mem_toDigits⟩

theorem isWhole_toDigits (n : Nat) : IsWhole (Nat.toDigits 10 n) := by
  refine ⟨isDigits_toDigits n, ?_⟩
  by_cases hn : n = 0
  · subst hn
    exact .inl rfl
  · exact .inr (head?_toDigits_ne hn)

/-- The digits behind the point. -/
def fractionText : Option (List Char) → List Char
  | none => []
  | some digits => '.' :: digits

/-- The exponent. -/
def exponentText : Option Int → List Char
  | none => []
  | some exponent => NumberLayout.exponentPart exponent

/-- The text of a number without its sign. -/
def numberText (whole : List Char) (fraction : Option (List Char)) (exponent : Option Int) :
    List Char :=
  whole ++ (fractionText fraction ++ exponentText exponent)

/-- Digits are cut off where they end. -/
theorem cutDigits_append {digits rest : List Char} (h : ∀ c ∈ digits, c.isDigit = true)
    (hrest : EndsDigits rest) : cutDigits (digits ++ rest) = (digits, rest) := by
  unfold cutDigits
  rw [List.takeWhile_append_of_pos h, List.dropWhile_append_of_pos h]
  cases rest with
  | nil => simp
  | cons c rest =>
    have hc : ¬ c.isDigit = true := by simp [hrest c rfl]
    rw [List.takeWhile_cons_of_neg hc, List.dropWhile_cons_of_neg hc, List.append_nil]

/-- A whole part is cut off where it ends; a zero in front of it ends it at once. -/
theorem cutWhole_append {whole rest : List Char} (h : IsWhole whole) (hrest : EndsDigits rest) :
    cutWhole (whole ++ rest) = (whole, rest) := by
  rcases h.leading with rfl | hleading
  · rfl
  · have hcut := cutDigits_append h.isDigit hrest
    obtain ⟨d, digits, rfl⟩ := List.exists_cons_of_ne_nil h.ne_nil
    unfold cutWhole
    split
    · rename_i heq
      exact absurd (congrArg some (List.cons.inj heq).1) hleading
    · exact hcut

theorem cutFraction_point (s : List Char) :
    cutFraction ('.' :: s) =
      if (cutDigits s).1.isEmpty then (none, '.' :: s)
      else (some (cutDigits s).1, (cutDigits s).2) := rfl

/-- A fraction is cut off, or none where no point stands. -/
theorem cutFraction_append {fraction : Option (List Char)} {rest : List Char}
    (h : ∀ digits ∈ fraction, IsDigits digits)
    (hrest : ∀ c ∈ rest.head?, c.isDigit = false ∧ c ≠ '.') :
    cutFraction (fractionText fraction ++ rest) = (fraction, rest) := by
  cases fraction with
  | none =>
    show cutFraction rest = _
    unfold cutFraction
    split
    · exact absurd rfl (hrest '.' rfl).2
    · rfl
  | some digits =>
    have hdigits := h digits rfl
    have hcut := cutDigits_append hdigits.isDigit fun c hc => (hrest c hc).1
    show cutFraction ('.' :: (digits ++ rest)) = _
    rw [cutFraction_point, hcut, if_neg (by simp [hdigits.ne_nil])]

theorem cutExponent_sign (negative : Bool) (s : List Char) :
    cutExponent ('e' :: (if negative then '-' else '+') :: s) =
      if (cutDigits s).1.isEmpty then (none, 'e' :: (if negative then '-' else '+') :: s)
      else (some (Binary64.signed negative (digitsToNat (cutDigits s).1)), (cutDigits s).2) := by
  cases negative <;> rfl

/-- An exponent is cut off, or none where no `e` stands. -/
theorem cutExponent_append (exponent : Option Int) {rest : List Char} (hrest : EndsNumber rest) :
    cutExponent (exponentText exponent ++ rest) = (exponent, rest) := by
  cases exponent with
  | none =>
    cases rest with
    | nil => rfl
    | cons c rest =>
      obtain ⟨_, _, he, hE⟩ := hrest c rfl
      exact if_neg (not_or.mpr ⟨he, hE⟩)
  | some exponent =>
    -- The exponent is padded to two digits, which does not change its value.
    have hdigits := (isDigits_toDigits exponent.natAbs).zeros_append
      (2 - (Nat.toDigits 10 exponent.natAbs).length)
    have hvalue := digitsToNat_zeros_append (2 - (Nat.toDigits 10 exponent.natAbs).length)
      (Nat.toDigits 10 exponent.natAbs)
    rw [digitsToNat_toDigits] at hvalue
    generalize hpadded : List.replicate (2 - (Nat.toDigits 10 exponent.natAbs).length) '0' ++
      Nat.toDigits 10 exponent.natAbs = padded at hdigits hvalue
    have hcut := cutDigits_append hdigits.isDigit hrest.endsDigits
    have hsign : Binary64.signed (exponent < 0) exponent.natAbs = exponent :=
      withSign_natAbs exponent
    have htext : exponentText (some exponent) ++ rest =
        'e' :: (if decide (exponent < 0) then '-' else '+') :: (padded ++ rest) := by
      unfold exponentText NumberLayout.exponentPart
      simp [← hpadded]
    rw [htext, cutExponent_sign, hcut]
    dsimp only
    rw [if_neg (by simp [hdigits.ne_nil]), hvalue, hsign]

/-- An exponent neither continues the digits of a fraction nor begins with a point. -/
theorem head?_exponentText {exponent : Option Int} {rest : List Char} (hrest : EndsNumber rest)
    {c : Char} (hc : c ∈ (exponentText exponent ++ rest).head?) :
    c.isDigit = false ∧ c ≠ '.' := by
  cases exponent with
  | none => exact ⟨(hrest c hc).1, (hrest c hc).2.1⟩
  | some exponent =>
    obtain rfl : 'e' = c := Option.some.inj hc
    exact ⟨by decide, by decide⟩

/-- What follows the whole part does not continue it. -/
theorem endsDigits_fractionText (fraction : Option (List Char)) (exponent : Option Int)
    {rest : List Char} (hrest : EndsNumber rest) :
    EndsDigits (fractionText fraction ++ (exponentText exponent ++ rest)) := by
  intro c hc
  cases fraction with
  | none => exact (head?_exponentText hrest hc).1
  | some digits =>
    obtain rfl : '.' = c := Option.some.inj hc
    decide

/-- The parts of a number are found, and the scan comes to what the reader makes of them. -/
theorem comesTo_magnitude (limits : Limits) (negative : Bool) {whole : List Char}
    {fraction : Option (List Char)} {exponent : Option Int} (hwhole : IsWhole whole)
    (hfraction : ∀ digits ∈ fraction, IsDigits digits) {rest s : List Char}
    (hrest : EndsNumber rest)
    (h : (numberText whole fraction exponent ++ rest).length ≤ s.length) :
    ComesTo (scanMagnitude limits negative s (numberText whole fraction exponent ++ rest) h)
      (numberOf limits negative whole fraction exponent) rest := by
  have hlength := List.length_pos_iff.mpr hwhole.ne_nil
  have htext : numberText whole fraction exponent ++ rest =
      whole ++ (fractionText fraction ++ (exponentText exponent ++ rest)) := by
    simp [numberText]
  have hcutWhole := cutWhole_append hwhole (endsDigits_fractionText fraction exponent hrest)
  have hcutFraction : cutFraction (fractionText fraction ++ (exponentText exponent ++ rest)) =
      (fraction, exponentText exponent ++ rest) :=
    cutFraction_append hfraction fun _ hc => head?_exponentText hrest hc
  have hcutExponent := cutExponent_append exponent hrest
  -- What stands behind the whole part gets a name, so that the lengths of both can be compared.
  obtain ⟨behind, hbehind⟩ :
      ∃ behind, fractionText fraction ++ (exponentText exponent ++ rest) = behind := ⟨_, rfl⟩
  rw [hbehind] at htext hcutWhole hcutFraction
  have hmagnitude : ¬(whole.isEmpty ∨ ¬behind.length < (whole ++ behind).length) := by
    simp [hwhole.ne_nil, hlength]
  unfold scanMagnitude
  cases hvalue : numberOf limits negative whole fraction exponent with
  | error stop =>
    simp only [htext, hcutWhole, hcutFraction, hcutExponent, hvalue, ComesTo]
    rw [dif_neg hmagnitude]
  | ok value =>
    refine ⟨?_, ?_⟩
    · rw [htext, ← hbehind] at h
      simp only [List.length_append] at h
      omega
    · simp only [htext, hcutWhole, hcutFraction, hcutExponent, hvalue]
      rw [dif_neg hmagnitude]

/-! ### Values -/

theorem scanValue_of_isDigit (limits : Limits) (depth : Nat) {d : Char} (hd : d.isDigit = true)
    (rest : List Char) : scanValue limits depth (d :: rest) = scanNumber limits (d :: rest) := by
  rw [scanValue]
  · exact List.cons_ne_nil _ _
  all_goals
    intro rest heq
    exact ne_of_isDigit hd (by decide) (List.cons.inj heq).1

theorem scanValue_of_minus (limits : Limits) (depth : Nat) {d : Char} (hd : d.isDigit = true)
    (rest : List Char) :
    scanValue limits depth ('-' :: d :: rest) = scanNumber limits ('-' :: d :: rest) := by
  rw [scanValue]
  · exact List.cons_ne_nil _ _
  -- Only the name of a value that is not finite begins with a minus sign too.
  iterate 8
    · intro rest heq
      exact absurd (List.cons.inj heq).1 (by decide)
  · intro rest heq
    exact ne_of_isDigit hd (by decide) (List.cons.inj (List.cons.inj heq).2).1

/-- The text behind its sign. -/
def signedText (negative : Bool) (text : List Char) : List Char :=
  if negative then '-' :: text else text

/-- A number is found as a value, with its sign. -/
theorem comesTo_number (limits : Limits) (depth : Nat) (negative : Bool) {whole : List Char}
    {fraction : Option (List Char)} {exponent : Option Int} (hwhole : IsWhole whole)
    (hfraction : ∀ digits ∈ fraction, IsDigits digits) {rest : List Char}
    (hrest : EndsNumber rest) :
    ComesTo (scanValue limits depth
      (signedText negative (numberText whole fraction exponent) ++ rest))
      (numberOf limits negative whole fraction exponent) rest := by
  obtain ⟨d, digits, hdigits⟩ := List.exists_cons_of_ne_nil hwhole.ne_nil
  have hd : d.isDigit = true := hwhole.isDigit d (hdigits ▸ List.mem_cons_self)
  obtain ⟨tail, htail⟩ :
      ∃ tail, numberText whole fraction exponent ++ rest = d :: tail := by
    subst hdigits
    exact ⟨_, rfl⟩
  -- The scan keeps a proof of its length, which stands in the way of rewriting the text in it.
  have hcomes (s : List Char) (h : (d :: tail).length ≤ s.length) :
      ComesTo (scanMagnitude limits negative s (d :: tail) h)
        (numberOf limits negative whole fraction exponent) rest := by
    revert h
    rw [← htail]
    exact comesTo_magnitude limits negative hwhole hfraction hrest
  cases negative with
  | false =>
    show ComesTo (scanValue limits depth (numberText whole fraction exponent ++ rest)) _ _
    rw [htail, scanValue_of_isDigit limits depth hd, scanNumber]
    · exact hcomes _ _
    · exact fun _ heq => ne_of_isDigit hd (by decide) (List.cons.inj heq).1
  | true =>
    show ComesTo (scanValue limits depth ('-' :: (numberText whole fraction exponent ++ rest))) _ _
    rw [htail, scanValue_of_minus limits depth hd]
    exact hcomes _ (Nat.le_succ _)

/-! ### Integers -/

/-- The literal of an integer is its sign and its digits, without any other part. -/
theorem integerLiteral_eq (n : Int) : integerLiteral n =
    signedText (n < 0) (numberText (Nat.toDigits 10 n.natAbs) none none) := by
  simp [integerLiteral, signedText, numberText, fractionText, exponentText]

/-- What every reader makes of the literal of an integer. -/
def rereadInteger (n : Int) : Except Stop Json :=
  if FitsNumeral n then .ok (.integer n)
  else .error (.digits (Nat.toDigits 10 n.natAbs).length)

/-- The digits of an integer are read as the integer, if they are not too many. -/
theorem numberOf_toDigits (limits : Limits) (n : Int) :
    numberOf limits (n < 0) (Nat.toDigits 10 n.natAbs) none none = rereadInteger n := by
  have hsign : Binary64.signed (n < 0) n.natAbs = n := withSign_natAbs n
  unfold numberOf rereadInteger
  dsimp only
  rw [digitsToNat_toDigits, hsign]
  by_cases hn : FitsNumeral n
  · rw [if_pos hn, if_neg (Nat.not_lt.mpr hn)]
  · rw [if_neg hn, if_pos (Nat.not_le.mp hn)]

/-- An integer is read from its literal, or stops the scan for its digits, if what stands behind
ends its number. -/
theorem comesTo_integerLiteral (limits : Limits) (depth : Nat) (n : Int) {rest : List Char}
    (hrest : EndsNumber rest) :
    ComesTo (scanValue limits depth (integerLiteral n ++ rest)) (rereadInteger n) rest := by
  rw [integerLiteral_eq, ← numberOf_toDigits limits]
  exact comesTo_number limits depth _ (isWhole_toDigits _) (by simp) hrest

/-! ### Numbers of the double-precision format -/

/-- The parts spell a decimal of the same value, and not as an integer. -/
structure Spells (whole : List Char) (fraction : Option (List Char)) (exponent : Option Int)
    (d : Decimal) : Prop where
  isWhole : IsWhole whole
  length_le : whole.length ≤ maxNumeralDigits
  isDigits : ∀ digits ∈ fraction, IsDigits digits
  isSome : fraction.isSome ∨ exponent.isSome
  value_eq : (Decimal.mk (digitsToNat (whole ++ fraction.getD []))
    (exponent.getD 0 - (fraction.getD []).length)).value = d.value

/-- The reader makes of the parts what it makes of the decimal. -/
theorem Spells.numberOf_eq {whole : List Char} {fraction : Option (List Char)}
    {exponent : Option Int} {d : Decimal} (h : Spells whole fraction exponent d) (limits : Limits)
    (negative : Bool) :
    numberOf limits negative whole fraction exponent = .ok (.number (d.toBinary64 negative)) := by
  have hlong : ¬ maxNumeralDigits < whole.length := Nat.not_lt.mpr h.length_le
  have hread := Decimal.toBinary64_congr negative h.value_eq
  rw [numberOf]
  · rw [if_neg fun hand => hlong hand.1, ← hread]
    rfl
  · rintro rfl rfl
    exact absurd h.isSome (by simp)

section

variable {digits : List Char} {d : Decimal}

/-- The digits of the decimal, with what is known of them. -/
structure IsDigitsOf (digits : List Char) (d : Decimal) : Prop extends IsWhole digits where
  digitsToNat_eq : digitsToNat digits = d.digits

theorem isDigitsOf_toDigits (d : Decimal) : IsDigitsOf (Nat.toDigits 10 d.digits) d :=
  ⟨isWhole_toDigits _, digitsToNat_toDigits _⟩

theorem value_mk_eq {digits' : Nat} {exponent' : Int} (hdigits : digits' = d.digits)
    (hexponent : exponent' = d.exponent) : (Decimal.mk digits' exponent').value = d.value := by
  rw [hdigits, hexponent]

/-- Digits behind zeros behind the point. -/
theorem spells_below (h : IsDigitsOf digits d) (zeros : Nat)
    (hexponent : d.exponent = -(zeros + digits.length : Nat)) :
    Spells ['0'] (some (List.replicate zeros '0' ++ digits)) none d where
  isWhole := isWhole_toDigits 0
  length_le := by decide
  isDigits := by
    intro fraction hfraction
    obtain rfl := Option.some.inj hfraction
    exact h.zeros_append zeros
  isSome := .inl rfl
  value_eq := by
    apply value_mk_eq
    · show digitsToNat (List.replicate (zeros + 1) '0' ++ digits) = _
      rw [digitsToNat_zeros_append, h.digitsToNat_eq]
    · rw [hexponent]
      simp

/-- Digits with the point among them. -/
theorem spells_within (h : IsDigitsOf digits d) (size : Nat) (hsize : 0 < size)
    (hlength : size ≤ maxNumeralDigits) (hlt : size < digits.length)
    (hexponent : d.exponent = size - digits.length) :
    Spells (digits.take size) (some (digits.drop size)) none d where
  isWhole := by
    obtain ⟨c, rest, rfl⟩ := List.exists_cons_of_ne_nil h.ne_nil
    obtain ⟨count, rfl⟩ := Nat.exists_eq_succ_of_ne_zero hsize.ne'
    -- More than one digit stands here, so the first of them is no zero.
    refine ⟨⟨List.cons_ne_nil _ _, fun c hc => h.isDigit c (List.mem_of_mem_take hc)⟩, .inr ?_⟩
    rcases h.leading with hzero | hleading
    · rw [hzero] at hlt
      exact absurd hlt (by simp)
    · exact hleading
  length_le := (List.length_take_le _ _).trans hlength
  isDigits := by
    intro fraction hfraction
    obtain rfl := Option.some.inj hfraction
    refine ⟨?_, fun c hc => h.isDigit c (List.mem_of_mem_drop hc)⟩
    rw [ne_eq, List.drop_eq_nil_iff]
    omega
  isSome := .inl rfl
  value_eq := by
    apply value_mk_eq
    · show digitsToNat (digits.take size ++ digits.drop size) = _
      rw [List.take_append_drop, h.digitsToNat_eq]
    · show (0 : Int) - (digits.drop size).length = _
      rw [hexponent, List.length_drop]
      omega

/-- Digits, zeros, and a zero behind the point. -/
theorem spells_above (h : IsDigitsOf digits d) (zeros : Nat)
    (hlength : digits.length + zeros ≤ maxNumeralDigits) (hexponent : d.exponent = zeros)
    (hzero : d.digits = 0 → zeros = 0) :
    Spells (digits ++ List.replicate zeros '0') (some ['0']) none d where
  isWhole := by
    refine ⟨h.append_zeros zeros, ?_⟩
    rcases h.leading with rfl | hleading
    · left
      rw [hzero h.digitsToNat_eq.symm]
      rfl
    · right
      rwa [List.head?_append_of_ne_nil _ h.ne_nil]
  length_le := by rwa [List.length_append, List.length_replicate]
  isDigits := by
    intro fraction hfraction
    obtain rfl := Option.some.inj hfraction
    exact isDigits_toDigits 0
  isSome := .inl rfl
  value_eq := by
    -- The zero behind the point is one more place, which its exponent takes back.
    have hdigits : digitsToNat (digits ++ List.replicate zeros '0' ++ List.replicate 1 '0') =
        d.digits * 10 ^ zeros * 10 := by
      rw [digitsToNat_append_zeros, digitsToNat_append_zeros, h.digitsToNat_eq, pow_one]
    unfold Decimal.value
    show (digitsToNat (digits ++ List.replicate zeros '0' ++ List.replicate 1 '0') : ℚ) *
      10 ^ ((0 : Int) - (1 : Nat)) = _
    rw [hdigits, hexponent]
    push_cast
    rw [zpow_natCast]
    norm_num
    ring

/-- One digit, the others behind the point, and an exponent. -/
theorem spells_scientific {first : Char} {rest : List Char} (h : IsDigitsOf (first :: rest) d)
    (exponent : Int) (hexponent : d.exponent = exponent - rest.length) :
    Spells [first] (if rest = [] then none else some rest) (some exponent) d where
  isWhole := by
    refine ⟨⟨List.cons_ne_nil _ _, fun c hc => ?_⟩, ?_⟩
    · exact h.isDigit c (List.mem_cons.mpr (.inl (List.mem_singleton.mp hc)))
    · by_cases hfirst : first = '0'
      · exact .inl (congrArg ([·]) hfirst)
      · exact .inr fun heq => hfirst (Option.some.inj heq)
  length_le := by
    show 1 ≤ maxNumeralDigits
    decide
  isDigits := by
    intro fraction hfraction
    split at hfraction
    · cases hfraction
    · rename_i hne
      obtain rfl := Option.some.inj hfraction
      exact ⟨hne, fun c hc => h.isDigit c (List.mem_cons_of_mem _ hc)⟩
  isSome := .inr rfl
  value_eq := by
    have hbehind : (if rest = [] then none else some rest).getD [] = rest := by
      split
      · rename_i hnil
        exact hnil.symm
      · rfl
    rw [hbehind]
    exact value_mk_eq h.digitsToNat_eq hexponent.symm

/-! ### What the writer writes -/

/-- The text spells the decimal. -/
def IsTextOfDecimal (text : List Char) (d : Decimal) : Prop :=
  ∃ whole fraction exponent, Spells whole fraction exponent d ∧
    text = numberText whole fraction exponent

/-- What is written with a point at its place, or with zeros up to it, spells the decimal. -/
theorem isTextOfDecimal_positional {layout : NumberLayout} (hpoint : layout.keepsPoint = true)
    (h : IsDigitsOf digits d) (hzero : d.digits = 0 → d.exponent = 0) {lead : Int}
    (hlead : lead = d.exponent + digits.length - 1) (hlt : lead < maxNumeralDigits) :
    IsTextOfDecimal (layout.positional digits lead) d := by
  -- By the place of the point: in front of the digits, among them, or behind them.
  have hpos := List.length_pos_iff.mpr h.ne_nil
  unfold NumberLayout.positional
  by_cases hbelow : lead < 0
  · have hspells := spells_below h (-lead - 1).toNat (by push_cast; omega)
    rw [if_pos hbelow]
    exact ⟨_, _, _, hspells, by simp [numberText, fractionText, exponentText]⟩
  · rw [if_neg hbelow]
    dsimp only
    by_cases hwithin : lead.toNat + 1 < digits.length
    · have hspells := spells_within h (lead.toNat + 1) (Nat.succ_pos _) (by omega) hwithin
        (by push_cast; omega)
      obtain ⟨c, rest, hdrop⟩ : ∃ c rest, digits.drop (lead.toNat + 1) = c :: rest := by
        apply List.exists_cons_of_ne_nil
        rw [ne_eq, List.drop_eq_nil_iff]
        omega
      refine ⟨_, _, _, hspells, ?_⟩
      rw [hdrop, Nat.sub_eq_zero_of_le hwithin.le]
      simp [numberText, fractionText, exponentText]
    · have hspells := spells_above h (lead.toNat + 1 - digits.length) (by omega) (by omega)
        (by omega)
      refine ⟨_, _, _, hspells, ?_⟩
      rw [List.drop_eq_nil_of_le (by omega), List.take_of_length_le (by omega)]
      simp [numberText, fractionText, exponentText, hpoint]

/-- What is written with an exponent spells the decimal. -/
theorem isTextOfDecimal_scientific (h : IsDigitsOf digits d) {lead : Int}
    (hlead : lead = d.exponent + digits.length - 1) :
    IsTextOfDecimal (NumberLayout.scientific digits lead) d := by
  obtain ⟨first, rest, rfl⟩ := List.exists_cons_of_ne_nil h.ne_nil
  have hspells := spells_scientific h lead (by rw [List.length_cons] at hlead; omega)
  refine ⟨_, _, _, hspells, ?_⟩
  cases rest with
  | nil => rfl
  | cons second rest => simp [NumberLayout.scientific, numberText, fractionText, exponentText]

end

/-- A decimal is written in parts that spell it, if the layout keeps the point and does not write
too many digits in front of it. -/
theorem exists_spells_write (negative : Bool) {layout : NumberLayout}
    (hpoint : layout.keepsPoint = true) (hsize : layout.firstScientific ≤ maxNumeralDigits)
    {d : Decimal} (hzero : d.digits = 0 → d.exponent = 0) :
    ∃ whole fraction exponent, Spells whole fraction exponent d ∧
      (layout.write negative d).toList =
        signedText negative (numberText whole fraction exponent) := by
  have hdigits := isDigitsOf_toDigits d
  obtain ⟨body, hbody, whole, fraction, exponent, hspells, htext⟩ :
      ∃ body, (layout.write negative d).toList = signedText negative body ∧
        IsTextOfDecimal body d := by
    unfold NumberLayout.write
    rw [String.toList_ofList]
    refine ⟨_, rfl, ?_⟩
    split
    · rename_i hpositional
      exact isTextOfDecimal_positional hpoint hdigits hzero rfl (by omega)
    · exact isTextOfDecimal_scientific hdigits rfl
  exact ⟨whole, fraction, exponent, hspells, htext ▸ hbody⟩

/-- The literal of a finite number spells a decimal to which no number of the format is nearer. -/
theorem exists_spells_literal (negative : Bool) {mantissa : Nat} {exponent : Int}
    (h : CanonicalForm mantissa exponent) :
    ∃ d whole fraction exponent', Spells whole fraction exponent' d ∧
      d.toBinary64 negative = .finite negative mantissa exponent h ∧
      (Binary64.finite negative mantissa exponent h).literal.toList =
        signedText negative (numberText whole fraction exponent') := by
  have hsize : Binary64.literalLayout.firstScientific ≤ maxNumeralDigits := by decide
  unfold Binary64.literal NumberLayout.writeWith
  dsimp only
  by_cases hmantissa : mantissa = 0
  · subst hmantissa
    have hexponent : exponent = -1074 := h.2.2.2.resolve_left (by decide)
    subst hexponent
    obtain ⟨whole, fraction, exponent', hspells, htext⟩ :=
      exists_spells_write negative rfl hsize (d := ⟨0, 0⟩) fun _ => rfl
    rw [if_pos rfl]
    exact ⟨_, whole, fraction, exponent', hspells, rfl, htext⟩
  · obtain ⟨⟨num, den⟩, hpair⟩ : ∃ pair, scaleDown 2 mantissa 1 (-exponent) = pair := ⟨_, rfl⟩
    have hread := Decimal.toBinary64_shortest negative h hmantissa hpair
    -- Of a number that is not zero the shortest decimal is not zero, or it would be read as zero.
    have hdigits : (Decimal.shortest num den).digits ≠ 0 := by
      intro hzero
      rw [Decimal.toBinary64_of_digits_eq_zero negative hzero] at hread
      exact hmantissa (Binary64.finite.inj hread).2.1.symm
    obtain ⟨whole, fraction, exponent', hspells, htext⟩ :=
      exists_spells_write negative rfl hsize fun hzero => absurd hzero hdigits
    rw [if_neg hmantissa, hpair]
    exact ⟨_, whole, fraction, exponent', hspells, hread, htext⟩

/-- A number of the double-precision format is read from its literal. -/
theorem finds_literal (limits : Limits) (depth : Nat) (x : Binary64) {rest : List Char}
    (hrest : EndsNumber rest) :
    Finds (scanValue limits depth (x.literal.toList ++ rest)) (.number x) rest := by
  -- The names of the numbers that are not finite are read letter by letter.
  cases x with
  | nan =>
    show Finds (scanValue limits depth ('N' :: 'a' :: 'N' :: rest)) _ _
    exact ⟨by simp only [List.length_cons]; omega, by rw [scanValue]⟩
  | infinity negative =>
    cases negative with
    | false =>
      show Finds (scanValue limits depth
        ('I' :: 'n' :: 'f' :: 'i' :: 'n' :: 'i' :: 't' :: 'y' :: rest)) _ _
      exact ⟨by simp only [List.length_cons]; omega, by rw [scanValue]⟩
    | true =>
      show Finds (scanValue limits depth
        ('-' :: 'I' :: 'n' :: 'f' :: 'i' :: 'n' :: 'i' :: 't' :: 'y' :: rest)) _ _
      exact ⟨by simp only [List.length_cons]; omega, by rw [scanValue]⟩
  | finite negative mantissa exponent h =>
    obtain ⟨d, whole, fraction, exponent', hspells, hvalue, htext⟩ :=
      exists_spells_literal negative h
    have hcomes : ComesTo _ (numberOf limits negative whole fraction exponent') rest :=
      comesTo_number limits depth negative hspells.isWhole hspells.isDigits hrest
    rw [hspells.numberOf_eq limits negative, hvalue, ← htext] at hcomes
    exact hcomes

end Json

end ContractDrill
