import ContractDrill.Json.Encoder
import ContractDrill.Text.Numeral
import Mathlib.Algebra.Group.Int.Defs
import Mathlib.Algebra.Group.Nat.Defs
import Mathlib.Data.List.Basic
import Mathlib.Data.List.TakeWhile

/-!
# Reading integers back

The text of an integer is read as that integer under each of the rules for integers, `readWhole`
and `readInteger`, as long as its digits are not more than a numeral may have (`FitsNumeral`).
`readInteger` takes leading zeros too (`readInteger_of_isDigit`).

Whatever `readInteger` takes has no more digits than the text has characters, and is negative only
behind a minus sign (`bounds_of_readInteger`).
-/

namespace ContractDrill

/-! ### Digits -/

theorem isDigit_of_mem_toDigits {n : Nat} {c : Char} (h : c ∈ Nat.toDigits 10 n) :
    c.isDigit = true :=
  Nat.isDigit_of_mem_toDigits (by decide) (by decide) h

theorem digitsToNat_toDigits (n : Nat) : digitsToNat (Nat.toDigits 10 n) = n :=
  Nat.ofDigitChars_ten_toDigits

/-- Digits in front count for as many places as there are digits behind them. -/
theorem digitsToNat_append (s t : List Char) :
    digitsToNat (s ++ t) = digitsToNat s * 10 ^ t.length + digitsToNat t := by
  show Nat.ofDigitChars 10 _ 0 = Nat.ofDigitChars 10 _ 0 * _ + Nat.ofDigitChars 10 _ 0
  rw [Nat.ofDigitChars_append, Nat.ofDigitChars_eq_ofDigitChars_zero, Nat.mul_comm]

theorem digitsToNat_zeros_append (count : Nat) (digits : List Char) :
    digitsToNat (List.replicate count '0' ++ digits) = digitsToNat digits := by
  show Nat.ofDigitChars 10 _ 0 = Nat.ofDigitChars 10 _ 0
  rw [Nat.ofDigitChars_append, Nat.ofDigitChars_replicate_zero, Nat.mul_zero]

theorem digitsToNat_append_zeros (digits : List Char) (count : Nat) :
    digitsToNat (digits ++ List.replicate count '0') = digitsToNat digits * 10 ^ count := by
  show Nat.ofDigitChars 10 _ 0 = Nat.ofDigitChars 10 _ 0 * _
  rw [Nat.ofDigitChars_append, Nat.ofDigitChars_replicate_zero, Nat.mul_comm]

/-- Only the digits of zero begin with a zero. -/
theorem head?_toDigits_ne {n : Nat} (hn : n ≠ 0) : (Nat.toDigits 10 n).head? ≠ some '0' := by
  induction n using Nat.strongRecOn with
  | _ n ih =>
  by_cases hlt : n < 10
  · have hdigit : ∀ d < 10, d ≠ 0 → Nat.digitChar d ≠ '0' := by decide
    rw [Nat.toDigits_of_lt_base hlt]
    intro h
    exact hdigit n hlt hn (Option.some.inj h)
  · rw [Nat.toDigits_of_base_le (by decide) (by omega),
      List.head?_append_of_ne_nil _ Nat.toDigits_ne_nil]
    exact ih (n / 10) (by omega) (by omega)

/-- A digit is none of the marks of a number. -/
theorem ne_of_isDigit {c mark : Char} (h : c.isDigit = true) (hmark : mark.isDigit = false) :
    c ≠ mark := by
  rintro rfl
  rw [h] at hmark
  cases hmark

theorem toNat_lt_of_isDigit {c : Char} (h : c.isDigit = true) : c.toNat < 0x80 := by
  have hle := (Char.isDigit_iff_toNat.mp h).2
  have hnine : '9'.toNat = 57 := rfl
  omega

/-! ### Rows of a fixed length -/

/-- The last `size` digits of a number. -/
def paddedDigits : (size n : Nat) → List Char
  | 0, _ => []
  | size + 1, n => paddedDigits size (n / 10) ++ [Nat.digitChar (n % 10)]

theorem length_paddedDigits (size n : Nat) : (paddedDigits size n).length = size := by
  induction size generalizing n with
  | zero => rfl
  | succ size ih => rw [paddedDigits, List.length_append, ih, List.length_singleton]

theorem isDigit_of_mem_paddedDigits {size n : Nat} {c : Char} (h : c ∈ paddedDigits size n) :
    c.isDigit = true := by
  induction size generalizing n with
  | zero => exact absurd h List.not_mem_nil
  | succ size ih =>
    rw [paddedDigits, List.mem_append, List.mem_singleton] at h
    rcases h with h | rfl
    · exact ih h
    · rw [Nat.isDigit_digitChar]
      exact decide_eq_true (Nat.mod_lt n (by decide))

/-- A row that is long enough writes the number. -/
theorem digitsToNat_paddedDigits {size n : Nat} (h : n < 10 ^ size) :
    digitsToNat (paddedDigits size n) = n := by
  induction size generalizing n with
  | zero => exact (Nat.lt_one_iff.mp h).symm
  | succ size ih =>
    have hdiv : n / 10 < 10 ^ size := by
      rw [Nat.pow_succ] at h
      omega
    have hdigit := Nat.toNat_digitChar_sub_48_of_lt_ten (Nat.mod_lt n (by decide : 10 > 0))
    unfold digitsToNat
    rw [paddedDigits, List.foldl_append]
    show 10 * digitsToNat (paddedDigits size (n / 10)) + ((Nat.digitChar (n % 10)).toNat - 48) = n
    rw [ih hdiv, hdigit]
    exact Nat.div_add_mod n 10

/-! ### Signs -/

/-- Lean writes integers as JSON texts do. -/
theorem toList_toString (n : Int) : (toString n).toList = Json.integerLiteral n := by
  rw [Int.toString_eq_repr, Int.repr_eq_if]
  unfold Json.integerLiteral
  by_cases hn : n < 0
  · have habs : (-n).toNat = n.natAbs := by omega
    rw [if_neg (by omega), if_pos hn, habs, String.toList_append, Nat.toList_repr]
    rfl
  · have habs : n.toNat = n.natAbs := by omega
    rw [if_pos (by omega), if_neg hn, habs, Nat.toList_repr]

theorem withSign_natAbs (n : Int) : withSign (n < 0) n.natAbs = n := by
  unfold withSign
  by_cases hn : n < 0
  · rw [if_pos (decide_eq_true hn)]
    omega
  · rw [if_neg (by simpa using hn)]
    omega

theorem splitMinus_of_isDigit {c : Char} (h : c.isDigit = true) (s : List Char) :
    splitMinus (c :: s) = (false, c :: s) := by
  unfold splitMinus
  split
  · rename_i heq
    exact absurd (List.cons.inj heq).1 (ne_of_isDigit h (by decide))
  · rfl

theorem splitSign_of_isDigit {c : Char} (h : c.isDigit = true) (s : List Char) :
    splitSign (c :: s) = (false, c :: s) := by
  unfold splitSign
  split
  · rename_i heq
    exact absurd (List.cons.inj heq).1 (ne_of_isDigit h (by decide))
  · rename_i heq
    exact absurd (List.cons.inj heq).1 (ne_of_isDigit h (by decide))
  · rfl

/-- The digits of a number begin with a digit. -/
theorem exists_toDigits_eq_cons (n : Nat) :
    ∃ d rest, Nat.toDigits 10 n = d :: rest ∧ d.isDigit = true := by
  obtain ⟨d, rest, heq⟩ := List.exists_cons_of_ne_nil (Nat.toDigits_ne_nil (n := n) (b := 10))
  exact ⟨d, rest, heq, isDigit_of_mem_toDigits (heq ▸ List.mem_cons_self)⟩

theorem splitMinus_integerLiteral (n : Int) :
    splitMinus (Json.integerLiteral n) = (decide (n < 0), Nat.toDigits 10 n.natAbs) := by
  unfold Json.integerLiteral
  by_cases hn : n < 0
  · rw [if_pos hn, decide_eq_true hn]
    rfl
  · obtain ⟨d, rest, heq, hd⟩ := exists_toDigits_eq_cons n.natAbs
    rw [if_neg hn, decide_eq_false hn, heq]
    exact splitMinus_of_isDigit hd rest

/-- The numeral of an integer splits into its sign and the digits of its magnitude. -/
theorem splitSign_integerLiteral (n : Int) :
    splitSign (Json.integerLiteral n) = (decide (n < 0), Nat.toDigits 10 n.natAbs) := by
  unfold Json.integerLiteral
  by_cases hn : n < 0
  · rw [if_pos hn, decide_eq_true hn]
    rfl
  · obtain ⟨d, rest, heq, hd⟩ := exists_toDigits_eq_cons n.natAbs
    rw [if_neg hn, decide_eq_false hn, heq]
    exact splitSign_of_isDigit hd rest

/-! ### The length of a numeral -/

/-- Only so many integers fit a numeral. -/
theorem fitsNumeral_iff_natAbs_lt {n : Int} :
    FitsNumeral n ↔ n.natAbs < 10 ^ maxNumeralDigits := by
  have hpos : 0 < maxNumeralDigits := by decide
  unfold FitsNumeral
  exact Nat.length_toDigits_le_iff (by decide) hpos

/-- The least magnitude with one digit too many does not fit. -/
theorem not_fitsNumeral_pow : ¬ FitsNumeral (10 ^ maxNumeralDigits) := by
  simp [fitsNumeral_iff_natAbs_lt, Int.natAbs_pow, -Nat.reducePow]

theorem FitsSigned.fitsNumeral {n : Int} (h : FitsSigned n) : FitsNumeral n :=
  (Nat.le_add_right _ _).trans h

/-! ### Integers of settings and payloads -/

/-- A numeral that fits is read back. -/
theorem readPlain_integerLiteral {n : Int} (h : FitsNumeral n) :
    readPlain (Json.integerLiteral n) = .ok n := by
  unfold readPlain
  rw [splitMinus_integerLiteral]
  dsimp only
  by_cases hn : n = 0
  · subst hn
    rfl
  · have hall : ∀ c ∈ Nat.toDigits 10 n.natAbs, c.isDigit = true := fun _ =>
      isDigit_of_mem_toDigits
    rw [if_neg (head?_toDigits_ne (Int.natAbs_ne_zero.mpr hn)),
      List.takeWhile_eq_self_iff.mpr hall, if_neg (Nat.not_lt.mpr h), if_neg (by simp),
      digitsToNat_toDigits, withSign_natAbs]

/-- Settings and payloads give back the integer whose text they are given. -/
theorem readWhole_toString {n : Int} (h : FitsNumeral n) :
    readWhole (toString n).toList = .ok n := by
  unfold readWhole
  rw [toList_toString, readPlain_integerLiteral h]

theorem natAbs_withSign (negative : Bool) (magnitude : Nat) :
    (withSign negative magnitude).natAbs = magnitude := by
  unfold withSign
  split <;> omega

/-- A row of digits writes a number below the power of ten of its length, whatever number stands in
front of it. -/
theorem foldl_digits_lt {digits : List Char} (h : ∀ c ∈ digits, c.isDigit = true) (front : Nat) :
    digits.foldl (fun n c => 10 * n + (c.toNat - 48)) front < (front + 1) * 10 ^ digits.length := by
  induction digits generalizing front with
  | nil => simp
  | cons c rest ih =>
    have hle := (Char.isDigit_iff_toNat.mp (h c List.mem_cons_self)).2
    have hnine : '9'.toNat = 57 := rfl
    have hstep : 10 * front + (c.toNat - 48) + 1 ≤ (front + 1) * 10 := by omega
    have hrest := ih (fun d hd => h d (List.mem_cons_of_mem _ hd)) (10 * front + (c.toNat - 48))
    calc rest.foldl (fun n c => 10 * n + (c.toNat - 48)) (10 * front + (c.toNat - 48))
        < (10 * front + (c.toNat - 48) + 1) * 10 ^ rest.length := hrest
      _ ≤ (front + 1) * 10 * 10 ^ rest.length := Nat.mul_le_mul_right _ hstep
      _ = (front + 1) * 10 ^ (rest.length + 1) := by
        rw [Nat.pow_succ, Nat.mul_assoc, Nat.mul_comm 10]

/-- Digits stand for less than the power of ten with as many zeros. -/
theorem digitsToNat_lt {digits : List Char} (h : ∀ c ∈ digits, c.isDigit = true) :
    digitsToNat digits < 10 ^ digits.length := by
  have hlt := foldl_digits_lt h 0
  rwa [Nat.zero_add, Nat.one_mul] at hlt

/-- Leading zeros apart, a row of digits is no shorter than the number that it writes. -/
theorem length_toDigits_digitsToNat_le {digits : List Char} (hne : digits ≠ [])
    (h : ∀ c ∈ digits, c.isDigit = true) :
    (Nat.toDigits 10 (digitsToNat digits)).length ≤ digits.length :=
  (Nat.length_toDigits_le_iff (by decide) (List.length_pos_iff.mpr hne)).mpr (digitsToNat_lt h)

/-- An integer in plain form is not too long for a numeral. -/
theorem fitsNumeral_of_readPlain {s : List Char} {n : Int} (h : readPlain s = .ok n) :
    FitsNumeral n := by
  unfold readPlain at h
  obtain ⟨⟨negative, body⟩, hsplit⟩ : ∃ split, splitMinus s = split := ⟨_, rfl⟩
  rw [hsplit] at h
  dsimp only at h
  split at h
  · split at h
    · obtain rfl := Except.ok.inj h
      decide
    · cases h
  · split at h
    · cases h
    · split at h
      · cases h
      · rename_i hlong hdigits
        obtain rfl := Except.ok.inj h
        rw [not_or] at hdigits
        have hle := length_toDigits_digitsToNat_le hdigits.1 fun _ => List.mem_takeWhile_imp
        unfold FitsNumeral
        rw [natAbs_withSign]
        exact hle.trans (Nat.le_of_not_lt hlong)

/-- Nor is one that is read by way of its plain form. -/
theorem fitsNumeral_of_readWhole {s : List Char} {n : Int} (h : readWhole s = .ok n) :
    FitsNumeral n := by
  unfold readWhole at h
  split at h
  · split at h
    · rename_i hplain
      obtain ⟨form, -, hform⟩ := Option.map_eq_some_iff.mp hplain
      obtain rfl := Except.ok.inj h
      exact fitsNumeral_of_readPlain hform
    · cases h
  · exact fitsNumeral_of_readPlain h

/-! ### Integers with digits of any script -/

/-- A row of digits without underscores is a group of its own. -/
theorem groupedDigits_of_isDigit {s : List Char} (hne : s ≠ []) (h : ∀ c ∈ s, c.isDigit = true) :
    groupedDigits s = some s := by
  fun_induction groupedDigits s with
  | case1 => exact absurd rfl hne
  | case2 c hc => rfl
  | case3 c hc => exact absurd (h c (by simp)) hc
  | case4 c rest hc ih => exact absurd (h '_' (by simp)) (by decide)
  | case5 c rest hc => exact absurd (h '_' (by simp)) (by decide)
  | case6 c rest hrest _ hc ih =>
    rw [ih hrest fun d hd => h d (List.mem_cons_of_mem _ hd)]
    rfl
  | case7 c rest _ _ hc => exact absurd (h c (by simp)) hc

theorem isAsciiSpace_of_isDigit {c : Char} (h : c.isDigit = true) : isAsciiSpace c = false := by
  have hle := (Char.isDigit_iff_toNat.mp h).1
  have hzero : '0'.toNat = 48 := rfl
  simp only [isAsciiSpace, inRanges, List.any_cons, List.any_nil, Bool.or_false,
    Bool.or_eq_false_iff, Bool.and_eq_false_iff, decide_eq_false_iff_not]
  omega

theorem map_asciiForm {s : List Char} (h : ∀ c ∈ s, c.toNat < 0x80) : s.map asciiForm = s := by
  conv_rhs => rw [← List.map_id s]
  exact List.map_congr_left fun c hc => if_pos (h c hc)

/-- A text of ASCII characters that is a sign and a row of digits. -/
theorem readInteger_of_splitSign {s digits : List Char} {negative : Bool}
    (hascii : ∀ c ∈ s, c.toNat < 0x80) (hspace : ∀ c ∈ s.head?, isAsciiSpace c = false)
    (hsplit : splitSign s = (negative, digits)) (hne : digits ≠ [])
    (hdigits : ∀ c ∈ digits, c.isDigit = true) (hlength : digits.length ≤ maxNumeralDigits) :
    readInteger s = .ok (withSign negative (digitsToNat digits)) := by
  have hdrop : s.dropWhile isAsciiSpace = s := by
    cases s with
    | nil => rfl
    | cons c rest =>
      rw [List.dropWhile_cons_of_neg (by rw [hspace c rfl]; exact Bool.false_ne_true)]
  have hrow : digits.takeWhile (fun c => c.isDigit || c = '_') = digits :=
    List.takeWhile_eq_self_iff.mpr fun c hc => by rw [hdigits c hc]; rfl
  unfold readInteger
  rw [map_asciiForm hascii, hdrop, hsplit]
  dsimp only
  rw [hrow, groupedDigits_of_isDigit hne hdigits]
  dsimp only
  rw [if_neg (Nat.not_lt.mpr hlength), List.drop_length]
  rfl

/-- A row of digits may begin with zeros. -/
theorem readInteger_of_isDigit {s : List Char} (hne : s ≠ []) (h : ∀ c ∈ s, c.isDigit = true)
    (hlength : s.length ≤ maxNumeralDigits) : readInteger s = .ok (digitsToNat s) := by
  show readInteger s = .ok (withSign false (digitsToNat s))
  refine readInteger_of_splitSign (fun c hc => toNat_lt_of_isDigit (h c hc)) (fun c hc => ?_) ?_
    hne h hlength
  · exact isAsciiSpace_of_isDigit (h c (List.mem_of_mem_head? hc))
  · obtain ⟨c, rest, rfl⟩ := List.exists_cons_of_ne_nil hne
    exact splitSign_of_isDigit (h c List.mem_cons_self) rest

/-- Digits with a mark behind them that is in no integer are no integer. -/
theorem readInteger_append_mark {digits : List Char} {mark : Char} (hne : digits ≠ [])
    (h : ∀ c ∈ digits, c.isDigit = true) (hlength : digits.length ≤ maxNumeralDigits)
    (hascii : mark.toNat < 0x80) (hrow : (mark.isDigit || mark = '_') = false)
    (hspace : isAsciiSpace mark = false) (rest : List Char) :
    readInteger (digits ++ mark :: rest) = .error .malformed := by
  have hform : (digits ++ mark :: rest).map asciiForm = digits ++ mark :: rest.map asciiForm := by
    rw [List.map_append, List.map_cons, asciiForm, if_pos hascii,
      map_asciiForm fun c hc => toNat_lt_of_isDigit (h c hc)]
  have htake : (digits ++ mark :: rest.map asciiForm).takeWhile (fun c => c.isDigit || c = '_') =
      digits := by
    rw [List.takeWhile_append_of_pos fun c hc => by rw [h c hc]; rfl,
      List.takeWhile_cons_of_neg (by rw [hrow]; exact Bool.false_ne_true), List.append_nil]
  obtain ⟨c, front, rfl⟩ := List.exists_cons_of_ne_nil hne
  have hc := h c List.mem_cons_self
  unfold readInteger
  rw [hform, List.cons_append, List.dropWhile_cons_of_neg
    (by rw [isAsciiSpace_of_isDigit hc]; exact Bool.false_ne_true), splitSign_of_isDigit hc,
    ← List.cons_append]
  dsimp only
  -- The row of digits ends at the mark, and nothing but blanks may stand behind it.
  rw [htake, groupedDigits_of_isDigit hne h]
  dsimp only
  rw [if_neg (Nat.not_lt.mpr hlength), List.drop_left, List.all_cons, hspace]
  rfl

/-- A node's height is the integer whose text it prints. -/
theorem readInteger_toString {n : Int} (h : FitsNumeral n) :
    readInteger (toString n).toList = .ok n := by
  have hall : ∀ c ∈ Nat.toDigits 10 n.natAbs, c.isDigit = true := fun _ => isDigit_of_mem_toDigits
  have hread := readInteger_of_splitSign (s := Json.integerLiteral n) ?_ ?_
    (splitSign_integerLiteral n) Nat.toDigits_ne_nil hall h
  · rwa [digitsToNat_toDigits, withSign_natAbs, ← toList_toString] at hread
  · unfold Json.integerLiteral
    intro c hc
    split at hc
    · rcases List.mem_cons.mp hc with rfl | hc
      · decide
      · exact toNat_lt_of_isDigit (hall c hc)
    · exact toNat_lt_of_isDigit (hall c hc)
  · unfold Json.integerLiteral
    intro c hc
    split at hc
    · cases hc
      decide
    · exact isAsciiSpace_of_isDigit (hall c (List.mem_of_mem_head? hc))

/-! ### Bounds of integers with digits of any script -/

/-- Only digits are kept of a row. -/
theorem groupedDigits_spec {s digits : List Char} (h : groupedDigits s = some digits) :
    digits.length ≤ s.length ∧ ∀ c ∈ digits, c.isDigit = true := by
  -- An underscore is taken along with the digit in front of it, and adds nothing to the digits.
  fun_induction groupedDigits s generalizing digits with
  | case1 => cases h
  | case2 c hc =>
    obtain rfl := Option.some.inj h
    exact ⟨le_refl _, List.forall_mem_singleton.mpr hc⟩
  | case3 c hc => cases h
  | case4 c rest hc ih =>
    obtain ⟨behind, hbehind, rfl⟩ := Option.map_eq_some_iff.mp h
    obtain ⟨hlength, hdigits⟩ := ih hbehind
    exact ⟨Nat.succ_le_succ (hlength.trans (Nat.le_succ _)), List.forall_mem_cons.mpr ⟨hc, hdigits⟩⟩
  | case5 c rest hc => cases h
  | case6 c rest _ _ hc ih =>
    obtain ⟨behind, hbehind, rfl⟩ := Option.map_eq_some_iff.mp h
    obtain ⟨hlength, hdigits⟩ := ih hbehind
    exact ⟨Nat.succ_le_succ hlength, List.forall_mem_cons.mpr ⟨hc, hdigits⟩⟩
  | case7 c rest _ _ hc => cases h

/-- Whether the first character of the text that is not white space is a minus sign. -/
def LeadsWithMinus (s : List Char) : Prop :=
  (s.dropWhile fun c => isAsciiSpace (asciiForm c)).head? = some '-'
  deriving Decidable

theorem lt_ten_of_digitValue? {c : Char} {d : Nat} (h : digitValue? c = some d) : d < 10 := by
  obtain ⟨start, hstart, rfl⟩ := Option.map_eq_some_iff.mp h
  have hrange := List.find?_some hstart
  rw [Bool.and_eq_true, decide_eq_true_eq, decide_eq_true_eq] at hrange
  omega

theorem asciiForm_eq_minus_iff {c : Char} : asciiForm c = '-' ↔ c = '-' := by
  refine ⟨fun h => ?_, by rintro rfl; decide⟩
  unfold asciiForm at h
  split at h
  case isTrue => exact h
  case isFalse =>
    split at h
    case isTrue => exact absurd h (by decide)
    case isFalse =>
      split at h
      case h_1 d hd =>
        have hne : ∀ d < 10, Nat.digitChar d ≠ '-' := by decide
        exact absurd h (hne d (lt_ten_of_digitValue? hd))
      case h_2 => exact absurd h (by decide)

/-- The first character that is no blank is a minus sign. -/
theorem leadsWithMinus_iff {s : List Char} :
    LeadsWithMinus s ↔ ((s.map asciiForm).dropWhile isAsciiSpace).head? = some '-' := by
  have hdrop : (s.map asciiForm).dropWhile isAsciiSpace =
      (s.dropWhile fun c => isAsciiSpace (asciiForm c)).map asciiForm := by
    rw [List.dropWhile_map]
    rfl
  unfold LeadsWithMinus
  rw [hdrop, List.head?_map]
  cases (s.dropWhile fun c => isAsciiSpace (asciiForm c)).head? with
  | none => simp
  | some c => simp [asciiForm_eq_minus_iff]

/-- A sign takes the place of a digit. -/
theorem splitSign_cases (s : List Char) :
    (s.head? = some '-' ∧ (splitSign s).1 = true ∧ (splitSign s).2.length + 1 = s.length) ∨
      s.head? ≠ some '-' ∧ (splitSign s).1 = false ∧ (splitSign s).2.length ≤ s.length := by
  unfold splitSign
  split
  · exact .inl ⟨rfl, rfl, rfl⟩
  · exact .inr ⟨fun h => absurd (Option.some.inj h) (by decide), rfl, Nat.le_succ _⟩
  · rename_i hminus _
    refine .inr ⟨fun hhead => ?_, rfl, le_refl _⟩
    obtain ⟨rest, rfl⟩ := List.head?_eq_some_iff.mp hhead
    exact hminus rest rfl

/-- Only a minus sign makes an integer negative; it then has a digit less than the text has
characters. -/
theorem bounds_of_readInteger {s : List Char} {n : Int} (h : readInteger s = .ok n) :
    (LeadsWithMinus s → n ≤ 0 ∧ -n < 10 ^ (s.length - 1)) ∧
      (¬ LeadsWithMinus s → 0 ≤ n ∧ n < 10 ^ s.length) := by
  have hlength : ((s.map asciiForm).dropWhile isAsciiSpace).length ≤ s.length := by
    have hle := (List.dropWhile_sublist isAsciiSpace (l := s.map asciiForm)).length_le
    rwa [List.length_map] at hle
  rw [leadsWithMinus_iff]
  unfold readInteger at h
  obtain ⟨unblanked, hunblanked⟩ : ∃ t, (s.map asciiForm).dropWhile isAsciiSpace = t := ⟨_, rfl⟩
  rw [hunblanked] at h hlength ⊢
  obtain ⟨⟨negative, body⟩, hsplit⟩ : ∃ split, splitSign unblanked = split := ⟨_, rfl⟩
  have hsign := splitSign_cases unblanked
  rw [hsplit] at h hsign
  dsimp only at h hsign
  split at h
  case h_1 => cases h
  case h_2 digits hgrouped =>
    split at h
    case isTrue => cases h
    case isFalse =>
      split at h
      case isFalse => cases h
      case isTrue =>
        obtain rfl := Except.ok.inj h
        -- All digits come from the row, which has room for one less behind a minus sign.
        obtain ⟨hrow, hdigits⟩ := groupedDigits_spec hgrouped
        have hbody : digits.length ≤ body.length :=
          hrow.trans (List.takeWhile_sublist _).length_le
        have hbound {k : Nat} (hk : digits.length ≤ k) : (digitsToNat digits : Int) < 10 ^ k := by
          exact_mod_cast (digitsToNat_lt hdigits).trans_le (Nat.pow_le_pow_right (by decide) hk)
        rcases hsign with ⟨hminus, rfl, hshorter⟩ | ⟨hminus, rfl, hle⟩
        · have hlt := hbound (k := s.length - 1) (by omega)
          refine ⟨fun _ => ⟨?_, ?_⟩, fun hnot => absurd hminus hnot⟩
          · show -(digitsToNat digits : Int) ≤ 0
            omega
          · show - -(digitsToNat digits : Int) < _
            omega
        · have hlt := hbound (k := s.length) (by omega)
          exact ⟨fun h => absurd h hminus, fun _ => ⟨Int.natCast_nonneg _, hlt⟩⟩

end ContractDrill
