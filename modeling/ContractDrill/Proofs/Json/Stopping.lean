import ContractDrill.Proofs.Json.Reading

/-!
# Why reading stops

A reader keeps to its text.  What a scan leaves is the end of the text in front of it, and what it
stops for is in that text (`Grounded`).  So the two limits of a reader are only ever broken by texts
that are beyond them: one with a row of more digits than a numeral may have
(`HasLongInteger.exists_row`), or one that opens more brackets than may be open at once
(`IsTooDeep.lt_opened`).

Each scanner is grounded if the scanners that it calls are.  A value is reached by induction on the
brackets that may still be open: inside of a bracket there is one less.
-/

namespace ContractDrill

namespace Json

/-! ### Grounds -/

/-- Whether `c` opens a bracket that nests. -/
def opensBracket (c : Char) : Bool :=
  c = '[' || c = '\x7b'

/-- The brackets that a text opens, those inside of its strings included. -/
def opened (s : List Char) : Nat :=
  s.countP opensBracket

/-- The text has a row of so many digits. -/
def HasRow (count : Nat) (s : List Char) : Prop :=
  ∃ row, row <:+: s ∧ row.length = count ∧ ∀ c ∈ row, c.isDigit = true

/-- What stopped a scan is in the text.  There, `depth` more brackets could be open at once. -/
def Stop.IsDue (depth : Nat) (s : List Char) : Stop → Prop
  | .fault .. => True
  | .digits count => maxNumeralDigits < count ∧ HasRow count s
  | .depth _ => depth < opened s

/-- The scan leaves the end of its text, or stops for something in it. -/
def Grounded {α : Type} (depth : Nat) {s : List Char} : Except Stop (Scanned s α) → Prop
  | .ok scan => scan.left <:+ s
  | .error stop => stop.IsDue depth s

variable {limits : Limits}

theorem opened_le_of_suffix {s t : List Char} (h : t <:+ s) : opened t ≤ opened s :=
  h.sublist.countP_le

theorem HasRow.of_suffix {count : Nat} {s t : List Char} (h : HasRow count t) (hsuffix : t <:+ s) :
    HasRow count s := by
  obtain ⟨row, hrow, hlength, hdigits⟩ := h
  exact ⟨row, hrow.trans hsuffix.isInfix, hlength, hdigits⟩

theorem Stop.IsDue.of_suffix {depth : Nat} {s t : List Char} {stop : Stop} (h : stop.IsDue depth t)
    (hsuffix : t <:+ s) : stop.IsDue depth s := by
  cases stop with
  | fault kind left => trivial
  | digits count => exact ⟨h.1, h.2.of_suffix hsuffix⟩
  | depth bracket => exact Nat.lt_of_lt_of_le h (opened_le_of_suffix hsuffix)

theorem opened_cons {c : Char} (hc : opensBracket c = true) (s : List Char) :
    opened (c :: s) = opened s + 1 :=
  List.countP_cons_of_pos hc

/-- A bracket that opens in front of a text makes room for one more inside of it. -/
theorem Stop.IsDue.cons {depth : Nat} {s : List Char} {stop : Stop} (h : stop.IsDue depth s)
    {c : Char} (hc : opensBracket c = true) : stop.IsDue (depth + 1) (c :: s) := by
  cases stop with
  | fault kind left => trivial
  | digits count => exact ⟨h.1, h.2.of_suffix (List.suffix_cons c s)⟩
  | depth bracket =>
    have hlt : depth < opened s := h
    show depth + 1 < opened (c :: s)
    rw [opened_cons hc]
    omega

/-- Where no bracket may be open, one that opens is one too many. -/
theorem isDue_depth_zero {c : Char} (hc : opensBracket c = true) (bracket : Bracket)
    (s : List Char) : (Stop.depth bracket).IsDue 0 (c :: s) := by
  show 0 < opened (c :: s)
  rw [opened_cons hc]
  exact Nat.succ_pos _

section

variable {α : Type} {depth : Nat}

theorem Grounded.left_suffix {s : List Char} {scan : Except Stop (Scanned s α)}
    (h : Grounded depth scan) {found : Scanned s α} (hfound : scan = .ok found) :
    found.left <:+ s := by
  subst hfound
  exact h

theorem Grounded.isDue {s : List Char} {scan : Except Stop (Scanned s α)} (h : Grounded depth scan)
    {stop : Stop} (hstop : scan = .error stop) : stop.IsDue depth s := by
  subst hstop
  exact h

/-! ### Gaps and marks -/

theorem skipGaps_suffix (s : List Char) : skipGaps s <:+ s :=
  List.dropWhile_suffix _

theorem left_suffix_of_scanMark {s : List Char} {mark : Scanned s Char}
    (h : scanMark s = some mark) : mark.left <:+ s := by
  induction s with
  | nil => cases h
  | cons c rest ih =>
    unfold scanMark at h
    split at h
    · obtain ⟨scan, hscan, rfl⟩ := Option.map_eq_some_iff.mp h
      exact (ih hscan).trans (List.suffix_cons c rest)
    · obtain rfl := Option.some.inj h
      exact List.suffix_cons c rest

/-! ### Strings -/

/-- The escape of a code unit is grounded; it stops only for faults. -/
theorem grounded_unit (depth : Nat) (s : List Char) : Grounded depth (scanUnit s) := by
  unfold scanUnit
  split
  · split
    · trivial
    · exact ⟨[_, _, _, _, _], rfl⟩
  · trivial

theorem left_suffix_of_scanLowSurrogate {s : List Char} {low : Scanned s Nat}
    (h : scanLowSurrogate s = .ok (some low)) : low.left <:+ s := by
  unfold scanLowSurrogate at h
  split at h
  · rename_i rest
    have hunit := grounded_unit 0 ('u' :: rest)
    split at h
    · cases h
    · rename_i unit hscan
      split at h
      · obtain rfl := Option.some.inj (Except.ok.inj h)
        exact (hunit.left_suffix hscan).trans (List.suffix_cons '\\' _)
      · cases Except.ok.inj h
  · cases Except.ok.inj h

/-- A second half stops the reader only for faults. -/
theorem isDue_of_scanLowSurrogate {s : List Char} {stop : Stop}
    (h : scanLowSurrogate s = .error stop) : stop.IsDue depth s := by
  unfold scanLowSurrogate at h
  split at h
  · rename_i rest
    have hunit := grounded_unit depth ('u' :: rest)
    split at h
    · rename_i hscan
      obtain rfl := Except.error.inj h
      exact (hunit.isDue hscan).of_suffix (List.suffix_cons '\\' _)
    · split at h
      · cases h
      · cases h
  · cases h

/-- Half of a character stops the reader only for a fault. -/
theorem isDue_of_loneUnit {unit : Nat} {left s : List Char} {stop : Stop}
    (h : loneUnit limits unit left = .error stop) : stop.IsDue depth s := by
  unfold loneUnit at h
  split at h
  · split at h
    · cases h
    · obtain rfl := Except.error.inj h
      trivial
  · cases h

/-- A character that is escaped as one half or two is grounded. -/
theorem grounded_unicodeChar (depth : Nat) (limits : Limits) (s : List Char) :
    Grounded depth (unicodeChar limits s) := by
  have hunit := grounded_unit depth s
  unfold unicodeChar
  split
  · rename_i hscan
    exact hunit.isDue hscan
  · rename_i high hscan
    have hhigh := hunit.left_suffix hscan
    dsimp only
    split
    -- A first half is followed by a second one, or by something else, or by a fault.
    · split
      · rename_i hlow
        exact (isDue_of_scanLowSurrogate hlow).of_suffix hhigh
      · split
        · rename_i hlone
          exact isDue_of_loneUnit hlone
        · exact hhigh
      · rename_i low hlow
        exact (left_suffix_of_scanLowSurrogate hlow).trans hhigh
    · split
      · rename_i hlone
        exact isDue_of_loneUnit hlone
      · exact hhigh

/-- A character of a string is grounded. -/
theorem grounded_char (depth : Nat) (limits : Limits) (start s : List Char) :
    Grounded depth (scanChar limits start s) := by
  unfold scanChar
  split
  · trivial
  · trivial
  -- Behind a backslash and a `u` stands a code unit, behind a backslash alone one letter.
  · rename_i rest
    have hchar := grounded_unicodeChar depth limits ('u' :: rest)
    split
    · rename_i hscan
      exact (hchar.isDue hscan).of_suffix (List.suffix_cons '\\' _)
    · rename_i scan hscan
      exact (hchar.left_suffix hscan).trans (List.suffix_cons '\\' _)
  · split
    · trivial
    · exact ⟨[_, _], rfl⟩
  · split
    · trivial
    · exact List.suffix_cons _ _

/-- The rest of a string is grounded, as long as it is the end of the string. -/
theorem grounded_stringBody (start read : List Char) {s : List Char} (h : s.length < start.length)
    (hsuffix : s <:+ start) : Grounded depth (stringBody limits start read s h) := by
  induction hlength : s.length using Nat.strongRecOn generalizing read s with
  | _ length ih =>
  rw [stringBody]
  split
  · exact (List.tail_suffix s).trans hsuffix
  · have hchar := grounded_char depth limits start s
    split
    · rename_i hscan
      exact (hchar.isDue hscan).of_suffix hsuffix
    · rename_i scan hscan
      have hleft := (hchar.left_suffix hscan).trans hsuffix
      exact ih scan.left.length (hlength ▸ scan.shorter) _ _ hleft rfl

theorem grounded_string (depth : Nat) (limits : Limits) (s : List Char) :
    Grounded depth (scanString limits s) := by
  unfold scanString
  split
  · exact grounded_stringBody _ _ _ (List.suffix_cons _ _)
  · trivial

/-! ### Numbers -/

theorem isPrefix_fst_cutWhole (s : List Char) : (cutWhole s).1 <+: s := by
  unfold cutWhole
  split
  · exact ⟨_, rfl⟩
  · exact List.takeWhile_prefix _

theorem cutWhole_snd_suffix (s : List Char) : (cutWhole s).2 <:+ s := by
  unfold cutWhole
  split
  · exact List.suffix_cons _ _
  · exact List.dropWhile_suffix _

theorem cutFraction_snd_suffix (s : List Char) : (cutFraction s).2 <:+ s := by
  unfold cutFraction
  split
  · rename_i rest
    dsimp only
    split
    · exact List.suffix_refl _
    · exact (List.dropWhile_suffix _).trans (List.suffix_cons '.' rest)
  · exact List.suffix_refl _

theorem cutSign_snd_suffix (s : List Char) : (cutSign s).2 <:+ s := by
  unfold cutSign
  split
  · exact List.suffix_cons _ _
  · exact List.suffix_cons _ _
  · exact List.suffix_refl _

theorem cutExponent_snd_suffix (s : List Char) : (cutExponent s).2 <:+ s := by
  unfold cutExponent
  split
  · rename_i e rest
    have hsign : (cutSign rest).2 <:+ e :: rest :=
      (cutSign_snd_suffix rest).trans (List.suffix_cons e rest)
    split
    · dsimp only
      split
      · exact List.suffix_refl _
      · exact (List.dropWhile_suffix _).trans hsign
    · exact List.suffix_refl _
  · exact List.suffix_refl _

/-- A number is refused for the digits in front of its point. -/
theorem isDue_of_numberOf {negative : Bool} {whole s : List Char} {fraction : Option (List Char)}
    {exponent : Option Int} {stop : Stop}
    (h : numberOf limits negative whole fraction exponent = .error stop) (hwhole : whole <:+: s)
    (hdigits : ∀ c ∈ whole, c.isDigit = true) : stop.IsDue depth s := by
  unfold numberOf at h
  dsimp only at h
  split at h
  · split at h
    · rename_i hlong
      obtain rfl := Except.error.inj h
      exact ⟨hlong, whole, hwhole, rfl, hdigits⟩
    · cases h
  · split at h
    · rename_i hlong
      obtain rfl := Except.error.inj h
      exact ⟨hlong.1, whole, hwhole, rfl, hdigits⟩
    · cases h

/-- A number is grounded: the digits that it stops for are its whole part. -/
theorem grounded_magnitude {negative : Bool} {s body : List Char} (h : body.length ≤ s.length)
    (hsuffix : body <:+ s) : Grounded depth (scanMagnitude limits negative s body h) := by
  have hwhole : (cutWhole body).1 <:+: s :=
    (isPrefix_fst_cutWhole body).isInfix.trans hsuffix.isInfix
  have hleft : (cutExponent (cutFraction (cutWhole body).2).2).2 <:+ s :=
    (cutExponent_snd_suffix _).trans <| (cutFraction_snd_suffix _).trans <|
      (cutWhole_snd_suffix _).trans hsuffix
  unfold scanMagnitude
  dsimp only
  split
  · trivial
  · split
    · rename_i hnumber
      exact isDue_of_numberOf hnumber hwhole fun _ hc => isDigit_of_mem_cutWhole hc
    · exact hleft

theorem grounded_number (s : List Char) : Grounded depth (scanNumber limits s) := by
  unfold scanNumber
  split
  · exact grounded_magnitude _ (List.suffix_cons '-' _)
  · exact grounded_magnitude _ (List.suffix_refl _)

/-! ### Items between brackets -/

section

variable (close : Char) {item : (s : List Char) → Except Stop (Scanned s α)}

/-- Items are grounded if each of them is. -/
theorem grounded_items (hitem : ∀ s, Grounded depth (item s)) (read : List α) (s : List Char) :
    Grounded depth (scanItems close item read s) := by
  -- The text gets shorter from each item to the next.
  induction hlength : s.length using Nat.strongRecOn generalizing read s with
  | _ length ih =>
  rw [scanItems]
  split
  · rename_i hscan
    exact (hitem s).isDue hscan
  · rename_i scan hscan
    have hleft := (hitem s).left_suffix hscan
    split
    · trivial
    · rename_i mark hmark
      have hmarkLeft := (left_suffix_of_scanMark hmark).trans hleft
      dsimp only
      split
      · exact hmarkLeft
      · split
        · -- The rest of the items stands behind the item and its comma.
          have hgaps := (skipGaps_suffix mark.left).trans hmarkLeft
          have hshorter : (skipGaps mark.left).length < length := by
            have := length_skipGaps_le mark.left
            have := mark.shorter
            have := scan.shorter
            omega
          have hrest := ih _ hshorter (scan.value :: read) (skipGaps mark.left) rfl
          split
          · rename_i hstop
            exact (hrest.isDue hstop).of_suffix hgaps
          · rename_i items hitems
            exact (hrest.left_suffix hitems).trans hgaps
        · trivial

/-- What stands between brackets is grounded if its items are. -/
theorem grounded_bracket (hitem : ∀ s, Grounded depth (item s)) (s : List Char) :
    Grounded depth (scanBracket close item s) := by
  have hitems := grounded_items close hitem [] (skipGaps s)
  have hstop {stop : Stop} (h : scanItems close item [] (skipGaps s) = .error stop) :
      stop.IsDue depth s := (hitems.isDue h).of_suffix (skipGaps_suffix s)
  have hleft {items : Scanned (skipGaps s) (List α)}
      (h : scanItems close item [] (skipGaps s) = .ok items) : items.left <:+ s :=
    (hitems.left_suffix h).trans (skipGaps_suffix s)
  -- A bracket that closes at once leaves what is behind it; else all is said by the items.
  unfold scanBracket
  dsimp only
  split
  · split
    · rename_i hscan
      exact hstop hscan
    · rename_i hscan
      exact hleft hscan
  · rename_i mark hmark
    split
    · exact left_suffix_of_scanMark hmark
    · split
      · rename_i hscan
        exact hstop hscan
      · rename_i hscan
        exact hleft hscan

end

theorem grounded_member (limits : Limits)
    {value : (s : List Char) → Except Stop (Scanned s Json)}
    (hvalue : ∀ s, Grounded depth (value s)) (s : List Char) :
    Grounded depth (scanMember limits value s) := by
  have hname := grounded_string depth limits s
  unfold scanMember
  split
  · rename_i hstop
    exact hname.isDue hstop
  · rename_i name hscan
    split
    · trivial
    · rename_i mark hmark
      have hmarkLeft := (left_suffix_of_scanMark hmark).trans (hname.left_suffix hscan)
      have hgaps := (skipGaps_suffix mark.left).trans hmarkLeft
      have hinside := hvalue (skipGaps mark.left)
      split
      · split
        · rename_i hstop
          exact (hinside.isDue hstop).of_suffix hgaps
        · rename_i scan hscan'
          exact (hinside.left_suffix hscan').trans hgaps
      · trivial

/-! ### Values -/

theorem left_suffix_of_scanBeyond {bracket : Bracket} {close : Char} {s : List Char}
    {scan : Scanned s Unit} (h : scanBeyond limits bracket close s = .ok scan) :
    scan.left <:+ s := by
  unfold scanBeyond at h
  split at h
  · cases h
  · rename_i mark hmark
    split at h
    · obtain rfl := Except.ok.inj h
      exact left_suffix_of_scanMark hmark
    · cases h

/-- Beyond the depth the scan stops for nothing but the opening bracket. -/
theorem eq_depth_of_scanBeyond {bracket : Bracket} {close : Char} {s : List Char} {stop : Stop}
    (h : scanBeyond limits bracket close s = .error stop) : stop = .depth bracket := by
  unfold scanBeyond at h
  split at h
  · exact (Except.error.inj h).symm
  · split at h
    · cases h
    · exact (Except.error.inj h).symm

/-- A value is grounded, whatever number of brackets may be open inside of it. -/
theorem grounded_value (limits : Limits) (depth : Nat) (s : List Char) :
    Grounded depth (scanValue limits depth s) := by
  induction depth using Nat.strongRecOn generalizing s with
  | _ depth ih =>
  unfold scanValue
  split
  case h_1 => trivial
  case h_2 rest =>
    have hstring := grounded_string depth limits ('"' :: rest)
    split
    · rename_i hstop
      exact hstring.isDue hstop
    · rename_i scan hscan
      exact hstring.left_suffix hscan
  -- Inside of a bracket one less may be open, so a stop of the inside is due outside as well.
  case h_3 rest =>
    split
    · split
      · rename_i hstop
        rw [eq_depth_of_scanBeyond hstop]
        exact isDue_depth_zero rfl .array rest
      · rename_i hscan
        exact (left_suffix_of_scanBeyond hscan).trans (List.suffix_cons '[' rest)
    · rename_i depth
      have hitems := grounded_bracket ']' (ih depth (Nat.lt_succ_self depth)) rest
      split
      · rename_i hstop
        exact (hitems.isDue hstop).cons rfl
      · rename_i scan hscan
        exact (hitems.left_suffix hscan).trans (List.suffix_cons '[' rest)
  case h_4 rest =>
    split
    · split
      · rename_i hstop
        rw [eq_depth_of_scanBeyond hstop]
        exact isDue_depth_zero rfl .object rest
      · rename_i hscan
        exact (left_suffix_of_scanBeyond hscan).trans (List.suffix_cons '\x7b' rest)
    · rename_i depth
      have hmember := grounded_member limits (ih depth (Nat.lt_succ_self depth))
      have hmembers := grounded_bracket '\x7d' hmember rest
      split
      · rename_i hstop
        exact (hmembers.isDue hstop).cons rfl
      · rename_i scan hscan
        exact (hmembers.left_suffix hscan).trans (List.suffix_cons '\x7b' rest)
  case h_5 => exact ⟨['n', 'u', 'l', 'l'], rfl⟩
  case h_6 => exact ⟨['t', 'r', 'u', 'e'], rfl⟩
  case h_7 => exact ⟨['f', 'a', 'l', 's', 'e'], rfl⟩
  case h_8 => exact ⟨['N', 'a', 'N'], rfl⟩
  case h_9 => exact ⟨"Infinity".toList, rfl⟩
  case h_10 => exact ⟨"-Infinity".toList, rfl⟩
  case h_11 => exact grounded_number s

end

/-! ### Whole texts -/

/-- The reader stops at an integer with too many digits. -/
def HasLongInteger (limits : Limits) (text : String) : Prop :=
  ∃ count, decode limits text = .error (.digits count)

/-- The reader stops at a bracket too many. -/
def IsTooDeep (limits : Limits) (text : String) : Prop :=
  ∃ bracket, decode limits text = .error (.depth bracket)

variable {text : String}

/-- A reader stops once, for its digits or for its depth. -/
theorem HasLongInteger.not_isTooDeep (h : HasLongInteger limits text) :
    ¬IsTooDeep limits text := by
  rintro ⟨bracket, hbracket⟩
  obtain ⟨count, hcount⟩ := h
  cases hcount.symm.trans hbracket

/-- An error of the decoder is a stop that is due in the text, at its place. -/
theorem exists_stop_of_decode {error : Error} (h : decode limits text = .error error) :
    ∃ stop : Stop, stop.locate text.toList = error ∧ stop.IsDue limits.depth text.toList := by
  unfold decode decodeChars at h
  split at h
  · exact ⟨_, Except.error.inj h, trivial⟩
  · have hvalue := grounded_value limits limits.depth (skipGaps text.toList)
    split at h
    · rename_i stop hscan
      exact ⟨stop, Except.error.inj h, (hvalue.isDue hscan).of_suffix (skipGaps_suffix _)⟩
    · split at h
      · cases h
      · exact ⟨_, Except.error.inj h, trivial⟩

/-- A text with an integer that is too long has the digits of one. -/
theorem HasLongInteger.exists_row (h : HasLongInteger limits text) :
    ∃ count, maxNumeralDigits < count ∧ HasRow count text.toList := by
  obtain ⟨count, hcount⟩ := h
  obtain ⟨stop, hlocate, hdue⟩ := exists_stop_of_decode hcount
  cases stop with
  | fault kind left => cases hlocate
  | digits count' => exact ⟨count', hdue⟩
  | depth bracket => cases hlocate

/-- A row of too many digits stops the reader for them. -/
theorem scanValue_of_isWhole (limits : Limits) (depth : Nat) {digits : List Char}
    (h : IsWhole digits) (hlong : maxNumeralDigits < digits.length) :
    scanValue limits depth digits = .error (.digits digits.length) := by
  have htext : signedText false (numberText digits none none) ++ [] = digits := by
    simp [signedText, numberText, fractionText, exponentText]
  have hnumber : numberOf limits false digits none none = .error (.digits digits.length) :=
    if_pos hlong
  have hnone : ∀ fraction ∈ (none : Option (List Char)), IsDigits fraction := by simp
  have hcomes : ComesTo (scanValue limits depth _) (numberOf limits false digits none none) [] :=
    comesTo_number limits depth false h hnone endsNumber_nil
  rw [hnumber, htext] at hcomes
  exact hcomes

/-- A whole number with more digits than a numeral may have is too long for every reader. -/
theorem hasLongInteger_of_isWhole (limits : Limits) {digits : List Char} (h : IsWhole digits)
    (hlong : maxNumeralDigits < digits.length) :
    HasLongInteger limits (String.ofList digits) := by
  have hscan := scanValue_of_isWhole limits limits.depth h hlong
  obtain ⟨d, rest, rfl⟩ := List.exists_cons_of_ne_nil h.ne_nil
  have hd : d.isDigit = true := h.isDigit d List.mem_cons_self
  have hmark : (d :: rest).head? ≠ some '\ufeff' :=
    fun heq => ne_of_isDigit hd (by decide) (Option.some.inj heq)
  rw [← skipGaps_of_opens (opens_of_isDigit hd rest)] at hscan
  refine ⟨(skipGaps (d :: rest)).length, ?_⟩
  unfold decode decodeChars
  rw [String.toList_ofList, if_neg hmark, hscan]
  rfl

/-- A text that is too deep opens more brackets than may be open at once. -/
theorem IsTooDeep.lt_opened (h : IsTooDeep limits text) : limits.depth < opened text.toList := by
  obtain ⟨bracket, hbracket⟩ := h
  obtain ⟨stop, hlocate, hdue⟩ := exists_stop_of_decode hbracket
  cases stop with
  | fault kind left => cases hlocate
  | digits count => cases hlocate
  | depth bracket' => exact hdue

end Json

end ContractDrill
