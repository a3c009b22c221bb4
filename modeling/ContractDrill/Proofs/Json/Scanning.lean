import ContractDrill.Json.Decoder
import ContractDrill.Json.Encoder
import ContractDrill.Proofs.Text.Numeral

/-!
# Scanning what was written

The scanners of the reader find what the writer wrote, whatever stands behind it (`Finds`): gaps,
characters and strings (`finds_stringLiteral`).  A string ends with its quote, so anything may
follow it.
-/

namespace ContractDrill

namespace Json

/-- The scan of `s` comes to `value`, with `rest` left behind it. -/
def Finds {α : Type} {s : List Char} (scan : Except Stop (Scanned s α)) (value : α)
    (rest : List Char) : Prop :=
  ∃ h, scan = .ok ⟨value, rest, h⟩

/-- The scan of `s` comes to the outcome: to a value, with `rest` left behind it, or to a stop. -/
def ComesTo {α : Type} {s : List Char} (scan : Except Stop (Scanned s α)) (outcome : Except Stop α)
    (rest : List Char) : Prop :=
  match outcome with
  | .ok value => Finds scan value rest
  | .error stop => scan = .error stop

/-- A scan that goes on from another one, and changes nothing but its value, comes to the same with
the value changed. -/
theorem ComesTo.onward {α β : Type} {s t rest : List Char} {scan : Except Stop (Scanned s α)}
    {next : Except Stop (Scanned t β)} {outcome : Except Stop α} (h : ComesTo scan outcome rest)
    (f : α → β) (hle : s.length ≤ t.length)
    (hstop : ∀ stop, scan = .error stop → next = .error stop)
    (hfound : ∀ found, scan = .ok found → next = .ok ((found.map f).widen hle)) :
    ComesTo next (f <$> outcome) rest := by
  cases outcome with
  | error stop => exact hstop stop h
  | ok value =>
    obtain ⟨hshorter, hscan⟩ := h
    exact ⟨Nat.lt_of_lt_of_le hshorter hle, hfound _ hscan⟩

/-! ### Gaps -/

/-- The characters are gaps. -/
abbrev AllGaps (s : List Char) : Prop := ∀ c ∈ s, isGap c = true

theorem skipGaps_of_allGaps {gaps : List Char} (h : AllGaps gaps) : skipGaps gaps = [] :=
  List.dropWhile_eq_nil_iff.mpr h

/-- Gaps are skipped up to a character that is none. -/
theorem skipGaps_append {gaps : List Char} (h : AllGaps gaps) {c : Char} (hc : isGap c = false)
    (rest : List Char) : skipGaps (gaps ++ c :: rest) = c :: rest := by
  unfold skipGaps
  rw [List.dropWhile_append_of_pos h, List.dropWhile_cons_of_neg (by simp [hc])]

theorem scanMark_cons {c : Char} (hc : isGap c = false) (rest : List Char) :
    scanMark (c :: rest) = some ⟨c, rest, Nat.lt_succ_self _⟩ := by
  unfold scanMark
  rw [if_neg (by simp [hc])]

/-! ### Characters -/

theorem hexValue?_digitChar : ∀ d < 16, hexValue? (Nat.digitChar d) = some d := by decide

/-- A unit of a character is read from its four digits. -/
theorem finds_unit {unit : Nat} (h : unit < 0x10000) (e : Char) (rest : List Char) :
    Finds (scanUnit ('u' :: hexDigits 4 unit ++ e :: rest)) unit (e :: rest) := by
  have hdigits : hexDigits 4 unit = [Nat.digitChar (unit / 16 / 16 / 16 % 16),
      Nat.digitChar (unit / 16 / 16 % 16), Nat.digitChar (unit / 16 % 16),
      Nat.digitChar (unit % 16)] := rfl
  have hquad : hexQuad? (Nat.digitChar (unit / 16 / 16 / 16 % 16))
      (Nat.digitChar (unit / 16 / 16 % 16)) (Nat.digitChar (unit / 16 % 16))
      (Nat.digitChar (unit % 16)) = some unit := by
    unfold hexQuad?
    rw [hexValue?_digitChar _ (by omega), hexValue?_digitChar _ (by omega),
      hexValue?_digitChar _ (by omega), hexValue?_digitChar _ (by omega)]
    show some _ = some unit
    congr 1
    omega
  rw [hdigits]
  refine ⟨by simp, ?_⟩
  simp only [List.cons_append, List.nil_append, scanUnit]
  rw [hquad]

/-- No character is half of another. -/
theorem isHighSurrogate_toNat (c : Char) : isHighSurrogate c.toNat = false := by
  have hvalid : c.toNat < 0xd800 ∨ 0xdfff < c.toNat ∧ c.toNat < 0x110000 := c.valid
  simp only [isHighSurrogate, Bool.and_eq_false_iff, decide_eq_false_iff_not]
  omega

/-- A character is no half of another one. -/
theorem isLowSurrogate_toNat (c : Char) : isLowSurrogate c.toNat = false := by
  have hvalid : c.toNat < 0xd800 ∨ 0xdfff < c.toNat ∧ c.toNat < 0x110000 := c.valid
  simp only [isLowSurrogate, Bool.and_eq_false_iff, decide_eq_false_iff_not]
  omega

/-- One unit that is a character by itself. -/
theorem finds_char_of_unit {s rest : List Char} {c : Char} (limits : Limits)
    (hunit : Finds (scanUnit s) c.toNat rest) : Finds (unicodeChar limits s) c rest := by
  obtain ⟨hshorter, hscan⟩ := hunit
  refine ⟨hshorter, ?_⟩
  unfold unicodeChar
  rw [hscan]
  dsimp only
  rw [if_neg (by rw [isHighSurrogate_toNat]; exact Bool.false_ne_true)]
  unfold loneUnit
  rw [isHighSurrogate_toNat, isLowSurrogate_toNat, Char.ofNat_toNat]
  rfl

/-- Two units that are a character together. -/
theorem finds_char_of_pair {s t rest : List Char} {high low : Nat} (limits : Limits)
    (hhigh : Finds (scanUnit s) high ('\\' :: 'u' :: t))
    (hlow : Finds (scanUnit ('u' :: t)) low rest)
    (hhalf : isHighSurrogate high = true) (hhalf' : isLowSurrogate low = true) :
    Finds (unicodeChar limits s) (joinSurrogates high low) rest := by
  obtain ⟨hshorter, hscan⟩ := hhigh
  obtain ⟨hshorter', hscan'⟩ := hlow
  refine ⟨Nat.lt_trans (Nat.lt_succ_of_lt hshorter') hshorter, ?_⟩
  unfold unicodeChar
  rw [hscan]
  dsimp only
  rw [if_pos hhalf]
  simp only [scanLowSurrogate, hscan']
  rw [if_pos hhalf']
  rfl

/-- An escape is found where its code unit is. -/
theorem finds_escaped {s rest : List Char} {c : Char} {limits : Limits} (start : List Char)
    (h : Finds (unicodeChar limits ('u' :: s)) c rest) :
    Finds (scanChar limits start ('\\' :: 'u' :: s)) c rest := by
  obtain ⟨hshorter, hscan⟩ := h
  refine ⟨Nat.lt_succ_of_lt hshorter, ?_⟩
  simp only [scanChar, hscan]
  rfl

/-- A character that stands for itself. -/
theorem finds_plainChar (limits : Limits) (start : List Char) {c : Char} (hescape : c ≠ '\\')
    (hc : 0x20 ≤ c.toNat) (rest : List Char) :
    Finds (scanChar limits start (c :: rest)) c rest := by
  refine ⟨Nat.lt_succ_self _, ?_⟩
  rw [scanChar, if_neg (Nat.not_lt.mpr hc)]
  · exact fun h _ => hescape h
  · exact fun _ h _ => hescape h
  · exact fun _ _ h _ => hescape h

/-- A character above `U+FFFF` is read from its halves. -/
theorem finds_halves (limits : Limits) (start : List Char) {c : Char} (hc : 0x10000 ≤ c.toNat)
    (e : Char) (rest : List Char) :
    Finds (scanChar limits start (unicodeEscape (0xd800 + (c.toNat - 0x10000) / 0x400) ++
      unicodeEscape (0xdc00 + (c.toNat - 0x10000) % 0x400) ++ e :: rest)) c (e :: rest) := by
  have hvalid : c.toNat < 0xd800 ∨ 0xdfff < c.toNat ∧ c.toNat < 0x110000 := c.valid
  -- Both halves are computed from the place of the character behind the first plane.
  obtain ⟨offset, hoffset⟩ : ∃ offset, c.toNat = 0x10000 + offset := ⟨c.toNat - 0x10000, by omega⟩
  have hjoin : joinSurrogates (0xd800 + offset / 0x400) (0xdc00 + offset % 0x400) = c := by
    have hsum : 0x10000 + (0xd800 + offset / 0x400 - 0xd800) * 0x400 +
        (0xdc00 + offset % 0x400 - 0xdc00) = c.toNat := by
      omega
    unfold joinSurrogates
    rw [hsum, Char.ofNat_toNat]
  have hhigh : isHighSurrogate (0xd800 + offset / 0x400) = true := by
    simp only [isHighSurrogate, Bool.and_eq_true, decide_eq_true_eq]
    omega
  have hlow : isLowSurrogate (0xdc00 + offset % 0x400) = true := by
    simp only [isLowSurrogate, Bool.and_eq_true, decide_eq_true_eq]
    omega
  rw [hoffset, Nat.add_sub_cancel_left, List.append_assoc]
  apply finds_escaped
  have hpair := finds_char_of_pair limits (finds_unit (by omega) '\\' _)
    (finds_unit (by omega) e rest) hhigh hlow
  rwa [hjoin] at hpair

/-- A character of a string is read from the characters that write it; behind them there is always
another, as the string goes on to its quote. -/
theorem finds_escapeChar (limits : Limits) (start : List Char) (c e : Char) (rest : List Char) :
    Finds (scanChar limits start (escapeChar c ++ e :: rest)) c (e :: rest) := by
  generalize htext : escapeChar c = text
  unfold escapeChar at htext
  -- The short escapes come first.
  iterate 7
    split at htext
    · subst_vars
      exact ⟨by simp, rfl⟩
  -- What is left is a character that is written as it is, or by one code unit or two.
  split at htext
  · rename_i _ hescape _ _ _ _ _ hplain
    subst htext
    exact finds_plainChar limits start hescape hplain.1 (e :: rest)
  split at htext
  · rename_i hc
    subst htext
    exact finds_escaped start (finds_char_of_unit limits (finds_unit hc e rest))
  · rename_i hc
    subst htext
    exact finds_halves limits start (Nat.le_of_not_lt hc) e rest

/-! ### Strings -/

/-- A character of a string is not written with its closing quote. -/
theorem exists_escapeChar_eq_cons (c : Char) : ∃ d rest, escapeChar c = d :: rest ∧ d ≠ '"' := by
  generalize htext : escapeChar c = text
  unfold escapeChar at htext
  iterate 7
    split at htext
    · exact ⟨_, _, htext.symm, by decide⟩
  split at htext
  · rename_i hquote _ _ _ _ _ _ _
    exact ⟨_, _, htext.symm, hquote⟩
  split at htext
  · exact ⟨_, _, htext.symm, by decide⟩
  · exact ⟨_, _, htext.symm, by decide⟩

/-- The characters of a string are found one by one, behind those that were read before. -/
theorem finds_stringBody (limits : Limits) (read cs : List Char) {start rest s : List Char}
    (hs : s = cs.flatMap escapeChar ++ '"' :: rest) (h : s.length < start.length) :
    Finds (stringBody limits start read s h) (String.ofList (read.reverse ++ cs)) rest := by
  induction cs generalizing read s with
  | nil =>
    subst hs
    refine ⟨Nat.lt_of_succ_lt h, ?_⟩
    rw [stringBody, List.append_nil]
    rfl
  | cons c cs ih =>
    obtain ⟨e, tail, htail⟩ : ∃ e tail, cs.flatMap escapeChar ++ '"' :: rest = e :: tail :=
      List.exists_cons_of_ne_nil (by simp)
    rw [List.flatMap_cons, List.append_assoc, htail] at hs
    subst hs
    obtain ⟨hshorter, hscan⟩ := finds_escapeChar limits start c e tail
    obtain ⟨d, text, htext, hd⟩ := exists_escapeChar_eq_cons c
    -- No character is written as a quote, so the string does not end here.
    have hhead : (escapeChar c ++ e :: tail).head? ≠ some '"' := by
      rw [htext]
      exact fun hsome => hd (Option.some.inj hsome)
    have hrest := ih (c :: read) htail.symm (Nat.lt_trans hshorter h)
    rw [List.reverse_cons, List.append_assoc] at hrest
    rw [stringBody, if_neg hhead, hscan]
    exact hrest

/-- A string is read from its literal, whatever stands behind it. -/
theorem finds_stringLiteral (limits : Limits) (s : String) (rest : List Char) :
    Finds (scanString limits (stringLiteral s ++ rest)) s rest := by
  have hliteral : stringLiteral s ++ rest =
      '"' :: (s.toList.flatMap escapeChar ++ '"' :: rest) := by
    simp [stringLiteral]
  rw [hliteral]
  have hbody : Finds (scanString limits ('"' :: (s.toList.flatMap escapeChar ++ '"' :: rest)))
      (String.ofList ([].reverse ++ s.toList)) rest :=
    finds_stringBody limits [] s.toList rfl _
  rwa [List.reverse_nil, List.nil_append, String.ofList_toList] at hbody

end Json

end ContractDrill
