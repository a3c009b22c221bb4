import ContractDrill.Proofs.Json.Reading
import ContractDrill.Proofs.Number.Characters

/-!
# The wire format

What `Json.encode` writes is fit for the wire (`isWireFormat_encode`): it is read back as the value
that it was written for, it has only printable ASCII characters, and it has no space except inside
of string literals.  A text that was read, however it was set, is brought to this form once and for
all.

Where the string literals of a text are is said without the writer, by a scan that knows only quotes
and backslashes (`unquoted`).  The scan leaves nothing of a literal (`unquoted_stringLiteral`), and
all else that is written is made of marks, which it keeps.
-/

namespace ContractDrill

namespace Json

/-! ### Outside of string literals -/

/-- Where a character of a JSON text stands: outside of string literals, inside of one, or behind a
backslash inside of one. -/
inductive Region where
  | outside
  | literal
  | escape

/-- The characters of a text, which begins in the given region, that stand outside of its string
literals.  The quotes belong to the literals. -/
def unquoted : Region → List Char → List Char
  | _, [] => []
  | .outside, c :: rest =>
    if c = '"' then unquoted .literal rest else c :: unquoted .outside rest
  | .literal, c :: rest =>
    if c = '"' then unquoted .outside rest
    else if c = '\\' then unquoted .escape rest
    else unquoted .literal rest
  | .escape, _ :: rest => unquoted .literal rest

/-- A row of characters inside of a literal that neither end it nor escape another. -/
theorem unquoted_literal_append {row : List Char} (h : ∀ c ∈ row, c ≠ '"' ∧ c ≠ '\\')
    (rest : List Char) : unquoted .literal (row ++ rest) = unquoted .literal rest := by
  induction row with
  | nil => rfl
  | cons c row ih =>
    obtain ⟨hc, hrow⟩ := List.forall_mem_cons.mp h
    rw [List.cons_append, unquoted, if_neg hc.1, if_neg hc.2]
    exact ih hrow

/-! ### Characters of a string -/

theorem exists_of_mem_hexDigits {size n : Nat} {c : Char} (h : c ∈ hexDigits size n) :
    ∃ d < 16, c = Nat.digitChar d := by
  induction size generalizing n with
  | zero => cases h
  | succ size ih =>
    rw [hexDigits, List.mem_append, List.mem_singleton] at h
    rcases h with h | h
    · exact ih h
    · exact ⟨n % 16, Nat.mod_lt n (by decide), h⟩

/-- The character is printed, and ASCII. -/
def IsPrintable (c : Char) : Prop :=
  0x20 ≤ c.toNat ∧ c.toNat < 0x7f
  deriving Decidable

theorem hexDigit_plain {size n : Nat} {c : Char} (h : c ∈ hexDigits size n) :
    IsPrintable c ∧ c ≠ '"' ∧ c ≠ '\\' := by
  obtain ⟨d, hd, rfl⟩ := exists_of_mem_hexDigits h
  have hall : ∀ d < 16, IsPrintable (Nat.digitChar d) ∧ Nat.digitChar d ≠ '"' ∧
      Nat.digitChar d ≠ '\\' := by
    decide
  exact hall d hd

/-- The escape of a code unit is printable. -/
theorem isPrintable_of_mem_unicodeEscape {unit : Nat} {c : Char} (h : c ∈ unicodeEscape unit) :
    IsPrintable c := by
  unfold unicodeEscape at h
  rw [List.mem_cons, List.mem_cons] at h
  rcases h with rfl | rfl | h
  · decide
  · decide
  · exact (hexDigit_plain h).1

/-- Whatever a character is written as is printable. -/
theorem isPrintable_of_mem_escapeChar {c d : Char} (h : d ∈ escapeChar c) : IsPrintable d := by
  have hpair {e : Char} (he : IsPrintable e) (hd : d ∈ ['\\', e]) : IsPrintable d := by
    rcases List.mem_pair.mp hd with rfl | rfl
    · decide
    · exact he
  unfold escapeChar at h
  -- The short escapes come first.
  iterate 7
    split at h
    · exact hpair (by decide) h
  split at h
  · rename_i hplain
    obtain rfl := List.mem_singleton.mp h
    exact hplain
  split at h
  · exact isPrintable_of_mem_unicodeEscape h
  · rcases List.mem_append.mp h with h | h
    · exact isPrintable_of_mem_unicodeEscape h
    · exact isPrintable_of_mem_unicodeEscape h

/-- The escape of a code unit leaves the scan inside of the literal. -/
theorem unquoted_unicodeEscape (unit : Nat) (rest : List Char) :
    unquoted .literal (unicodeEscape unit ++ rest) = unquoted .literal rest := by
  show unquoted .literal (hexDigits 4 unit ++ rest) = _
  exact unquoted_literal_append (fun _ hc => (hexDigit_plain hc).2) rest

/-- Behind what writes a character the literal goes on. -/
theorem unquoted_escapeChar (c : Char) (rest : List Char) :
    unquoted .literal (escapeChar c ++ rest) = unquoted .literal rest := by
  generalize htext : escapeChar c = text
  unfold escapeChar at htext
  iterate 7
    split at htext
    · subst htext
      rfl
  -- A character that is written as itself is no quote and no backslash.
  split at htext
  · rename_i hquote hescape _ _ _ _ _ _
    subst htext
    exact unquoted_literal_append (by simpa using ⟨hquote, hescape⟩) rest
  split at htext
  · subst htext
    exact unquoted_unicodeEscape _ rest
  · subst htext
    rw [List.append_assoc, unquoted_unicodeEscape, unquoted_unicodeEscape]

/-- The scan leaves nothing of a string literal. -/
theorem unquoted_stringLiteral (s : String) (rest : List Char) :
    unquoted .outside (stringLiteral s ++ rest) = unquoted .outside rest := by
  have hbody (cs : List Char) :
      unquoted .literal (cs.flatMap escapeChar ++ '"' :: rest) = unquoted .outside rest := by
    induction cs with
    | nil => rfl
    | cons c cs ih => rw [List.flatMap_cons, List.append_assoc, unquoted_escapeChar, ih]
  have htext : stringLiteral s ++ rest =
      '"' :: (s.toList.flatMap escapeChar ++ '"' :: rest) := by
    simp [stringLiteral]
  rw [htext, unquoted, if_pos rfl]
  exact hbody s.toList

/-! ### Marks -/

/-- The character is printed and takes ink, and it is no quote. -/
def IsMark (c : Char) : Prop :=
  0x20 < c.toNat ∧ c.toNat < 0x7f ∧ c ≠ '"'
  deriving Decidable

theorem IsMark.isPrintable {c : Char} (h : IsMark c) : IsPrintable c :=
  ⟨h.1.le, h.2.1⟩

theorem isMark_of_isDigit {c : Char} (h : c.isDigit = true) : IsMark c := by
  obtain ⟨hzero, hnine⟩ := Char.isDigit_iff_toNat.mp h
  have hlow : '0'.toNat = 48 := rfl
  have hhigh : '9'.toNat = 57 := rfl
  exact ⟨by omega, by omega, ne_of_isDigit h (by decide)⟩

/-- All characters are marks. -/
abbrev AllMarks (s : List Char) : Prop := ∀ c ∈ s, IsMark c

theorem allMarks_of_all {s : List Char} (h : s.all (fun c => decide (IsMark c)) = true) :
    AllMarks s := by
  intro c hc
  exact of_decide_eq_true (List.all_eq_true.mp h c hc)

/-- The characters of numbers are marks. -/
theorem isMark_of_isNumeric {c : Char} (h : IsNumeric c) : IsMark c := by
  rcases h with hdigit | rfl | rfl | rfl | rfl
  · exact isMark_of_isDigit hdigit
  all_goals decide

theorem allMarks_integerLiteral (n : Int) : AllMarks (integerLiteral n) :=
  fun c hc => isMark_of_isNumeric (allNumeric_integerLiteral n c hc)

theorem allMarks_literal (x : Binary64) : AllMarks x.literal.toList :=
  NumberLayout.forall_mem_writeWith (fun _ => isMark_of_isNumeric) (allMarks_of_all (by decide))
    (allMarks_of_all (by decide)) _ x

/-! ### Texts without space -/

/-- The text is printable ASCII, and has no space outside of string literals, whatever stands behind
it. -/
structure IsCompact (text : List Char) : Prop where
  isPrintable : ∀ c ∈ text, IsPrintable c
  unquoted_append : ∃ kept, ' ' ∉ kept ∧
    ∀ rest, unquoted .outside (text ++ rest) = kept ++ unquoted .outside rest

/-- A text of marks is compact. -/
theorem AllMarks.isCompact {text : List Char} (h : AllMarks text) : IsCompact text where
  isPrintable c hc := (h c hc).isPrintable
  unquoted_append := by
    refine ⟨text, fun hspace => absurd (h ' ' hspace) (by decide), fun rest => ?_⟩
    induction text with
    | nil => rfl
    | cons c text ih =>
      obtain ⟨hc, htext⟩ := List.forall_mem_cons.mp h
      rw [List.cons_append, unquoted, if_neg hc.2.2, ih htext]
      rfl

/-- A string literal is compact: the scan leaves nothing of it, spaces and all. -/
theorem isCompact_stringLiteral (s : String) : IsCompact (stringLiteral s) where
  isPrintable := by
    unfold stringLiteral
    simp only [List.cons_append, List.forall_mem_cons, List.forall_mem_append]
    refine ⟨by decide, fun c hc => ?_, by decide, by simp⟩
    obtain ⟨d, -, hd⟩ := List.mem_flatMap.mp hc
    exact isPrintable_of_mem_escapeChar hd
  unquoted_append := ⟨[], List.not_mem_nil, unquoted_stringLiteral s⟩

/-- Compact texts are put together to a compact one. -/
theorem IsCompact.append {text text' : List Char} (h : IsCompact text) (h' : IsCompact text') :
    IsCompact (text ++ text') where
  isPrintable := List.forall_mem_append.mpr ⟨h.isPrintable, h'.isPrintable⟩
  unquoted_append := by
    obtain ⟨kept, hspace, hkept⟩ := h.unquoted_append
    obtain ⟨kept', hspace', hkept'⟩ := h'.unquoted_append
    refine ⟨kept ++ kept', ?_, fun rest => ?_⟩
    · rw [List.mem_append, not_or]
      exact ⟨hspace, hspace'⟩
    · rw [List.append_assoc, hkept, hkept', List.append_assoc]

theorem IsCompact.cons {mark : Char} {text : List Char} (hmark : IsMark mark)
    (h : IsCompact text) : IsCompact (mark :: text) := by
  have hsingle : AllMarks [mark] := by
    intro c hc
    rw [List.mem_singleton.mp hc]
    exact hmark
  exact hsingle.isCompact.append h

theorem isCompact_nil : IsCompact [] where
  isPrintable _ hc := absurd hc List.not_mem_nil
  unquoted_append := ⟨[], List.not_mem_nil, fun _ => rfl⟩

/-- No space stands outside of the string literals of a compact text. -/
theorem IsCompact.space_notMem {text : List Char} (h : IsCompact text) :
    ' ' ∉ unquoted .outside text := by
  obtain ⟨kept, hspace, hkept⟩ := h.unquoted_append
  have hnil := hkept []
  rw [List.append_nil] at hnil
  rwa [hnil, unquoted, List.append_nil]

mutual

/-- Every value is written as a compact text, by recursion on the value. -/
theorem isCompact_chars : (value : Json) → IsCompact (chars ⟨[], []⟩ value)
  | .null => (allMarks_of_all (by decide)).isCompact
  | .bool true => (allMarks_of_all (by decide)).isCompact
  | .bool false => (allMarks_of_all (by decide)).isCompact
  | .integer n => (allMarks_integerLiteral n).isCompact
  | .number x => (allMarks_literal x).isCompact
  | .string s => isCompact_stringLiteral s
  | .array items => by
    rw [chars]
    exact ((isCompact_itemChars items).append (isCompact_nil.cons (by decide))).cons (by decide)
  | .object members => by
    rw [chars]
    exact ((isCompact_memberChars members).append (isCompact_nil.cons (by decide))).cons
      (by decide)

theorem isCompact_itemChars : (items : List Json) → IsCompact (itemChars ⟨[], []⟩ items)
  | [] => isCompact_nil
  | [item] => isCompact_chars item
  | item :: next :: rest => by
    have hitem := isCompact_chars item
    have hitems := isCompact_itemChars (next :: rest)
    rw [itemChars]
    · simp only [List.append_assoc, List.cons_append, List.nil_append]
      exact hitem.append (hitems.cons (by decide))
    · exact List.cons_ne_nil _ _

theorem isCompact_memberChars :
    (members : List (String × Json)) → IsCompact (memberChars ⟨[], []⟩ members)
  | [] => isCompact_nil
  | [(name, value)] => by
    have hname := isCompact_stringLiteral name
    have hvalue := isCompact_chars value
    rw [memberChars]
    simp only [List.append_assoc, List.cons_append, List.nil_append]
    exact hname.append (hvalue.cons (by decide))
  | (name, value) :: next :: rest => by
    have hname := isCompact_stringLiteral name
    have hvalue := isCompact_chars value
    have hmembers := isCompact_memberChars (next :: rest)
    rw [memberChars]
    · simp only [List.append_assoc, List.cons_append, List.nil_append]
      exact hname.append ((hvalue.append (hmembers.cons (by decide))).cons (by decide))
    · exact List.cons_ne_nil _ _

end

theorem isCompact_encode (value : Json) : IsCompact value.encode.toList := by
  rw [encode, String.toList_ofList]
  exact isCompact_chars value

/-! ### What is sent -/

/-- Texts that are fit to be sent: a value that the reader can take is read back from its text, with
its members in their order, and the text is printed ASCII without a space outside of string
literals. -/
structure IsWireFormat (limits : Limits) (write : Json → String) : Prop where
  reads : ∀ value, Fits limits limits.depth value → decode limits (write value) = .ok value
  isPrintable : ∀ value, ∀ c ∈ (write value).toList, IsPrintable c
  space_notMem : ∀ value, ' ' ∉ unquoted .outside (write value).toList
  /-- No two values have one text. -/
  injective : ∀ value value', Fits limits limits.depth value → Fits limits limits.depth value' →
    write value = write value' → value = value'
  /-- What was read once, from a text with any gaps, escapes and repeated names, is written as a
  text that is read as the same value, and so is written as the same text again. -/
  settles : ∀ text value, decode limits text = .ok value →
    decode limits (write value) = .ok value ∧
      (decode limits (write value)).map write = .ok (write value)

theorem decode_encode (limits : Limits) {value : Json} (h : Fits limits limits.depth value) :
    decode limits value.encode = .ok value :=
  decode_of_isTextOf limits h (isTextOf_encode value)

/-- **`encode` is a faithful wire format.** -/
theorem isWireFormat_encode (limits : Limits) : IsWireFormat limits encode where
  reads _ h := decode_encode limits h
  isPrintable value := (isCompact_encode value).isPrintable
  space_notMem value := (isCompact_encode value).space_notMem
  injective value value' h h' heq := by
    have hread := decode_encode limits h
    rw [heq, decode_encode limits h'] at hread
    exact (Except.ok.inj hread).symm
  settles text value h := by
    have hread := decode_encode limits (fits_of_decode h)
    refine ⟨hread, ?_⟩
    rw [hread]
    rfl

-- A repeated name, an escape and the gaps are gone once the text was read.
example :
    (decode .usual " \x7b \"b\" : 1, \"a\" : \"\\u0041 b\", \"b\" : -0 \x7d ").map encode =
      .ok "\x7b\"b\":0,\"a\":\"A b\"\x7d" := by
  decide +kernel

end Json

end ContractDrill
