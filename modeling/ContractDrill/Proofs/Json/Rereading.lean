import ContractDrill.Proofs.Json.Number

/-!
# Reading what was written

What a reader makes of a written value depends on the value and its limits alone (`reread`), not on
the gaps of the text or on what stands behind it: it comes to the value with its repeated names
merged, or it stops at the first integer or bracket that is too much for it (`decode_eq_reread`).

The proof is an induction on the brackets that may still be open.  What a value comes to at the
front of a text is the same whatever stands behind it, as long as that ends a number
(`comesTo_chars`); for arrays and objects this comes down to one lemma on items between brackets
(`comesTo_bracket`).
-/

namespace ContractDrill

namespace Json

/-! ### What stands around a value -/

/-- The characters with which a value can begin. -/
def opensValue (c : Char) : Bool :=
  c.isDigit || c ∈ ['"', '-', 'I', 'N', '[', '\x7b', 'f', 'n', 't']

theorem ne_of_opensValue {c mark : Char} (h : opensValue c = true)
    (hmark : opensValue mark = false) : c ≠ mark := by
  rintro rfl
  rw [h] at hmark
  cases hmark

theorem isGap_of_opensValue {c : Char} (h : opensValue c = true) : isGap c = false := by
  simp only [isGap, Bool.or_eq_false_iff, decide_eq_false_iff_not]
  exact ⟨⟨⟨ne_of_opensValue h (by decide), ne_of_opensValue h (by decide)⟩,
    ne_of_opensValue h (by decide)⟩, ne_of_opensValue h (by decide)⟩

/-- The text begins as a value does. -/
def Opens (text : List Char) : Prop :=
  ∃ c rest, text = c :: rest ∧ opensValue c = true

theorem Opens.append {text : List Char} (h : Opens text) (rest : List Char) :
    Opens (text ++ rest) := by
  obtain ⟨c, tail, rfl, hc⟩ := h
  exact ⟨c, tail ++ rest, rfl, hc⟩

/-- Gaps in front of a value are skipped, and no more. -/
theorem skipGaps_append_of_opens {gaps text : List Char} (hgaps : AllGaps gaps)
    (h : Opens text) : skipGaps (gaps ++ text) = text := by
  obtain ⟨c, rest, rfl, hc⟩ := h
  exact skipGaps_append hgaps (isGap_of_opensValue hc) rest

theorem skipGaps_of_opens {text : List Char} (h : Opens text) : skipGaps text = text :=
  skipGaps_append_of_opens (fun _ hc => absurd hc List.not_mem_nil) h

theorem opens_of_isDigit {d : Char} (hd : d.isDigit = true) (rest : List Char) :
    Opens (d :: rest) := by
  refine ⟨d, rest, rfl, ?_⟩
  unfold opensValue
  rw [hd, Bool.true_or]

theorem opens_integerLiteral (n : Int) : Opens (integerLiteral n) := by
  unfold integerLiteral
  by_cases hn : n < 0
  · rw [if_pos hn]
    exact ⟨'-', _, rfl, by decide⟩
  · obtain ⟨d, rest, hdigits, hd⟩ := exists_toDigits_eq_cons n.natAbs
    rw [if_neg hn, hdigits]
    exact opens_of_isDigit hd rest

theorem opens_stringLiteral (s : String) : Opens (stringLiteral s) :=
  ⟨'"', _, rfl, by decide⟩

/-- A number is written with a digit in front, or with a minus sign. -/
theorem opens_write (layout : NumberLayout) (negative : Bool) (d : Decimal) :
    Opens (layout.write negative d).toList := by
  -- The first digit is written first, but for a sign or for a zero in front of the point.
  obtain ⟨first, digits, hdigits, hfirst⟩ := exists_toDigits_eq_cons d.digits
  unfold NumberLayout.write
  rw [String.toList_ofList, hdigits]
  cases negative with
  | true => exact ⟨'-', _, rfl, by decide⟩
  | false =>
    rw [if_neg Bool.false_ne_true]
    split
    · unfold NumberLayout.positional
      split
      · exact opens_of_isDigit (d := '0') (by decide) _
      · dsimp only
        rw [List.take_succ_cons]
        split
        · split
          · exact opens_of_isDigit hfirst _
          · exact opens_of_isDigit hfirst _
        · exact opens_of_isDigit hfirst _
    · unfold NumberLayout.scientific
      cases digits with
      | nil => exact opens_of_isDigit hfirst _
      | cons second digits => exact opens_of_isDigit hfirst _

/-- A number opens with a digit, a minus sign or the first letter of a name. -/
theorem opens_literal (x : Binary64) : Opens x.literal.toList := by
  cases x with
  | nan => exact ⟨'N', _, rfl, by decide⟩
  | infinity negative => cases negative <;> exact ⟨_, _, rfl, by decide⟩
  | finite negative mantissa exponent canonical =>
    unfold Binary64.literal NumberLayout.writeWith
    dsimp only
    split
    · exact opens_write _ _ _
    · exact opens_write _ _ _

/-- The text of a value begins as a value does. -/
theorem opens_chars (spacing : Spacing) (value : Json) : Opens (chars spacing value) := by
  cases value with
  | null => exact ⟨'n', _, rfl, by decide⟩
  | bool value => cases value <;> exact ⟨_, _, rfl, by decide⟩
  | integer n => exact opens_integerLiteral n
  | number x => exact opens_literal x
  | string s => exact opens_stringLiteral s
  | array items => exact ⟨'[', _, rfl, by decide⟩
  | object members => exact ⟨'\x7b', _, rfl, by decide⟩

theorem endsNumber_nil : EndsNumber [] := by
  intro c hc
  cases hc

/-- A comma, a closing bracket or a gap ends a number. -/
theorem endsNumber_cons {c : Char} (h : c ∈ [',', ']', '\x7d'] ∨ isGap c = true)
    (rest : List Char) : EndsNumber (c :: rest) := by
  intro d hd
  obtain rfl : c = d := Option.some.inj hd
  have hmarks : c = ',' ∨ c = ']' ∨ c = '\x7d' ∨ c = ' ' ∨ c = '\t' ∨ c = '\n' ∨ c = '\r' := by
    simpa [isGap, or_assoc] using h
  rcases hmarks with rfl | rfl | rfl | rfl | rfl | rfl | rfl <;> decide

/-! ### Items between brackets -/

/-- Texts with a comma between each two of them, and the characters `behindComma` behind it. -/
def separated (behindComma : List Char) : List (List Char) → List Char
  | [] => []
  | [text] => text
  | text :: rest => text ++ ',' :: behindComma ++ separated behindComma rest

/-- The text of a member. -/
def memberText (spacing : Spacing) (member : String × Json) : List Char :=
  stringLiteral member.1 ++ ':' :: spacing.behindColon ++ chars spacing member.2

theorem itemChars_eq (spacing : Spacing) (items : List Json) :
    itemChars spacing items = separated spacing.behindComma (items.map (chars spacing)) := by
  induction items with
  | nil => rfl
  | cons item rest ih =>
    cases rest with
    | nil => rfl
    | cons next rest =>
      rw [itemChars, ih]
      · rfl
      · exact List.cons_ne_nil _ _

theorem memberChars_eq (spacing : Spacing) (members : Members) :
    memberChars spacing members =
      separated spacing.behindComma (members.map (memberText spacing)) := by
  induction members with
  | nil => rfl
  | cons member rest ih =>
    cases rest with
    | nil => rfl
    | cons next rest =>
      rw [memberChars, ih]
      · rfl
      · exact List.cons_ne_nil _ _

section

variable {α β : Type} {close : Char} {item : (s : List Char) → Except Stop (Scanned s β)}
  {outcome : α → Except Stop β} (text : α → List Char) {behindComma : List Char}

/-- Separated texts open as the first of them does. -/
theorem Opens.separated {text : α → List Char} (behindComma : List Char) {values : List α}
    (hne : values ≠ []) (h : ∀ value ∈ values, Opens (text value)) :
    Opens (separated behindComma (values.map text)) := by
  match values with
  | [] => exact absurd rfl hne
  | [value] => exact h value (by simp)
  | value :: next :: rest =>
    have hvalue := h value (by simp)
    show Opens (text value ++ ',' :: behindComma ++ _)
    rw [List.append_assoc]
    exact hvalue.append _

/-- A bracket that closes is no gap, does not open a value, and is no comma. -/
theorem of_mem_brackets (hclose : close ∈ [']', '\x7d']) :
    isGap close = false ∧ opensValue close = false ∧ ',' ≠ close := by
  simp only [List.mem_cons, List.not_mem_nil, or_false] at hclose
  rcases hclose with rfl | rfl <;> decide

/-- An item that stops the scan stops it for all items. -/
theorem scanItems_of_stop {s : List Char} {stop : Stop} (h : item s = .error stop)
    (read : List β) : scanItems close item read s = .error stop := by
  rw [scanItems, h]

/-- Behind an item the bracket closes. -/
theorem finds_scanItems_of_close {s rest : List Char} {found : β}
    (hgap : isGap close = false) (h : Finds (item s) found (close :: rest)) (read : List β) :
    Finds (scanItems close item read s) (read.reverse ++ [found]) rest := by
  obtain ⟨hshorter, hscan⟩ := h
  refine ⟨Nat.lt_of_succ_lt hshorter, ?_⟩
  rw [scanItems, hscan]
  dsimp only
  rw [scanMark_cons hgap]
  dsimp only
  rw [if_pos rfl, List.reverse_cons]

/-- Behind an item and a comma the scan goes on with the next item, behind the gaps. -/
theorem comesTo_scanItems_of_comma {s tail rest : List Char} {found : β} (hcomma : ',' ≠ close)
    (h : Finds (item s) found (',' :: tail)) {read : List β} {outcome : Except Stop (List β)}
    (hnext : ComesTo (scanItems close item (found :: read) (skipGaps tail)) outcome rest) :
    ComesTo (scanItems close item read s) outcome rest := by
  obtain ⟨hshorter, hscan⟩ := h
  have hle : (skipGaps tail).length ≤ s.length := by
    have := length_skipGaps_le tail
    rw [List.length_cons] at hshorter
    omega
  have hgoes : scanItems close item read s =
      (scanItems close item (found :: read) (skipGaps tail)).map (·.widen hle) := by
    rw [scanItems, hscan]
    dsimp only
    rw [scanMark_cons (by decide)]
    dsimp only
    rw [if_neg hcomma, if_pos rfl]
    cases scanItems close item (found :: read) (skipGaps tail) <;> rfl
  rw [hgoes, ← id_map outcome]
  refine hnext.onward id hle (fun stop h => ?_) fun items h => ?_
  · rw [h]
    rfl
  · rw [h]
    rfl

/-- Items are scanned up to the bracket that closes them, or up to the first that stops the scan. -/
theorem comesTo_items (hclose : close ∈ [']', '\x7d']) (hgaps : AllGaps behindComma)
    {values : List α} (hne : values ≠ []) (hopens : ∀ value ∈ values, Opens (text value))
    (hitem : ∀ value ∈ values, ∀ rest, EndsNumber rest →
      ComesTo (item (text value ++ rest)) (outcome value) rest) (read : List β)
    (rest : List Char) :
    ComesTo (scanItems close item read (separated behindComma (values.map text) ++ close :: rest))
      ((read.reverse ++ ·) <$> values.mapM outcome) rest := by
  obtain ⟨hgap, -, hcomma⟩ := of_mem_brackets hclose
  induction values generalizing read with
  | nil => exact absurd rfl hne
  | cons value values ih =>
  -- Behind the last value the bracket closes; behind any other a comma and the next one follow.
  cases values with
  | nil =>
    have hvalue := hitem value (by simp) (close :: rest)
      (endsNumber_cons (.inl (List.mem_cons_of_mem _ hclose)) rest)
    show ComesTo (scanItems close item read (text value ++ close :: rest)) _ _
    rw [List.mapM_cons, List.mapM_nil]
    cases houtcome : outcome value with
    | error stop =>
      rw [houtcome] at hvalue
      exact scanItems_of_stop hvalue read
    | ok found =>
      rw [houtcome] at hvalue
      exact finds_scanItems_of_close hgap hvalue read
  | cons next values =>
    have hopens' := fun value h => hopens value (List.mem_cons_of_mem _ h)
    obtain ⟨tail, htail⟩ : ∃ tail, behindComma ++
        (separated behindComma ((next :: values).map text) ++ close :: rest) = tail := ⟨_, rfl⟩
    -- The rest has to be seen as the text of one value in front of a comma.
    have hsplit : separated behindComma ((value :: next :: values).map text) ++ close :: rest =
        text value ++ ',' :: tail := by
      rw [← htail]
      simp [separated]
    have hvalue := hitem value (by simp) (',' :: tail) (endsNumber_cons (.inl (by simp)) tail)
    rw [hsplit, List.mapM_cons]
    cases houtcome : outcome value with
    | error stop =>
      rw [houtcome] at hvalue
      exact scanItems_of_stop hvalue read
    | ok found =>
      rw [houtcome] at hvalue
      have hrest := ih (List.cons_ne_nil _ _) hopens'
        (fun value h => hitem value (List.mem_cons_of_mem _ h)) (found :: read)
      -- The scan goes on behind the gaps, at the next value.
      rw [← skipGaps_append_of_opens hgaps
        ((Opens.separated _ (List.cons_ne_nil _ _) hopens').append _), htail] at hrest
      refine comesTo_scanItems_of_comma hcomma hvalue ?_
      have houtcomes (founds : Except Stop (List β)) :
          ((read.reverse ++ ·) <$> do let founds ← founds; pure (found :: founds)) =
            (((found :: read).reverse ++ ·) <$> founds : Except Stop (List β)) := by
        cases founds with
        | error stop => rfl
        | ok founds => exact congrArg Except.ok (by simp)
      exact (houtcomes _).symm ▸ hrest

/-- What a reader makes of brackets that are open beyond the depth. -/
def rereadBeyond (limits : Limits) (bracket : Bracket) (isEmpty : Bool) : Except Stop Unit :=
  if limits.emptyBeyond && isEmpty then .ok () else .error (.depth bracket)

/-- Beyond the depth it is told by the first mark whether something stands between the brackets. -/
theorem comesTo_beyond (behindComma : List Char) (hclose : close ∈ [']', '\x7d'])
    (limits : Limits) (bracket : Bracket) {values : List α}
    (hopens : ∀ value ∈ values, Opens (text value)) (rest : List Char) :
    ComesTo (scanBeyond limits bracket close
        (separated behindComma (values.map text) ++ close :: rest))
      (rereadBeyond limits bracket values.isEmpty) rest := by
  obtain ⟨hgap, hopening, -⟩ := of_mem_brackets hclose
  unfold scanBeyond rereadBeyond
  -- Between the brackets there is nothing, or what opens a value, which no bracket that closes
  -- does.
  by_cases hne : values = []
  · subst hne
    rw [List.map_nil, separated, List.nil_append, scanMark_cons hgap, List.isEmpty_nil,
      Bool.and_true]
    cases limits.emptyBeyond with
    | false => rfl
    | true => exact ⟨Nat.lt_succ_self _, if_pos ⟨rfl, rfl⟩⟩
  · obtain ⟨c, tail, htail, hc⟩ :=
      (Opens.separated behindComma hne hopens).append (close :: rest)
    rw [List.isEmpty_eq_false_iff.mpr hne, Bool.and_false, htail,
      scanMark_cons (isGap_of_opensValue hc)]
    exact if_neg fun hand => ne_of_opensValue hc hopening hand.2

/-- Whatever stands between two brackets is scanned, be it nothing. -/
theorem comesTo_bracket (hclose : close ∈ [']', '\x7d']) (hgaps : AllGaps behindComma)
    {values : List α} (hopens : ∀ value ∈ values, Opens (text value))
    (hitem : ∀ value ∈ values, ∀ rest, EndsNumber rest →
      ComesTo (item (text value ++ rest)) (outcome value) rest) (rest : List Char) :
    ComesTo (scanBracket close item (separated behindComma (values.map text) ++ close :: rest))
      (values.mapM outcome) rest := by
  obtain ⟨hgap, hopening, -⟩ := of_mem_brackets hclose
  by_cases hne : values = []
  · subst hne
    refine ⟨Nat.lt_succ_self _, ?_⟩
    show scanBracket close item (close :: rest) = _
    unfold scanBracket
    dsimp only
    rw [scanMark_cons hgap]
    dsimp only
    rw [if_pos rfl]
    rfl
  · have hitems := comesTo_items text hclose hgaps hne hopens hitem [] rest
    obtain ⟨c, tail, htail, hc⟩ :=
      (Opens.separated behindComma hne hopens).append (close :: rest)
    rw [htail] at hitems ⊢
    rw [← skipGaps_of_opens ⟨c, tail, rfl, hc⟩] at hitems
    unfold scanBracket
    dsimp only
    rw [scanMark_cons (isGap_of_opensValue hc)]
    dsimp only
    rw [if_neg (ne_of_opensValue hc hopening)]
    simp only [List.reverse_nil, List.nil_append, id_map'] at hitems
    rw [← id_map (values.mapM outcome)]
    refine hitems.onward id (length_skipGaps_le _) (fun stop h => ?_) fun found h => ?_
    · rw [h]
    · rw [h]
      rfl

end

/-- A member comes to what its value comes to, with its name. -/
theorem comesTo_memberText (limits : Limits) {spacing : Spacing}
    {value : (s : List Char) → Except Stop (Scanned s Json)} (hgaps : AllGaps spacing.behindColon)
    {member : String × Json} {outcome : Except Stop Json} {rest : List Char}
    (hvalue : ComesTo (value (chars spacing member.2 ++ rest)) outcome rest) :
    ComesTo (scanMember limits value (memberText spacing member ++ rest))
      ((member.1, ·) <$> outcome) rest := by
  have hopens := (opens_chars spacing member.2).append rest
  -- The value is scanned behind the gaps that follow the colon.
  rw [← skipGaps_append_of_opens hgaps hopens] at hvalue
  obtain ⟨hshorter, hscan⟩ := finds_stringLiteral limits member.1
    (':' :: (spacing.behindColon ++ (chars spacing member.2 ++ rest)))
  have htext : memberText spacing member ++ rest = stringLiteral member.1 ++
      ':' :: (spacing.behindColon ++ (chars spacing member.2 ++ rest)) := by
    simp [memberText]
  rw [htext]
  unfold scanMember
  rw [hscan]
  dsimp only
  rw [scanMark_cons (by decide)]
  dsimp only
  rw [if_pos rfl]
  have hle : (skipGaps (spacing.behindColon ++ (chars spacing member.2 ++ rest))).length ≤
      (stringLiteral member.1 ++
        ':' :: (spacing.behindColon ++ (chars spacing member.2 ++ rest))).length := by
    have := length_skipGaps_le (spacing.behindColon ++ (chars spacing member.2 ++ rest))
    rw [List.length_cons] at hshorter
    omega
  refine hvalue.onward (member.1, ·) hle (fun stop h => ?_) fun found h => ?_
  · rw [h]
  · rw [h]

/-! ### Values -/

/-- What a reader makes of the text of a value, inside of which `depth` more brackets may be open:
the value with its repeated names merged, or the first integer or bracket that is too much. -/
def reread (limits : Limits) (depth : Nat) (value : Json) : Except Stop Json :=
  match value with
  | .null => .ok .null
  | .bool value => .ok (.bool value)
  | .integer n => rereadInteger n
  | .number x => .ok (.number x)
  | .string s => .ok (.string s)
  | .array items =>
    match depth with
    | 0 => (fun _ => .array []) <$> rereadBeyond limits .array items.isEmpty
    | depth + 1 => .array <$> items.mapM (reread limits depth)
  | .object members =>
    match depth with
    | 0 => (fun _ => .object []) <$> rereadBeyond limits .object members.isEmpty
    | depth + 1 =>
      (fun members => .object (mergeMembers members)) <$>
        members.mapM fun member => (member.1, ·) <$> reread limits depth member.2

section

variable (limits : Limits) (depth : Nat)

@[simp] theorem reread_null : reread limits depth .null = .ok .null := by rw [reread]

@[simp] theorem reread_bool (value : Bool) :
    reread limits depth (.bool value) = .ok (.bool value) := by
  rw [reread]

@[simp] theorem reread_integer (n : Int) :
    reread limits depth (.integer n) = rereadInteger n := by
  rw [reread]

@[simp] theorem reread_number (x : Binary64) :
    reread limits depth (.number x) = .ok (.number x) := by
  rw [reread]

@[simp] theorem reread_string (s : String) :
    reread limits depth (.string s) = .ok (.string s) := by
  rw [reread]

end

/-- Only gaps stand behind commas and colons. -/
structure Spacing.IsGap (spacing : Spacing) : Prop where
  behindComma : AllGaps spacing.behindComma
  behindColon : AllGaps spacing.behindColon

theorem chars_array_append (spacing : Spacing) (items : List Json) (rest : List Char) :
    chars spacing (.array items) ++ rest =
      '[' :: (separated spacing.behindComma (items.map (chars spacing)) ++ ']' :: rest) := by
  rw [chars, itemChars_eq]
  simp

theorem chars_object_append (spacing : Spacing) (members : Members) (rest : List Char) :
    chars spacing (.object members) ++ rest =
      '\x7b' :: (separated spacing.behindComma (members.map (memberText spacing)) ++
        '\x7d' :: rest) := by
  rw [chars, memberChars_eq]
  simp

theorem opens_memberText (spacing : Spacing) (member : String × Json) :
    Opens (memberText spacing member) :=
  ((opens_stringLiteral member.1).append _).append _

/-- Beyond the depth an array is scanned just if there is nothing in it. -/
theorem comesTo_array_zero (limits : Limits) (spacing : Spacing) (items : List Json)
    (rest : List Char) :
    ComesTo (scanValue limits 0 (chars spacing (.array items) ++ rest))
      (reread limits 0 (.array items)) rest := by
  have hclose : ']' ∈ [']', '\x7d'] := by decide
  have hbeyond := comesTo_beyond (chars spacing) spacing.behindComma hclose limits .array
    (fun item (_ : item ∈ items) => opens_chars spacing item) rest
  rw [chars_array_append, scanValue, reread]
  refine hbeyond.onward (fun _ => Json.array []) (Nat.le_succ _) ?_ ?_
  · intro stop h
    rw [h]
  · intro found h
    rw [h]

/-- An object where no bracket may be open any more. -/
theorem comesTo_object_zero (limits : Limits) (spacing : Spacing) (members : Members)
    (rest : List Char) :
    ComesTo (scanValue limits 0 (chars spacing (.object members) ++ rest))
      (reread limits 0 (.object members)) rest := by
  have hclose : '\x7d' ∈ [']', '\x7d'] := by decide
  have hbeyond := comesTo_beyond (memberText spacing) spacing.behindComma hclose limits .object
    (fun member (_ : member ∈ members) => opens_memberText spacing member) rest
  rw [chars_object_append, scanValue, reread]
  refine hbeyond.onward (fun _ => Json.object []) (Nat.le_succ _) ?_ ?_
  · intro stop h
    rw [h]
  · intro found h
    rw [h]

/-- An array comes to what its items come to. -/
theorem comesTo_array {limits : Limits} {spacing : Spacing} (hspacing : spacing.IsGap)
    {depth : Nat} {items : List Json}
    (hitem : ∀ item ∈ items, ∀ rest, EndsNumber rest →
      ComesTo (scanValue limits depth (chars spacing item ++ rest)) (reread limits depth item) rest)
    (rest : List Char) :
    ComesTo (scanValue limits (depth + 1) (chars spacing (.array items) ++ rest))
      (reread limits (depth + 1) (.array items)) rest := by
  have hclose : ']' ∈ [']', '\x7d'] := by decide
  have hbracket := comesTo_bracket (chars spacing) hclose hspacing.behindComma
    (fun item _ => opens_chars spacing item) hitem rest
  rw [chars_array_append, scanValue, reread]
  refine hbracket.onward Json.array (Nat.le_succ _) ?_ ?_
  · intro stop h
    rw [h]
  · intro found h
    rw [h]

/-- An object comes to what its members come to, with repeated names merged. -/
theorem comesTo_object {limits : Limits} {spacing : Spacing} (hspacing : spacing.IsGap)
    {depth : Nat} {members : Members}
    (hvalue : ∀ member ∈ members, ∀ rest, EndsNumber rest →
      ComesTo (scanValue limits depth (chars spacing member.2 ++ rest))
        (reread limits depth member.2) rest) (rest : List Char) :
    ComesTo (scanValue limits (depth + 1) (chars spacing (.object members) ++ rest))
      (reread limits (depth + 1) (.object members)) rest := by
  have hclose : '\x7d' ∈ [']', '\x7d'] := by decide
  have hbracket := comesTo_bracket (memberText spacing) hclose hspacing.behindComma
    (fun member _ => opens_memberText spacing member)
    (fun member h rest hrest =>
      comesTo_memberText limits hspacing.behindColon (hvalue member h rest hrest)) rest
  rw [chars_object_append, scanValue, reread]
  refine hbracket.onward (fun found => Json.object (mergeMembers found)) (Nat.le_succ _) ?_ ?_
  · intro stop h
    rw [h]
  · intro found h
    rw [h]

/-- What a value comes to at the front of a text, if what stands behind it ends a number. -/
theorem comesTo_chars (limits : Limits) {spacing : Spacing} (hspacing : spacing.IsGap)
    (depth : Nat) (value : Json) {rest : List Char} (hrest : EndsNumber rest) :
    ComesTo (scanValue limits depth (chars spacing value ++ rest))
      (reread limits depth value) rest := by
  induction depth using Nat.strongRecOn generalizing value rest with
  | _ depth ih =>
  cases value with
  | null =>
    rw [reread_null]
    show Finds (scanValue limits depth ('n' :: 'u' :: 'l' :: 'l' :: rest)) _ _
    exact ⟨by simp only [List.length_cons]; omega, by rw [scanValue]⟩
  | bool value =>
    rw [reread_bool]
    cases value with
    | false =>
      show Finds (scanValue limits depth ('f' :: 'a' :: 'l' :: 's' :: 'e' :: rest)) _ _
      exact ⟨by simp only [List.length_cons]; omega, by rw [scanValue]⟩
    | true =>
      show Finds (scanValue limits depth ('t' :: 'r' :: 'u' :: 'e' :: rest)) _ _
      exact ⟨by simp only [List.length_cons]; omega, by rw [scanValue]⟩
  | integer n =>
    rw [reread_integer]
    exact comesTo_integerLiteral limits depth n hrest
  | number x =>
    rw [reread_number]
    exact finds_literal limits depth x hrest
  | string s =>
    have hfound := finds_stringLiteral limits s rest
    have htext : stringLiteral s ++ rest =
        '"' :: (s.toList.flatMap escapeChar ++ ['"'] ++ rest) := rfl
    rw [reread_string]
    show Finds (scanValue limits depth (stringLiteral s ++ rest)) _ _
    rw [htext] at hfound ⊢
    obtain ⟨hshorter, hscan⟩ := hfound
    refine ⟨hshorter, ?_⟩
    rw [scanValue, hscan]
    rfl
  -- Inside of a bracket one less may be open.
  | array items =>
    cases depth with
    | zero => exact comesTo_array_zero limits spacing items rest
    | succ depth =>
      exact comesTo_array hspacing (fun item _ _ => ih depth (Nat.lt_succ_self depth) item) rest
  | object members =>
    cases depth with
    | zero => exact comesTo_object_zero limits spacing members rest
    | succ depth =>
      exact comesTo_object hspacing
        (fun member _ _ => ih depth (Nat.lt_succ_self depth) member.2) rest

/-! ### Whole texts -/

/-- The text is `value` as the writer writes it, with gaps behind commas and colons, and with gaps
around it. -/
def IsTextOf (value : Json) (text : String) : Prop :=
  ∃ spacing before behind, Spacing.IsGap spacing ∧ AllGaps before ∧ AllGaps behind ∧
    text.toList = before ++ chars spacing value ++ behind

theorem isTextOf_encode (value : Json) : IsTextOf value value.encode := by
  have hnil : AllGaps [] := fun _ hc => absurd hc List.not_mem_nil
  refine ⟨⟨[], []⟩, [], [], ⟨hnil, hnil⟩, hnil, hnil, ?_⟩
  rw [encode, String.toList_ofList, List.append_nil, List.nil_append]

theorem isTextOf_encodeSpaced (value : Json) : IsTextOf value value.encodeSpaced := by
  have hnil : AllGaps [] := fun _ hc => absurd hc List.not_mem_nil
  have hspace : AllGaps [' '] := by
    intro c hc
    rw [List.mem_singleton.mp hc]
    rfl
  refine ⟨⟨[' '], [' ']⟩, [], [], ⟨hspace, hspace⟩, hnil, hnil, ?_⟩
  rw [encodeSpaced, String.toList_ofList, List.append_nil, List.nil_append]

/-- What is read from a text of a value is what a reader makes of the value. -/
theorem decode_eq_reread (limits : Limits) {value : Json} {text : String}
    (htext : IsTextOf value text) :
    decode limits text = (reread limits limits.depth value).mapError (Stop.locate text.toList) := by
  obtain ⟨spacing, before, behind, hspacing, hbefore, hbehind, htext⟩ := htext
  have hopens : Opens (chars spacing value ++ behind) :=
    (opens_chars spacing value).append behind
  have hends : EndsNumber behind := by
    cases behind with
    | nil => exact endsNumber_nil
    | cons c rest => exact endsNumber_cons (.inr (hbehind c List.mem_cons_self)) rest
  -- A byte order mark is no gap, and no value begins with it.
  have hmark : text.toList.head? ≠ some '\ufeff' := by
    obtain ⟨c, rest, hrest, hc⟩ := hopens
    rw [htext, List.append_assoc, hrest]
    cases before with
    | nil => exact fun heq => ne_of_opensValue hc (by decide) (Option.some.inj heq)
    | cons gap gaps =>
      intro heq
      have hgap := hbefore gap List.mem_cons_self
      rw [show gap = '\ufeff' from Option.some.inj heq] at hgap
      exact absurd hgap (by decide)
  have hcomes := comesTo_chars limits hspacing limits.depth value hends
  rw [← skipGaps_append_of_opens hbefore hopens] at hcomes
  unfold decode decodeChars
  rw [if_neg hmark, htext, List.append_assoc]
  cases houtcome : reread limits limits.depth value with
  | error stop =>
    rw [houtcome] at hcomes
    rw [show scanValue _ _ _ = _ from hcomes]
    rfl
  | ok found =>
    rw [houtcome] at hcomes
    obtain ⟨hshorter, hscan⟩ := hcomes
    rw [hscan]
    dsimp only
    rw [skipGaps_of_allGaps hbehind]
    rfl

/-! ### Limits -/

/-- The scan stops for a limit of the reader, whatever the place. -/
def Stop.IsLimit : Stop → Prop
  | .fault .. => False
  | .digits _ | .depth _ => True

/-- A limit has no place, so it is the same wherever it is met. -/
theorem Stop.IsLimit.locate_eq {stop : Stop} (h : stop.IsLimit) (text text' : List Char) :
    stop.locate text = stop.locate text' := by
  cases stop with
  | fault kind left => exact h.elim
  | digits count => rfl
  | depth bracket => rfl

section

variable {α β ε : Type} {f : α → Except ε β} {items : List α}

theorem exists_mem_of_mapM_eq_error {error : ε} (h : items.mapM f = .error error) :
    ∃ item ∈ items, f item = .error error := by
  induction items with
  | nil => cases h
  | cons item rest ih =>
    rw [List.mapM_cons] at h
    cases hitem : f item with
    | error error' =>
      rw [hitem] at h
      obtain rfl := Except.error.inj h
      exact ⟨item, List.mem_cons_self, hitem⟩
    | ok value =>
      rw [hitem] at h
      cases hrest : rest.mapM f with
      | error error' =>
        obtain ⟨item', hmem, hitem'⟩ := ih (by
          rw [hrest] at h ⊢
          exact h)
        exact ⟨item', List.mem_cons_of_mem _ hmem, hitem'⟩
      | ok values =>
        rw [hrest] at h
        cases h

theorem mapM_eq_ok {g : α → β} (h : ∀ item ∈ items, f item = .ok (g item)) :
    items.mapM f = .ok (items.map g) := by
  induction items with
  | nil => rfl
  | cons item rest ih =>
    rw [List.forall_mem_cons] at h
    rw [List.mapM_cons, h.1, ih h.2]
    rfl

end

theorem eq_error_of_map_eq_error {α β ε : Type} {f : α → β} {result : Except ε α} {error : ε}
    (h : f <$> result = .error error) : result = .error error := by
  cases result with
  | ok value => cases h
  | error error' => exact congrArg Except.error (Except.error.inj h)

/-- Brackets beyond the depth stop the reader for the depth. -/
theorem isLimit_of_rereadBeyond {limits : Limits} {bracket : Bracket} {isEmpty : Bool}
    {stop : Stop} (h : rereadBeyond limits bracket isEmpty = .error stop) : stop.IsLimit := by
  unfold rereadBeyond at h
  split at h
  · cases h
  · obtain rfl := Except.error.inj h
    trivial

/-- A written value has no fault, so a reader stops only for a limit. -/
theorem isLimit_of_reread {limits : Limits} {depth : Nat} {value : Json} {stop : Stop}
    (h : reread limits depth value = .error stop) : stop.IsLimit := by
  -- Every stop comes from an integer or from a bracket at the bottom.
  induction depth using Nat.strongRecOn generalizing value with
  | _ depth ih =>
  cases value with
  | integer n =>
    rw [reread_integer, rereadInteger] at h
    split at h
    · cases h
    · obtain rfl := Except.error.inj h
      trivial
  | array items =>
    cases depth with
    | zero => exact isLimit_of_rereadBeyond (eq_error_of_map_eq_error h)
    | succ depth =>
      obtain ⟨item, -, hitem⟩ := exists_mem_of_mapM_eq_error (eq_error_of_map_eq_error h)
      exact ih depth (Nat.lt_succ_self depth) hitem
  | object members =>
    cases depth with
    | zero => exact isLimit_of_rereadBeyond (eq_error_of_map_eq_error h)
    | succ depth =>
      obtain ⟨member, -, hmember⟩ := exists_mem_of_mapM_eq_error (eq_error_of_map_eq_error h)
      exact ih depth (Nat.lt_succ_self depth) (eq_error_of_map_eq_error hmember)
  | _ => simp at h

end Json

end ContractDrill
