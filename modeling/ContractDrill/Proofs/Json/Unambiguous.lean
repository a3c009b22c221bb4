import ContractDrill.Proofs.Json.RoundTrip

/-!
# Texts of different values

No two values have the same text (`encode_injective`).  Within the limits of a reader this follows
from the round trip; here there are no limits, neither on integers nor on nesting, and the names of
members may be the same.

Two texts are compared from the front.  The first character tells the form of a value
(`openedForm`), and where the text of a value ends is told by the text itself, as long as what
stands behind it ends a number (`IsUnambiguous`).  Arrays and objects inherit this from their items
and members (`separated_append_inj`), so the proof is an induction on the value.
-/

namespace ContractDrill

namespace Json

/-- Whatever is written behind it, the text of `value` begins no text of another value. -/
def IsUnambiguous {α : Type} (text : α → List Char) (value : α) : Prop :=
  ∀ other rest rest', EndsNumber rest → EndsNumber rest' →
    text value ++ rest = text other ++ rest' → value = other ∧ rest = rest'

/-- A scan finds one thing only. -/
theorem Finds.unique {α : Type} {s : List Char} {scan : Except Stop (Scanned s α)} {a b : α}
    {rest rest' : List Char} (h : Finds scan a rest) (h' : Finds scan b rest') :
    a = b ∧ rest = rest' := by
  obtain ⟨hshorter, hscan⟩ := h
  obtain ⟨hshorter', hscan'⟩ := h'
  rw [hscan] at hscan'
  have hscanned := Except.ok.inj hscan'
  injection hscanned with hvalue hleft
  exact ⟨hvalue, hleft⟩

/-! ### Numbers -/

theorem signedText_append (negative : Bool) (s rest : List Char) :
    signedText negative s ++ rest = signedText negative (s ++ rest) := by
  cases negative <;> rfl

/-- A sign can be told from what stands behind it. -/
theorem signedText_inj {negative negative' : Bool} {s t : List Char}
    (hs : ∀ c ∈ s.head?, c ≠ '-') (ht : ∀ c ∈ t.head?, c ≠ '-')
    (h : signedText negative s = signedText negative' t) : negative = negative' ∧ s = t := by
  cases negative <;> cases negative'
  · exact ⟨rfl, h⟩
  · have hminus : s.head? = some '-' := congrArg List.head? h
    exact absurd rfl (hs '-' hminus)
  · have hminus : t.head? = some '-' := congrArg List.head? h.symm
    exact absurd rfl (ht '-' hminus)
  · exact ⟨rfl, (List.cons.inj h).2⟩

section

variable {whole whole' : List Char} {fraction fraction' : Option (List Char)}
  {exponent exponent' : Option Int} {rest rest' : List Char}

/-- The parts of a number can be told from its text. -/
theorem numberText_append_inj (hwhole : IsWhole whole) (hwhole' : IsWhole whole')
    (hfraction : ∀ digits ∈ fraction, IsDigits digits)
    (hfraction' : ∀ digits ∈ fraction', IsDigits digits)
    (hrest : EndsNumber rest) (hrest' : EndsNumber rest')
    (h : numberText whole fraction exponent ++ rest =
      numberText whole' fraction' exponent' ++ rest') :
    whole = whole' ∧ fraction = fraction' ∧ exponent = exponent' ∧ rest = rest' := by
  simp only [numberText, List.append_assoc] at h
  -- Both sides are cut into the same parts, from the front.
  have hwholes := congrArg cutWhole h
  rw [cutWhole_append hwhole (endsDigits_fractionText _ _ hrest),
    cutWhole_append hwhole' (endsDigits_fractionText _ _ hrest')] at hwholes
  obtain ⟨hwholeEq, hbehind⟩ := Prod.mk.inj hwholes
  have hfractions := congrArg cutFraction hbehind
  rw [cutFraction_append hfraction fun _ hc => head?_exponentText hrest hc,
    cutFraction_append hfraction' fun _ hc => head?_exponentText hrest' hc] at hfractions
  obtain ⟨hfractionEq, hbehind'⟩ := Prod.mk.inj hfractions
  have hexponents := congrArg cutExponent hbehind'
  rw [cutExponent_append exponent hrest, cutExponent_append exponent' hrest'] at hexponents
  obtain ⟨hexponentEq, hrestEq⟩ := Prod.mk.inj hexponents
  exact ⟨hwholeEq, hfractionEq, hexponentEq, hrestEq⟩

/-- A number begins with a digit, its sign apart. -/
theorem isDigit_of_head?_numberText (hwhole : IsWhole whole) {c : Char}
    (hc : c ∈ (numberText whole fraction exponent ++ rest).head?) : c.isDigit = true := by
  obtain ⟨d, digits, hdigits⟩ := List.exists_cons_of_ne_nil hwhole.ne_nil
  have hd : d ∈ whole := hdigits ▸ List.mem_cons_self
  subst hdigits
  obtain rfl : d = c := Option.some.inj hc
  exact hwhole.isDigit d hd

theorem head?_numberText_ne (hwhole : IsWhole whole) {c : Char}
    (hc : c ∈ (numberText whole fraction exponent ++ rest).head?) : c ≠ '-' :=
  ne_of_isDigit (isDigit_of_head?_numberText hwhole hc) (by decide)

end

/-- An integer is not written as a number of the double-precision format is. -/
theorem integerLiteral_append_ne (n : Int) (x : Binary64) {rest rest' : List Char}
    (hrest : EndsNumber rest) (hrest' : EndsNumber rest') :
    integerLiteral n ++ rest ≠ x.literal.toList ++ rest' := by
  have hwhole := isWhole_toDigits n.natAbs
  rw [integerLiteral_eq, signedText_append]
  -- A name has no digit in front, and a finite number has one part more.
  have hname (negative : Bool) {c : Char} {name : List Char} (hc : c.isDigit = false)
      (hminus : c ≠ '-') : signedText (n < 0)
        (numberText (Nat.toDigits 10 n.natAbs) none none ++ rest) ≠
      signedText negative (c :: name) := by
    intro h
    have hhead : ∀ d ∈ (c :: name).head?, d ≠ '-' := by
      rintro d ⟨⟩
      exact hminus
    obtain ⟨-, hbody⟩ := signedText_inj (fun _ => head?_numberText_ne hwhole) hhead h
    have hdigit := isDigit_of_head?_numberText hwhole (c := c) (congrArg List.head? hbody)
    rw [hc] at hdigit
    cases hdigit
  cases x with
  | nan => exact hname false (by decide) (by decide)
  | infinity negative =>
    cases negative with
    | false => exact hname false (by decide) (by decide)
    | true => exact hname true (by decide) (by decide)
  | finite negative mantissa exponent h =>
    obtain ⟨d, whole, fraction, exponent', hspells, -, htext⟩ := exists_spells_literal negative h
    rw [htext, signedText_append]
    intro heq
    obtain ⟨-, hbody⟩ := signedText_inj (fun _ => head?_numberText_ne hwhole)
      (fun _ => head?_numberText_ne hspells.isWhole) heq
    obtain ⟨-, rfl, rfl, -⟩ := numberText_append_inj hwhole hspells.isWhole (by simp)
      hspells.isDigits hrest hrest' hbody
    exact absurd hspells.isSome (by simp)

/-- Integers with the same text in front of something are the same. -/
theorem integerLiteral_append_inj {n m : Int} {rest rest' : List Char} (hrest : EndsNumber rest)
    (hrest' : EndsNumber rest') (h : integerLiteral n ++ rest = integerLiteral m ++ rest') :
    n = m ∧ rest = rest' := by
  have hwhole := isWhole_toDigits n.natAbs
  have hwhole' := isWhole_toDigits m.natAbs
  rw [integerLiteral_eq, integerLiteral_eq, signedText_append, signedText_append] at h
  obtain ⟨hsign, hbody⟩ := signedText_inj (fun _ => head?_numberText_ne hwhole)
    (fun _ => head?_numberText_ne hwhole') h
  obtain ⟨hdigits, -, -, hrestEq⟩ :=
    numberText_append_inj hwhole hwhole' (by simp) (by simp) hrest hrest' hbody
  have habs : n.natAbs = m.natAbs := by
    rw [← digitsToNat_toDigits n.natAbs, hdigits, digitsToNat_toDigits]
  have heq : n = m := by
    rw [← withSign_natAbs n, ← withSign_natAbs m, habs, hsign]
  exact ⟨heq, hrestEq⟩

theorem literal_append_inj {x y : Binary64} {rest rest' : List Char} (hrest : EndsNumber rest)
    (hrest' : EndsNumber rest') (h : x.literal.toList ++ rest = y.literal.toList ++ rest') :
    x = y ∧ rest = rest' := by
  have hfinds := finds_literal .usual 0 x hrest
  rw [h] at hfinds
  obtain ⟨hvalue, hrestEq⟩ := hfinds.unique (finds_literal .usual 0 y hrest')
  exact ⟨Json.number.inj hvalue, hrestEq⟩

theorem stringLiteral_append_inj {s t : String} {rest rest' : List Char}
    (h : stringLiteral s ++ rest = stringLiteral t ++ rest') : s = t ∧ rest = rest' := by
  have hfinds := finds_stringLiteral .usual s rest
  rw [h] at hfinds
  exact hfinds.unique (finds_stringLiteral .usual t rest')

/-! ### Forms -/

/-- What the first character of a text tells of the value. -/
inductive Form where
  | null
  | bool
  | number
  | string
  | array
  | object

/-- The form of a value. -/
def form : Json → Form
  | .null => .null
  | .bool _ => .bool
  | .integer _ => .number
  | .number _ => .number
  | .string _ => .string
  | .array _ => .array
  | .object _ => .object

/-- The form of the values whose texts begin with the character. -/
def openedForm (c : Char) : Form :=
  if c = 'n' then .null
  else if c = 't' ∨ c = 'f' then .bool
  else if c = '"' then .string
  else if c = '[' then .array
  else if c = '\x7b' then .object
  else .number

theorem openedForm_of_isDigit {c : Char} (h : c.isDigit = true) : openedForm c = .number := by
  unfold openedForm
  rw [if_neg (ne_of_isDigit h (by decide)), if_neg, if_neg (ne_of_isDigit h (by decide)),
    if_neg (ne_of_isDigit h (by decide)), if_neg (ne_of_isDigit h (by decide))]
  exact not_or.mpr ⟨ne_of_isDigit h (by decide), ne_of_isDigit h (by decide)⟩

/-- A number begins with a sign or with a digit. -/
theorem openedForm_signedText {whole : List Char} {fraction : Option (List Char)}
    {exponent : Option Int} (hwhole : IsWhole whole) {negative : Bool} {c : Char}
    (hc : c ∈ (signedText negative (numberText whole fraction exponent)).head?) :
    openedForm c = .number := by
  cases negative with
  | false =>
    rw [← List.append_nil (signedText false _)] at hc
    exact openedForm_of_isDigit (isDigit_of_head?_numberText hwhole hc)
  | true =>
    obtain rfl : '-' = c := Option.some.inj hc
    rfl

/-- A number begins as a number, be it finite or not. -/
theorem openedForm_literal {x : Binary64} {c : Char} (hc : c ∈ x.literal.toList.head?) :
    openedForm c = .number := by
  cases x with
  | nan =>
    obtain rfl : 'N' = c := Option.some.inj hc
    rfl
  | infinity negative =>
    cases negative with
    | false =>
      obtain rfl : 'I' = c := Option.some.inj hc
      rfl
    | true =>
      obtain rfl : '-' = c := Option.some.inj hc
      rfl
  | finite negative mantissa exponent h =>
    obtain ⟨d, whole, fraction, exponent', hspells, -, htext⟩ := exists_spells_literal negative h
    rw [htext] at hc
    exact openedForm_signedText hspells.isWhole hc

/-- The text of a value begins with a character of its form. -/
theorem openedForm_chars {spacing : Spacing} {value : Json} {c : Char}
    (hc : c ∈ (chars spacing value).head?) : openedForm c = form value := by
  cases value with
  | null =>
    obtain rfl : 'n' = c := Option.some.inj hc
    rfl
  | bool value =>
    cases value with
    | false =>
      obtain rfl : 'f' = c := Option.some.inj hc
      rfl
    | true =>
      obtain rfl : 't' = c := Option.some.inj hc
      rfl
  | integer n =>
    rw [chars, integerLiteral_eq] at hc
    exact openedForm_signedText (isWhole_toDigits _) hc
  | number x => exact openedForm_literal hc
  | string s =>
    obtain rfl : '"' = c := Option.some.inj hc
    rfl
  | array items =>
    obtain rfl : '[' = c := Option.some.inj hc
    rfl
  | object members =>
    obtain rfl : '\x7b' = c := Option.some.inj hc
    rfl

/-- Values whose texts go on to the same text have one form. -/
theorem form_eq_of_append_eq {spacing : Spacing} {value other : Json} {rest rest' : List Char}
    (h : chars spacing value ++ rest = chars spacing other ++ rest') :
    form value = form other := by
  obtain ⟨c, text, htext, -⟩ := opens_chars spacing value
  obtain ⟨c', text', htext', -⟩ := opens_chars spacing other
  rw [htext, htext'] at h
  obtain rfl : c = c' := (List.cons.inj h).1
  have hform : openedForm c = form value := openedForm_chars (congrArg List.head? htext)
  have hform' : openedForm c = form other := openedForm_chars (congrArg List.head? htext')
  exact hform.symm.trans hform'

/-! ### Items between brackets -/

section

variable {α : Type} {text : α → List Char} {behindComma : List Char} {close : Char}

/-- What stands behind an item: a comma and more items, or nothing. -/
def behindItem (behindComma : List Char) : List (List Char) → List Char
  | [] => []
  | next :: texts => ',' :: (behindComma ++ separated behindComma (next :: texts))

theorem separated_cons (behindComma first : List Char) (texts : List (List Char)) :
    separated behindComma (first :: texts) = first ++ behindItem behindComma texts := by
  cases texts with
  | nil => exact (List.append_nil first).symm
  | cons next texts =>
    show first ++ ',' :: behindComma ++ _ = _
    simp [behindItem]

/-- What stands behind an item ends a number. -/
theorem endsNumber_behindItem (hclose : close ∈ [']', '\x7d']) (texts : List (List Char))
    (rest : List Char) : EndsNumber (behindItem behindComma texts ++ close :: rest) := by
  cases texts with
  | nil => exact endsNumber_cons (.inl (List.mem_cons_of_mem _ hclose)) rest
  | cons next texts => exact endsNumber_cons (.inl (by simp)) _

/-- Where the items end is told by the bracket. -/
theorem separated_append_inj (hclose : close ∈ [']', '\x7d']) (hopens : ∀ value, Opens (text value))
    {values others : List α} (h : ∀ value ∈ values, IsUnambiguous text value)
    {rest rest' : List Char}
    (heq : separated behindComma (values.map text) ++ close :: rest =
      separated behindComma (others.map text) ++ close :: rest') :
    values = others ∧ rest = rest' := by
  obtain ⟨-, hopening, hcomma⟩ := of_mem_brackets hclose
  -- A closing bracket opens no value, so an end is not taken for another item.
  have hne {value : α} {tail tail' : List Char} : close :: tail ≠ text value ++ tail' := by
    intro hbracket
    obtain ⟨c, body, hbody, hc⟩ := hopens value
    rw [hbody] at hbracket
    exact ne_of_opensValue hc hopening (List.cons.inj hbracket).1.symm
  induction values generalizing others with
  | nil =>
    cases others with
    | nil => exact ⟨rfl, (List.cons.inj heq).2⟩
    | cons other others =>
      rw [List.map_cons, separated_cons, List.append_assoc] at heq
      exact absurd heq hne
  | cons value values ih =>
    cases others with
    | nil =>
      rw [List.map_cons, separated_cons, List.append_assoc] at heq
      exact absurd heq.symm hne
    | cons other others =>
      rw [List.map_cons, List.map_cons, separated_cons, separated_cons, List.append_assoc,
        List.append_assoc] at heq
      obtain ⟨rfl, hbehind⟩ := h value List.mem_cons_self other _ _
        (endsNumber_behindItem hclose _ _) (endsNumber_behindItem hclose _ _) heq
      -- Behind the item both sides close, or both go on with a comma.
      cases values with
      | nil =>
        cases others with
        | nil => exact ⟨rfl, (List.cons.inj hbehind).2⟩
        | cons next others => exact absurd (List.cons.inj hbehind).1 hcomma.symm
      | cons next values =>
        cases others with
        | nil => exact absurd (List.cons.inj hbehind).1.symm hcomma.symm
        | cons next' others =>
          simp only [List.map_cons, behindItem, List.cons_append, List.append_assoc] at hbehind
          have hitems := List.append_cancel_left (List.cons.inj hbehind).2
          rw [← List.map_cons, ← List.map_cons] at hitems
          obtain ⟨hvalues, hrest⟩ :=
            ih (fun value hvalue => h value (List.mem_cons_of_mem _ hvalue)) hitems
          exact ⟨congrArg (value :: ·) hvalues, hrest⟩

end

/-! ### Values -/

section

variable {spacing : Spacing}

/-- An array is told from its text if its items are. -/
theorem isUnambiguous_array {items : List Json}
    (h : ∀ item ∈ items, IsUnambiguous (chars spacing) item) :
    IsUnambiguous (chars spacing) (.array items) := by
  intro other rest rest' _ _ heq
  have hform := form_eq_of_append_eq heq
  cases other with
  | array others =>
    have hbody : separated spacing.behindComma (items.map (chars spacing)) ++ ']' :: rest =
        separated spacing.behindComma (others.map (chars spacing)) ++ ']' :: rest' := by
      rw [chars, chars, itemChars_eq, itemChars_eq] at heq
      simpa using heq
    obtain ⟨hitems, hrestEq⟩ := separated_append_inj (by decide) (opens_chars spacing) h hbody
    exact ⟨congrArg Json.array hitems, hrestEq⟩
  | _ => cases hform

/-- An object is told from its text if its members are. -/
theorem isUnambiguous_object {members : Members}
    (h : ∀ member ∈ members, IsUnambiguous (memberText spacing) member) :
    IsUnambiguous (chars spacing) (.object members) := by
  intro other rest rest' _ _ heq
  have hform := form_eq_of_append_eq heq
  cases other with
  | object others =>
    have hbody :
        separated spacing.behindComma (members.map (memberText spacing)) ++ '\x7d' :: rest =
          separated spacing.behindComma (others.map (memberText spacing)) ++ '\x7d' :: rest' := by
      rw [chars, chars, memberChars_eq, memberChars_eq] at heq
      simpa using heq
    have hopens (member : String × Json) : Opens (memberText spacing member) :=
      ((opens_stringLiteral member.1).append _).append _
    obtain ⟨hmembers, hrestEq⟩ := separated_append_inj (by decide) hopens h hbody
    exact ⟨congrArg Json.object hmembers, hrestEq⟩
  | _ => cases hform

/-- A member is told from its text if its value is; the name ends with its quote. -/
theorem isUnambiguous_member {member : String × Json}
    (h : IsUnambiguous (chars spacing) member.2) :
    IsUnambiguous (memberText spacing) member := by
  intro other rest rest' hrest hrest' heq
  simp only [memberText, List.append_assoc, List.cons_append] at heq
  obtain ⟨hname, hbehind⟩ := stringLiteral_append_inj heq
  have hvalue := List.append_cancel_left (List.cons.inj hbehind).2
  obtain ⟨hvalueEq, hrestEq⟩ := h other.2 rest rest' hrest hrest' hvalue
  exact ⟨Prod.ext hname hvalueEq, hrestEq⟩

mutual

/-- Every value is told from its text. -/
theorem isUnambiguous_chars : (value : Json) → IsUnambiguous (chars spacing) value
  | .null => by
    intro other rest rest' _ _ heq
    have hform := form_eq_of_append_eq heq
    cases other with
    | null => exact ⟨rfl, List.append_cancel_left heq⟩
    | _ => cases hform
  | .bool value => by
    intro other rest rest' _ _ heq
    have hform := form_eq_of_append_eq heq
    cases other with
    | bool other =>
      cases value <;> cases other
      · exact ⟨rfl, List.append_cancel_left heq⟩
      · exact absurd (List.cons.inj heq).1 (by decide)
      · exact absurd (List.cons.inj heq).1 (by decide)
      · exact ⟨rfl, List.append_cancel_left heq⟩
    | _ => cases hform
  | .integer n => by
    intro other rest rest' hrest hrest' heq
    have hform := form_eq_of_append_eq heq
    cases other with
    | integer m =>
      obtain ⟨rfl, hrestEq⟩ := integerLiteral_append_inj hrest hrest' heq
      exact ⟨rfl, hrestEq⟩
    -- Integers and other numbers open alike, but a number has a part that no integer has.
    | number x => exact absurd heq (integerLiteral_append_ne n x hrest hrest')
    | _ => cases hform
  | .number x => by
    intro other rest rest' hrest hrest' heq
    have hform := form_eq_of_append_eq heq
    cases other with
    | integer m => exact absurd heq.symm (integerLiteral_append_ne m x hrest' hrest)
    | number y =>
      obtain ⟨rfl, hrestEq⟩ := literal_append_inj hrest hrest' heq
      exact ⟨rfl, hrestEq⟩
    | _ => cases hform
  | .string s => by
    intro other rest rest' _ _ heq
    have hform := form_eq_of_append_eq heq
    cases other with
    | string t =>
      obtain ⟨rfl, hrestEq⟩ := stringLiteral_append_inj heq
      exact ⟨rfl, hrestEq⟩
    | _ => cases hform
  | .array items => isUnambiguous_array (isUnambiguous_items items)
  | .object members => isUnambiguous_object (isUnambiguous_members members)

theorem isUnambiguous_items :
    (items : List Json) → ∀ item ∈ items, IsUnambiguous (chars spacing) item
  | [] => by simp
  | item :: rest =>
    List.forall_mem_cons.mpr ⟨isUnambiguous_chars item, isUnambiguous_items rest⟩

theorem isUnambiguous_members :
    (members : List (String × Json)) →
      ∀ member ∈ members, IsUnambiguous (memberText spacing) member
  | [] => by simp
  | (_, value) :: rest =>
    List.forall_mem_cons.mpr
      ⟨isUnambiguous_member (isUnambiguous_chars value), isUnambiguous_members rest⟩

end

end

/-- No two values have one text, whatever is in them. -/
theorem encode_injective : Function.Injective encode := by
  intro value other h
  have hchars : chars ⟨[], []⟩ value ++ [] = chars ⟨[], []⟩ other ++ [] := by
    rw [List.append_nil, List.append_nil]
    exact String.ofList_injective h
  exact (isUnambiguous_chars value other [] [] endsNumber_nil endsNumber_nil hchars).1

end Json

end ContractDrill
