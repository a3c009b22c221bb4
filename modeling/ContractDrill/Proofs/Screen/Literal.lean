import ContractDrill.Proofs.Screen.Escaped

/-!
# Literal texts

Between the tags of a style some texts are shown as they are, although nothing is done to them:
those without a tag and without a code, in which each backslash has a character behind it other than
a bracket, and of which the screen drops nothing (`IsLiteral`).  Markup in pieces shows the texts
that it was written with if, and only if, all of them are literal (`shows_pieces_iff`).

That literal texts are shown is seen by reading them.  The other direction counts: colons, brackets,
backslashes and dropped characters weigh, a reader never adds weight (`exactOrLighter_shownText`),
and what is not literal loses some, which no other text of the markup makes up for.
-/

namespace ContractDrill

namespace Markup

/-! ### Literal texts -/

/-- Somewhere in the text there is a tag: a bracket, a character that may begin a tag, and a closing
bracket before the next opening one. -/
def HasTag (s : List Char) : Prop :=
  ∃ c body behind, '[' :: c :: body ++ ']' :: behind <:+ s ∧ opensTag c = true ∧ '[' ∉ body

/-- But for codes, markup shows the text as it is. -/
structure IsUntagged (s : List Char) : Prop where
  tagFree : ¬HasTag s
  /-- A backslash in front of a bracket takes it for text, and one at the end of the text joins the
  tag behind it. -/
  behindBackslash : ∀ behind, '\\' :: behind <:+ s → ∃ c rest, behind = c :: rest ∧ c ≠ '['
  kept : ∀ c ∈ s, isDropped c = false

/-- Markup shows the text as it is. -/
structure IsLiteral (s : List Char) : Prop extends IsUntagged s where
  codeFree : ¬HasCode s

theorem HasTag.of_suffix {s t : List Char} (h : HasTag s) (hs : s <:+ t) : HasTag t := by
  obtain ⟨c, body, behind, htag, hc, hbody⟩ := h
  exact ⟨c, body, behind, htag.trans hs, hc, hbody⟩

theorem hasTag_of_tag?_eq_some {s left : List Char} {token : Token}
    (h : tag? s = some (token, left)) : HasTag s := by
  obtain ⟨-, backslashes, c, inner, rfl, hc, hinner⟩ := exists_of_tag?_eq_some h
  refine ⟨c, inner, left, ?_, hc, fun hmem => (hinner '[' hmem).2 rfl⟩
  rw [eq_of_tag?_eq_some h]
  refine ⟨List.replicate backslashes '\\', ?_⟩
  simp [Token.text]

/-- A text without any tag has none at its front, nor has any end of it. -/
theorem not_hasTag_of_tag? {s : List Char} (h : ∀ t, t <:+ s → tag? t = none) : ¬HasTag s := by
  rintro ⟨c, body, behind, htag, hc, hbody⟩
  have hnone := h _ htag
  rw [List.cons_append, List.cons_append, tag?_bracket_eq_none_iff, tagBody?_eq_none_iff] at hnone
  refine hnone hc ?_
  -- The body has no opening bracket, so the first bracket behind it is a closing one.
  rw [nextBracket_append]
  cases hfirst : nextBracket body with
  | none => rfl
  | some d =>
    obtain rfl | rfl : d = ']' ∨ d = '[' := by simpa using List.find?_some hfirst
    · rfl
    · exact absurd (List.mem_of_find?_eq_some hfirst) hbody

namespace IsUntagged

theorem of_cons {c : Char} {s : List Char} (h : IsUntagged (c :: s)) : IsUntagged s where
  tagFree htag := h.tagFree (htag.of_suffix (List.suffix_cons c s))
  behindBackslash behind hbehind := h.behindBackslash behind (hbehind.trans (List.suffix_cons c s))
  kept d hd := h.kept d (List.mem_cons_of_mem c hd)

/-- A plain text of which nothing is dropped is untagged. -/
theorem of_isPlain {s : List Char} (h : IsPlain s) (hkept : ∀ c ∈ s, isDropped c = false) :
    IsUntagged s where
  tagFree := by
    rintro ⟨c, body, behind, htag, -, -⟩
    exact (h '[' (htag.subset (List.mem_cons_self ..))).1 rfl
  behindBackslash behind hbehind :=
    absurd rfl (h '\\' (hbehind.subset (List.mem_cons_self ..))).2
  kept := hkept

/-- The tokens of an untagged text are its characters. -/
theorem tokens_eq {s : List Char} (h : IsUntagged s) : tokens s = s.map Token.char := by
  induction s with
  | nil => rw [tokens, List.map_nil]
  | cons c s ih =>
    have hnone : tag? (c :: s) = none := by
      cases htag : tag? (c :: s) with
      | none => rfl
      | some found => exact absurd (hasTag_of_tag?_eq_some htag) h.tagFree
    rw [tokens_cons hnone, ih h.of_cons, List.map_cons]

/-- An untagged text does not end in a backslash, behind which nothing stands. -/
theorem getLast?_ne {s : List Char} (h : IsUntagged s) : s.getLast? ≠ some '\\' := by
  intro hlast
  obtain ⟨front, rfl⟩ := List.getLast?_eq_some_iff.mp hlast
  obtain ⟨c, rest, hcontra, -⟩ := h.behindBackslash [] (List.suffix_append front _)
  cases hcontra

/-- Its characters are shown one by one. -/
theorem shownText_eq {s : List Char} (h : IsUntagged s) : shownText (s.map Token.char) = s := by
  induction s with
  | nil => rfl
  | cons c s ih =>
    have hprinted : printed [c] = [c] := by simp [printed, h.kept c (List.mem_cons_self ..)]
    rw [List.map_cons, shownText, ih h.of_cons, hprinted]
    · rfl
    · rintro more heq rfl
      obtain ⟨d, rest, rfl, hd⟩ := h.behindBackslash s (List.suffix_refl _)
      exact hd (Token.char.inj (List.cons.inj heq).1)

end IsUntagged

namespace IsLiteral

/-- A plain text with less than two colons is literal if nothing of it is dropped. -/
theorem of_isPlain {s : List Char} (h : IsPlain s) (hkept : ∀ c ∈ s, isDropped c = false)
    (hcolons : s.count ':' < 2) : IsLiteral s where
  toIsUntagged := .of_isPlain h hkept
  codeFree := not_hasCode_of_count hcolons

/-- The same as one condition, which can be decided for a text that is given. -/
theorem of_all {s : List Char}
    (h : IsPlain s ∧ s.all (!isDropped ·) = true ∧ s.count ':' < 2) : IsLiteral s :=
  of_isPlain h.1 (by simpa using h.2.1) h.2.2

/-- A literal text is shown as it is. -/
theorem shownText_withPictures {s : List Char} (h : IsLiteral s) :
    shownText (withPictures (s.map Token.char)) = s := by
  rw [(withPictures_eq_self_iff s).mpr h.codeFree, h.toIsUntagged.shownText_eq]

end IsLiteral

/-! ### What is shown, and what it weighs -/

theorem exists_of_bind_eq_ok {α β : Type} {x : Except Error α} {f : α → Except Error β} {b : β}
    (h : x >>= f = .ok b) : ∃ a, x = .ok a ∧ f a = .ok b := by
  cases x with
  | error error => cases h
  | ok a => exact ⟨a, rfl, h⟩

/-- Only tags that do not match keep tokens from being shown. -/
theorem text_eq_shownText {position count : Nat} {opened : List OpenTag} {tokens : List Token}
    {styled : StyledText} (h : showTokens position count opened tokens = .ok styled) :
    styled.text = shownText tokens := by
  fun_induction showTokens position count opened tokens generalizing styled with
  | case1 =>
    cases h
    rfl
  | case2 position count opened rest ih =>
    obtain ⟨more, hrest, hmore⟩ := exists_of_bind_eq_ok h
    cases hmore
    exact congrArg ('[' :: ·) (ih hrest)
  | case3 position count opened c rest hpair front =>
    rename_i ih
    obtain ⟨more, hrest, hmore⟩ := exists_of_bind_eq_ok h
    cases hmore
    rw [shownText, ← ih hrest]
    exact hpair
  | case4 position count opened backslashes body rest behind front hodd front' =>
    rename_i ih
    obtain ⟨more, hrest, hmore⟩ := exists_of_bind_eq_ok h
    cases hmore
    rw [shownText, if_pos hodd, ← ih hrest]
  | case5 position count opened backslashes body rest behind front heven count' =>
    rename_i ih
    obtain ⟨⟨opened', closed⟩, -, happlied⟩ := exists_of_bind_eq_ok h
    obtain ⟨more, hrest, hmore⟩ := exists_of_bind_eq_ok happlied
    cases hmore
    rw [shownText, if_neg heven, ← ih opened' hrest, List.append_nil]
  | case6 position count opened code picture rest front =>
    rename_i ih
    obtain ⟨more, hrest, hmore⟩ := exists_of_bind_eq_ok h
    cases hmore
    rw [shownText, ← ih hrest]

/-- What markup may lose: its colons, brackets and backslashes, and what the screen drops.  A
backslash weighs more than the bracket that it may take for text. -/
def weight (s : List Char) : Nat :=
  s.count ':' + s.count '[' + 2 * s.count '\\' + s.countP isDropped

theorem weight_append (s t : List Char) : weight (s ++ t) = weight s + weight t := by
  simp only [weight, List.count_append, List.countP_append]
  omega

theorem weight_opening (s : List Char) : weight ('[' :: s) = 1 + weight s :=
  weight_append ['['] s

theorem weight_backslash (s : List Char) : weight ('\\' :: s) = 2 + weight s :=
  weight_append ['\\'] s

theorem weight_backslashes (count : Nat) : weight (List.replicate count '\\') = 2 * count := by
  have hdropped : isDropped '\\' = false := by decide
  simp [weight, List.count_replicate, List.countP_replicate, hdropped]

/-- What is dropped weighs one each. -/
theorem weight_printed (s : List Char) :
    weight (printed s) + s.countP isDropped = weight s := by
  have hcolon : (printed s).count ':' = s.count ':' := List.count_filter (by decide)
  have hopen : (printed s).count '[' = s.count '[' := List.count_filter (by decide)
  have hback : (printed s).count '\\' = s.count '\\' := List.count_filter (by decide)
  have hkept : (printed s).countP isDropped = 0 := by
    refine List.countP_eq_zero.mpr fun c hc => ?_
    simpa using (List.mem_filter.mp hc).2
  rw [weight, weight, hcolon, hopen, hback, hkept, Nat.add_zero]

/-- A text is shown as it is, where `exact` holds, or lighter. -/
def ExactOrLighter (exact : Prop) (text shown : List Char) : Prop :=
  exact ∧ shown = text ∨ weight shown < weight text

namespace ExactOrLighter

variable {exact exact' : Prop} {text text' shown shown' : List Char}

/-- What is exact or lighter is no heavier. -/
theorem weight_le (h : ExactOrLighter exact text shown) : weight shown ≤ weight text := by
  rcases h with ⟨-, rfl⟩ | hlt
  · exact Nat.le_refl _
  · exact hlt.le

theorem imp (h : ExactOrLighter exact text shown) (himp : exact → exact') :
    ExactOrLighter exact' text shown :=
  Or.imp_left (And.imp_left himp) h

/-- Exact or lighter texts are put together to one that is exact if both are. -/
theorem append (h : ExactOrLighter exact text shown) (h' : ExactOrLighter exact' text' shown') :
    ExactOrLighter (exact ∧ exact') (text ++ text') (shown ++ shown') := by
  have hle := h.weight_le
  have hle' := h'.weight_le
  unfold ExactOrLighter
  rw [weight_append, weight_append]
  rcases h with ⟨hexact, rfl⟩ | hlt
  · rcases h' with ⟨hexact', rfl⟩ | hlt'
    · exact .inl ⟨⟨hexact, hexact'⟩, rfl⟩
    · exact .inr (by omega)
  · exact .inr (by omega)

/-- What is shown as it is was not lighter. -/
theorem of_eq (h : ExactOrLighter exact text text) : exact :=
  h.elim And.left fun hlt => absurd hlt (Nat.lt_irrefl _)

end ExactOrLighter

/-- What is printed is exact, or lighter by what is dropped. -/
theorem exactOrLighter_printed (s : List Char) :
    ExactOrLighter (∀ c ∈ s, isDropped c = false) s (printed s) := by
  have hweight := weight_printed s
  by_cases hkept : ∀ c ∈ s, isDropped c = false
  · exact .inl ⟨hkept, List.filter_eq_self.mpr fun c hc => by simp [hkept c hc]⟩
  · have hcount : 0 < s.countP isDropped := List.countP_pos_iff.mpr (by simpa using hkept)
    exact .inr (by omega)

/-! ### Pictures are light -/

/-- Pictures weigh less than their codes. -/
def Token.IsLight : Token → Prop
  | .emoji code picture => weight picture < weight code
  | _ => True

theorem weight_eq_zero {s : List Char} (h : ∀ c ∈ s, Emoji.IsInk c) : weight s = 0 := by
  have hcolon : s.count ':' = 0 := List.count_eq_zero.mpr fun hmem => (h _ hmem).1 rfl
  have hopen : s.count '[' = 0 := List.count_eq_zero.mpr fun hmem => (h _ hmem).2.1 rfl
  have hback : s.count '\\' = 0 := List.count_eq_zero.mpr fun hmem => (h _ hmem).2.2.1 rfl
  have hkept : s.countP isDropped = 0 :=
    List.countP_eq_zero.mpr fun c hc => by simp [(h c hc).2.2.2]
  rw [weight, hcolon, hopen, hback, hkept]

/-- A picture weighs less than its code, which has two colons. -/
theorem isLight_withPictures {tokens : List Token} (h : ∀ token ∈ tokens, token.IsLight) :
    ∀ token ∈ withPictures tokens, token.IsLight := by
  intro token htoken
  rcases mem_or_exists_of_mem_withPictures htoken with hmem | ⟨name, picture, rfl, hpicture⟩
  · exact h token hmem
  · have hcode : 0 < weight (':' :: name ++ [':']) := by
      have hcolon : 0 < List.count ':' (':' :: name ++ [':']) := by simp
      unfold weight
      omega
    exact (weight_eq_zero (Emoji.isInk_of_picture? hpicture)).trans_lt hcode

theorem isLight_chars (s : List Char) : ∀ token ∈ s.map Token.char, token.IsLight := by
  intro token htoken
  obtain ⟨c, -, rfl⟩ := List.mem_map.mp htoken
  trivial

/-- The tokens of a text are light, since none of them is a picture. -/
theorem isLight_tokens (s : List Char) : ∀ token ∈ tokens s, token.IsLight := by
  induction s using tokens.induct with
  | case1 =>
    rw [tokens_nil]
    exact fun _ hmem => absurd hmem List.not_mem_nil
  | case2 c s token left htag ih =>
    obtain ⟨-, backslashes, d, inner, rfl, -, -⟩ := exists_of_tag?_eq_some htag
    rw [tokens_of_tag htag]
    exact List.forall_mem_cons.mpr ⟨trivial, ih⟩
  | case3 c s hnone ih =>
    rw [tokens_cons hnone]
    exact List.forall_mem_cons.mpr ⟨trivial, ih⟩

/-- Drawing pictures adds no weight. -/
theorem weight_drawn_le {tokens : List Token} (h : ∀ token ∈ tokens, token.IsLight) :
    weight (tokens.flatMap Token.drawn) ≤ weight (tokens.flatMap Token.text) := by
  induction tokens with
  | nil => exact Nat.le_refl _
  | cons token tokens ih =>
    obtain ⟨htoken, htokens⟩ := List.forall_mem_cons.mp h
    -- Only a picture is drawn as something else than it is written as.
    have hle : weight token.drawn ≤ weight token.text := by
      cases token with
      | emoji code picture =>
        have hlight : weight picture < weight code := htoken
        exact hlight.le
      | char c => exact Nat.le_refl _
      | tag backslashes body => exact Nat.le_refl _
    rw [List.flatMap_cons, List.flatMap_cons, weight_append, weight_append]
    exact Nat.add_le_add hle (ih htokens)

theorem weight_pictured_le (s : List Char) : weight (pictured s) ≤ weight s := by
  have hle := weight_drawn_le (isLight_withPictures (isLight_chars s))
  rwa [flatMap_text_withPictures, flatMap_text_chars] at hle

/-! ### Exact or lighter -/

/-- What is shown of a tag is lighter than the tag. -/
theorem weight_shownText_tag_lt (backslashes : Nat) (body : List Char) :
    weight (shownText [.tag backslashes body]) < weight (Token.text (.tag backslashes body)) := by
  have hclose : weight [']'] = 0 := by decide
  have hnil : weight [] = 0 := rfl
  have hprinted := weight_printed (pictured ('[' :: body ++ [']']))
  have hpictured := weight_pictured_le ('[' :: body ++ [']'])
  simp only [weight_append, List.cons_append, weight_opening, hclose] at hprinted hpictured
  simp only [shownText, Token.text, weight_append, weight_backslashes, List.cons_append,
    weight_opening, hclose, hnil]
  split
  · omega
  · rw [hnil]
    omega

/-- Each token is a character that is shown, and no backslash takes a bracket for text. -/
def IsBare : List Token → Prop
  | [] => True
  | .char '\\' :: .char '[' :: _ => False
  | .char c :: rest => isDropped c = false ∧ IsBare rest
  | .tag _ _ :: _ => False
  | .emoji _ _ :: _ => False

/-- A character is bare if it is shown, and no backslash in front of a bracket. -/
theorem isBare_char_iff {c : Char} {rest : List Token} :
    IsBare (.char c :: rest) ↔
      (c = '\\' → rest.head? ≠ some (.char '[')) ∧ isDropped c = false ∧ IsBare rest := by
  by_cases hpair : c = '\\' ∧ rest.head? = some (.char '[')
  · obtain ⟨rfl, hhead⟩ := hpair
    obtain ⟨more, rfl⟩ := List.head?_eq_some_iff.mp hhead
    exact iff_of_false id fun h => h.1 rfl rfl
  · rw [IsBare]
    · exact (and_iff_right fun hback hhead => hpair ⟨hback, hhead⟩).symm
    · rintro more rfl hback
      exact hpair ⟨hback, rfl⟩

/-- Bare tokens are characters. -/
theorem exists_char_of_isBare {tokens : List Token} (h : IsBare tokens) {token : Token}
    (htoken : token ∈ tokens) : ∃ c, token = .char c := by
  induction tokens with
  | nil => cases htoken
  | cons first rest ih =>
    cases first with
    | char c =>
      rcases List.mem_cons.mp htoken with rfl | hmem
      · exact ⟨c, rfl⟩
      · exact ih (isBare_char_iff.mp h).2.2 hmem
    | tag backslashes body => cases h
    | emoji code picture => cases h

/-- Tokens are shown as they were written, or lighter. -/
theorem exactOrLighter_shownText {tokens : List Token} (h : ∀ token ∈ tokens, token.IsLight) :
    ExactOrLighter (IsBare tokens) (tokens.flatMap Token.text) (shownText tokens) := by
  fun_induction shownText tokens with
  | case1 => exact .inl ⟨trivial, rfl⟩
  -- A backslash in front of a bracket is not shown, so weight is lost.
  | case2 rest ih =>
    have hrest := (ih (List.forall_mem_cons.mp (List.forall_mem_cons.mp h).2).2).weight_le
    refine .inr ?_
    simp only [List.flatMap_cons, Token.text, List.singleton_append, weight_opening,
      weight_backslash]
    omega
  | case3 c rest hpair ih =>
    have hhead : c = '\\' → rest.head? ≠ some (.char '[') := by
      intro hc hhead
      obtain ⟨more, hmore⟩ := List.head?_eq_some_iff.mp hhead
      exact hpair more hmore hc
    rw [List.flatMap_cons]
    refine ((exactOrLighter_printed [c]).append (ih (List.forall_mem_cons.mp h).2)).imp fun h => ?_
    exact isBare_char_iff.mpr ⟨hhead, h.1 c (List.mem_singleton_self c), h.2⟩
  -- A tag shows nothing, or itself with fewer backslashes.
  | case4 backslashes body rest ih =>
    have hrest := (ih (List.forall_mem_cons.mp h).2).weight_le
    have htag := weight_shownText_tag_lt backslashes body
    simp only [shownText, List.append_nil] at htag
    refine .inr ?_
    rw [List.flatMap_cons, weight_append, weight_append (Token.text _)]
    omega
  | case5 code picture rest ih =>
    obtain ⟨hpicture, hrest⟩ := List.forall_mem_cons.mp h
    have hlight : weight picture < weight code := hpicture
    have hprinted := weight_printed picture
    have hrest := (ih hrest).weight_le
    refine .inr ?_
    rw [List.flatMap_cons, weight_append, weight_append (Token.text _), Token.text]
    omega

/-- A text of which every character is shown alone has no tag, if no backslash is at its end. -/
theorem isUntagged_of_isBare {s : List Char} (hlast : s.getLast? ≠ some '\\')
    (h : IsBare (tokens s)) : IsUntagged s := by
  induction s using tokens.induct with
  | case1 =>
    refine ⟨?_, ?_, by simp⟩
    · exact not_hasTag_of_tag? fun t ht => by rw [List.suffix_nil.mp ht]; rfl
    · exact fun behind hbehind => absurd (List.suffix_nil.mp hbehind) (List.cons_ne_nil _ _)
  | case2 c s token left htag ih =>
    obtain ⟨-, backslashes, d, inner, rfl, -, -⟩ := exists_of_tag?_eq_some htag
    rw [tokens_of_tag htag] at h
    cases h
  | case3 c s hnone ih =>
    rw [tokens_cons hnone, isBare_char_iff] at h
    obtain ⟨hpair, hkept, hbare⟩ := h
    -- The last character of the rest is that of the text.
    have hlast' : s.getLast? ≠ some '\\' := by
      cases s with
      | nil => simp
      | cons d s => simpa using hlast
    have hs := ih hlast' hbare
    have hfree (t : List Char) (ht : t <:+ s) : tag? t = none := by
      cases htag : tag? t with
      | none => rfl
      | some found => exact absurd ((hasTag_of_tag?_eq_some htag).of_suffix ht) hs.tagFree
    refine ⟨?_, ?_, List.forall_mem_cons.mpr ⟨hkept, hs.kept⟩⟩
    · refine not_hasTag_of_tag? fun t ht => ?_
      rcases List.suffix_cons_iff.mp ht with rfl | ht
      · exact hnone
      · exact hfree t ht
    · intro behind hbehind
      rcases List.suffix_cons_iff.mp hbehind with heq | hbehind
      · obtain ⟨rfl, rfl⟩ := List.cons.inj heq
        cases behind with
        | nil => exact absurd rfl hlast
        | cons d rest =>
          refine ⟨d, rest, rfl, ?_⟩
          rintro rfl
          rw [tokens_cons (hfree _ (List.suffix_refl _))] at hpair
          exact hpair rfl rfl
      · exact hs.behindBackslash behind hbehind

/-- A text of which every character is shown alone is literal, if no backslash is at its end. -/
theorem isLiteral_of_isBare {s : List Char} (hlast : s.getLast? ≠ some '\\')
    (h : IsBare (withPictures (tokens s))) : IsLiteral s := by
  have hself : withPictures (tokens s) = tokens s := by
    refine withPictures_eq_self fun code picture hmem => ?_
    obtain ⟨c, hc⟩ := exists_char_of_isBare h hmem
    cases hc
  rw [hself] at h
  have huntagged := isUntagged_of_isBare hlast h
  rw [huntagged.tokens_eq] at hself
  exact ⟨huntagged, (withPictures_eq_self_iff s).mp hself⟩

/-! ### Markup in pieces -/

namespace Piece

/-- The piece has the tags that it was written with around its text, which may be any in a style. -/
def IsFramed : Piece → Prop
  | text s => IsPlain s.toList ∧ ':' ∉ s.toList
  | styled style _ => IsStyle style.toList ∧ weight style.toList = 0

/-- Backslashes in front of a closing tag are not shown as they are. -/
theorem exactOrLighter_close {style : List Char} (hstyle : weight style = 0) (count : Nat) :
    ExactOrLighter (count = 0) (List.replicate count '\\')
      (shownText [.tag count ('/' :: style)]) := by
  cases count with
  | zero => exact .inl ⟨rfl, rfl⟩
  | succ count =>
    have hslash : weight ('/' :: style) = 0 := by
      rw [← hstyle]
      exact (weight_append ['/'] style).trans (Nat.zero_add _)
    have hclose : weight [']'] = 0 := by decide
    have hnil : weight [] = 0 := rfl
    have htag : weight ('[' :: ('/' :: style) ++ [']']) = 1 := by
      rw [List.cons_append, weight_opening, weight_append, hslash, hclose]
    have hpictured := weight_pictured_le ('[' :: ('/' :: style) ++ [']'])
    have hprinted := weight_printed (pictured ('[' :: ('/' :: style) ++ [']']))
    refine .inr ?_
    simp only [shownText, List.append_nil, weight_append, weight_backslashes]
    split
    · omega
    · rw [hnil]
      omega

/-- What a piece shows is its content, or it is lighter. -/
theorem exists_shownText_chars {piece : Piece} (h : piece.IsFramed) :
    ∃ shown, ExactOrLighter (IsLiteral piece.content) piece.content shown ∧
      ∀ rest, shownText (withPictures (tokens (piece.chars ++ rest))) =
        shown ++ shownText (withPictures (tokens rest)) := by
  cases piece with
  | text s =>
    obtain ⟨hs, hcolon⟩ := h
    have hcount : s.toList.count ':' < 2 := by
      rw [List.count_eq_zero.mpr hcolon]
      decide
    refine ⟨printed s.toList,
      (exactOrLighter_printed s.toList).imp (.of_isPlain hs · hcount), fun rest => ?_⟩
    rw [chars, tokens_append_of_isPlain hs, withPictures_append_of_not_mem hcolon,
      shownText_append (hs.meets _), shownText_of_isPlain hs]
  | styled style s =>
    obtain ⟨hstyle, hweight⟩ := h
    -- The backslashes at the end belong to the tag that closes the style.
    obtain ⟨front, count, hs, hfront⟩ := exists_eq_append_replicate '\\' s.toList
    refine ⟨shownText (withPictures (tokens front)) ++
      shownText [.tag count ('/' :: style.toList)], ?_, fun rest => ?_⟩
    · have hinner := exactOrLighter_shownText (isLight_withPictures (isLight_tokens front))
      rw [flatMap_text_withPictures, flatMap_text_tokens] at hinner
      rw [content, hs]
      refine (hinner.append (exactOrLighter_close hweight count)).imp ?_
      rintro ⟨hbare, rfl⟩
      rw [List.replicate_zero, List.append_nil]
      exact isLiteral_of_isBare hfront hbare
    · have hmeet : Meets [.tag count ('/' :: style.toList)] (withPictures (tokens rest)) :=
        fun hlast => by simp at hlast
      have hclose := shownText_append hmeet
      rw [chars, hs, tokens_styled_append hstyle hfront, withPictures_cons (by simp),
        withPictures_append_tag, List.append_assoc, ← hclose]
      exact shownText_append (meets_tag _ _ _ _)

/-- Around a literal text the tags are those that were written. -/
theorem IsFramed.shows {piece : Piece} (h : piece.IsFramed) (hcontent : IsLiteral piece.content) :
    piece.Shows piece.content := by
  have hshows : piece.Shows (shownText (withPictures (piece.content.map Token.char))) := by
    cases piece with
    | text s =>
      have hsound : (text s).IsSound := h
      exact hsound.shows
    | styled style s =>
      have hs : IsUntagged s.toList := hcontent.toIsUntagged
      refine shows_styled h.1 (isText_chars _) fun rest => ?_
      have htokens := tokens_styled_append h.1 hs.getLast?_ne 0 rest
      rwa [List.replicate_zero, List.append_nil, hs.tokens_eq] at htokens
  rwa [hcontent.shownText_withPictures] at hshows

end Piece

section

variable {pieces : List Piece} (h : ∀ piece ∈ pieces, piece.IsFramed)
include h

/-- What pieces show is their contents, or it is lighter. -/
theorem exactOrLighter_pieces :
    ExactOrLighter (∀ piece ∈ pieces, IsLiteral piece.content) (pieces.flatMap Piece.content)
      (shownText (withPictures (tokens (pieces.flatMap Piece.chars)))) := by
  induction pieces with
  | nil =>
    rw [List.flatMap_nil, List.flatMap_nil, tokens_nil, withPictures_nil]
    exact .inl ⟨by simp, rfl⟩
  | cons piece pieces ih =>
    obtain ⟨hpiece, hpieces⟩ := List.forall_mem_cons.mp h
    obtain ⟨shown, hexact, hshown⟩ := Piece.exists_shownText_chars hpiece
    rw [List.flatMap_cons, List.flatMap_cons, hshown]
    exact (hexact.append (ih hpieces)).imp fun hall => List.forall_mem_cons.mpr hall

/-- Markup shows the texts of its pieces just if they are literal. -/
theorem shows_pieces_iff :
    (∃ styled, read (pieces.flatMap Piece.chars) = .ok styled ∧
      styled.text = pieces.flatMap Piece.content) ↔
      ∀ piece ∈ pieces, IsLiteral piece.content := by
  constructor
  · rintro ⟨styled, hread, htext⟩
    have hexact := exactOrLighter_pieces h
    rw [← text_eq_shownText hread, htext] at hexact
    exact hexact.of_eq
  · intro hliteral
    obtain ⟨styled, hread, htext, -⟩ :=
      exists_read_pieces fun piece hpiece => (h piece hpiece).shows (hliteral piece hpiece)
    exact ⟨styled, hread, htext⟩

end

end Markup

end ContractDrill
