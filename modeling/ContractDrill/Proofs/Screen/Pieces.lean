import ContractDrill.Proofs.Screen.Codes
import ContractDrill.Proofs.Screen.Legible

/-!
# Markup in pieces

Markup that a report writes is a row of pieces: texts without a style, and texts in one style
between its tags.  If no text has a bracket or a backslash, the tags are the ones that were written,
and such markup is legible (`isLegible_of_pieces`).
-/

namespace ContractDrill

namespace Markup

/-! ### Tokens of a text -/

theorem tokens_nil : tokens [] = [] := by
  rw [tokens]

/-- Where no tag begins, the first character is a token. -/
theorem tokens_cons {c : Char} {s : List Char} (h : tag? (c :: s) = none) :
    tokens (c :: s) = .char c :: tokens s := by
  rw [tokens]
  split
  · rename_i heq
    rw [h] at heq
    cases heq
  · rfl

/-- Where a tag begins, it is the first token, and the rest is what it leaves. -/
theorem tokens_of_tag {s left : List Char} {token : Token} (h : tag? s = some (token, left)) :
    tokens s = token :: tokens left := by
  cases s with
  | nil => cases h
  | cons c s =>
    rw [tokens]
    split
    · rename_i heq
      rw [h] at heq
      obtain ⟨rfl, rfl⟩ := Prod.mk.inj (Option.some.inj heq)
      rfl
    · rename_i heq
      rw [h] at heq
      cases heq

theorem eq_of_tagBody?_eq_some {s body left : List Char} (h : tagBody? s = some (body, left)) :
    s = body ++ ']' :: left := by
  unfold tagBody? at h
  split at h
  · cases h
  · rename_i c rest
    dsimp only at h
    split at h
    · rename_i hdrop
      split at h
      · obtain ⟨rfl, rfl⟩ := Prod.mk.inj (Option.some.inj h)
        rw [List.cons_append, ← hdrop, List.prefix_iff_eq_append.mp (List.takeWhile_prefix _)]
      · cases h
    · cases h

/-- A tag and what it leaves are the text. -/
theorem eq_of_tag?_eq_some {s left : List Char} {token : Token}
    (h : tag? s = some (token, left)) : s = token.text ++ left := by
  unfold tag? at h
  dsimp only at h
  split at h
  · rename_i rest hdrop
    obtain ⟨⟨body, left'⟩, hbody, heq⟩ := Option.map_eq_some_iff.mp h
    obtain ⟨rfl, rfl⟩ := Prod.mk.inj heq
    have hfront : List.replicate (s.takeWhile (· = '\\')).length '\\' = s.takeWhile (· = '\\') :=
      (List.eq_replicate_of_mem fun d hd => by simpa using List.mem_takeWhile_imp hd).symm
    have hwhole := List.prefix_iff_eq_append.mp (List.takeWhile_prefix (l := s) (· = '\\'))
    rw [hdrop, eq_of_tagBody?_eq_some hbody] at hwhole
    rw [Token.text, hfront]
    simpa using hwhole.symm
  · cases h

/-- The tokens of a text make up the text. -/
theorem flatMap_text_tokens (s : List Char) : (tokens s).flatMap Token.text = s := by
  induction s using tokens.induct with
  | case1 =>
    rw [tokens]
    rfl
  | case2 c s token left h ih =>
    rw [tokens_of_tag h, List.flatMap_cons, ih]
    exact (eq_of_tag?_eq_some h).symm
  | case3 c s h ih =>
    rw [tokens_cons h, List.flatMap_cons, ih]
    rfl

/-! ### Plain texts -/

/-- No character of the text can be part of a tag or of what stands in front of one. -/
def IsPlain (s : List Char) : Prop :=
  ∀ c ∈ s, c ≠ '[' ∧ c ≠ '\\'

-- By way of the list: characters are finite in number, but far too many to go through.
instance (s : List Char) : Decidable (IsPlain s) :=
  decidable_of_iff (s.all (fun c => c ≠ '[' ∧ c ≠ '\\') = true) (by simp [IsPlain])

/-- A tag begins with a bracket, or with a backslash in front of one. -/
theorem tag?_eq_none {c : Char} {rest : List Char} (h : c ≠ '[' ∧ c ≠ '\\') :
    tag? (c :: rest) = none := by
  unfold tag?
  simp only [List.takeWhile_cons, h.2, decide_false, Bool.false_eq_true, if_false, List.length_nil,
    List.drop_zero]
  split
  · rename_i heq
    exact absurd (List.cons.inj heq).1 h.1
  · rfl

/-- A plain text is read character by character. -/
theorem tokens_append_of_isPlain {s : List Char} (h : IsPlain s) (rest : List Char) :
    tokens (s ++ rest) = s.map Token.char ++ tokens rest := by
  induction s with
  | nil => rfl
  | cons c s ih =>
    have hc := h c (List.mem_cons_self ..)
    have hs : IsPlain s := fun d hd => h d (List.mem_cons_of_mem _ hd)
    rw [List.cons_append, tokens_cons (tag?_eq_none hc), ih hs]
    rfl

/-! ### Tags -/

/-- The text of a tag is read as the tag, whatever follows. -/
theorem tag?_text {c : Char} {body : List Char} (hc : opensTag c = true)
    (hbody : ∀ d ∈ body, d ≠ ']' ∧ d ≠ '[') (backslashes : Nat) (rest : List Char) :
    tag? (Token.text (.tag backslashes (c :: body)) ++ rest) =
      some (.tag backslashes (c :: body), rest) := by
  have htake : (body ++ ']' :: rest).takeWhile (fun d => d ≠ ']' && d ≠ '[') = body := by
    rw [List.takeWhile_append_of_pos (by simpa using hbody), List.takeWhile_cons_of_neg (by decide),
      List.append_nil]
  have hbody? : tagBody? (c :: body ++ ']' :: rest) = some (c :: body, rest) := by
    unfold tagBody?
    dsimp only [List.cons_append]
    rw [htake, List.drop_left]
    exact if_pos hc
  have htext : Token.text (.tag backslashes (c :: body)) ++ rest =
      List.replicate backslashes '\\' ++ '[' :: (c :: body ++ ']' :: rest) := by
    simp [Token.text]
  -- The backslashes end at the bracket.
  have hfront : (List.replicate backslashes '\\' ++ '[' :: (c :: body ++ ']' :: rest)).takeWhile
      (· = '\\') = List.replicate backslashes '\\' := by
    rw [List.takeWhile_append_of_pos (by simp), List.takeWhile_cons_of_neg (by decide),
      List.append_nil]
  rw [htext]
  unfold tag?
  dsimp only
  rw [hfront, List.drop_left, List.length_replicate]
  change (tagBody? (c :: body ++ ']' :: rest)).map _ = _
  rw [hbody?]
  rfl

/-- A tag is read as it was written, with the backslashes in front of it. -/
theorem tokens_text {c : Char} {body : List Char} (hc : opensTag c = true)
    (hbody : ∀ d ∈ body, d ≠ ']' ∧ d ≠ '[') (backslashes : Nat) (rest : List Char) :
    tokens (Token.text (.tag backslashes (c :: body)) ++ rest) =
      .tag backslashes (c :: body) :: tokens rest :=
  tokens_of_tag (tag?_text hc hbody backslashes rest)

theorem tokens_tag {c : Char} {body : List Char} (hc : opensTag c = true)
    (hbody : ∀ d ∈ body, d ≠ ']' ∧ d ≠ '[') (rest : List Char) :
    tokens ('[' :: c :: body ++ ']' :: rest) = .tag 0 (c :: body) :: tokens rest := by
  have htokens := tokens_text hc hbody 0 rest
  simpa [Token.text] using htokens

/-! ### What is shown -/

/-- The token is shown as text: it is a character, a picture, or a tag taken for text. -/
def Token.IsText : Token → Prop
  | .char _ => True
  | .tag backslashes _ => backslashes % 2 = 1
  | .emoji _ _ => True

theorem isText_chars (s : List Char) : ∀ token ∈ s.map Token.char, token.IsText := by
  intro token htoken
  obtain ⟨c, -, rfl⟩ := List.mem_map.mp htoken
  trivial

theorem isText_withPictures {front : List Token} (h : ∀ token ∈ front, token.IsText) :
    ∀ token ∈ withPictures front, token.IsText := by
  intro token htoken
  rcases mem_or_exists_of_mem_withPictures htoken with hmem | ⟨name, picture, rfl, -⟩
  · exact h token hmem
  · trivial

/-- What is shown of tokens if nothing is wrong with their tags. -/
def shownText : List Token → List Char
  | [] => []
  | .char '\\' :: .char '[' :: rest => '[' :: shownText rest
  | .char c :: rest => printed [c] ++ shownText rest
  | .tag backslashes body :: rest =>
    List.replicate (backslashes / 2) '\\' ++
      (if backslashes % 2 = 1 then printed (pictured ('[' :: body ++ [']'])) else []) ++
      shownText rest
  | .emoji _ picture :: rest => printed picture ++ shownText rest

/-- No backslash at the end of the tokens takes a bracket behind them for text. -/
def Meets (front rest : List Token) : Prop :=
  front.getLast? = some (.char '\\') → rest.head? ≠ some (.char '[')

theorem meets_tag (front : List Token) (backslashes : Nat) (body : List Char)
    (rest : List Token) : Meets front (.tag backslashes body :: rest) :=
  fun _ => by simp

/-- Whether tokens meet the rest is a matter of the last one. -/
theorem Meets.of_cons {token : Token} {front rest : List Token}
    (h : Meets (token :: front) rest) : Meets front rest := by
  intro hlast
  refine h ?_
  rw [List.getLast?_cons, hlast]
  rfl

/-- A character that takes no bracket for text takes none either if the tokens go on. -/
theorem Meets.not_pair {c : Char} {front rest : List Token} (h : Meets (.char c :: front) rest)
    (hpair : ∀ more, front = .char '[' :: more → c = '\\' → False) (more : List Token)
    (heq : front ++ rest = .char '[' :: more) : c ≠ '\\' := by
  intro hc
  cases front with
  | nil =>
    subst hc
    exact h rfl (congrArg List.head? heq)
  | cons token front => exact hpair front (congrArg (· :: front) (List.cons.inj heq).1) hc

/-- Where tokens meet the rest, both show what they show alone. -/
theorem shownText_append {front rest : List Token} (h : Meets front rest) :
    shownText (front ++ rest) = shownText front ++ shownText rest := by
  fun_induction shownText front with
  | case1 => rfl
  | case2 front ih =>
    rw [List.cons_append, List.cons_append, shownText, ih h.of_cons.of_cons]
    rfl
  | case3 c front hpair ih =>
    rw [List.cons_append, shownText, ih h.of_cons, List.append_assoc]
    exact h.not_pair hpair
  | case4 backslashes body front ih =>
    rw [List.cons_append, shownText, ih h.of_cons]
    simp only [List.append_assoc]
  | case5 code picture front ih =>
    rw [List.cons_append, shownText, ih h.of_cons, List.append_assoc]

/-- What is shown, with more in front of it. -/
def StyledText.behind (front styled : StyledText) : StyledText where
  text := front.text ++ styled.text
  spans := front.spans ++ styled.spans

theorem StyledText.behind_behind (first second styled : StyledText) :
    first.behind (second.behind styled) = (first.behind second).behind styled := by
  simp [StyledText.behind]

theorem map_behind_map (result : Except Error StyledText) (first second : StyledText) :
    (result.map second.behind).map first.behind = result.map (first.behind second).behind := by
  cases result with
  | error error => rfl
  | ok styled => exact congrArg Except.ok (StyledText.behind_behind first second styled)

theorem map_nil_behind (result : Except Error StyledText) :
    result.map (StyledText.mk [] []).behind = result := by
  cases result <;> rfl

/-- Tokens that are text are shown and leave all tags open. -/
theorem showTokens_append {front rest : List Token} (htext : ∀ token ∈ front, token.IsText)
    (h : Meets front rest) (position count : Nat) (opened : List OpenTag) :
    showTokens position count opened (front ++ rest) =
      (showTokens (position + (front.flatMap Token.text).length)
        (count + (shownText front).length) opened rest).map
          (StyledText.mk (shownText front) []).behind := by
  -- The position and the count go on by what the front is written as and what it shows.
  fun_induction shownText front generalizing position count with
  | case1 => exact (map_nil_behind _).symm
  | case2 front ih =>
    have hfront := (List.forall_mem_cons.mp (List.forall_mem_cons.mp htext).2).2
    rw [List.cons_append, List.cons_append, showTokens, ih hfront h.of_cons.of_cons]
    simp only [List.flatMap_cons, Token.text, List.length_append, List.length_cons,
      List.length_nil, Nat.add_assoc, Nat.add_comm, Nat.add_left_comm]
    exact map_behind_map _ ⟨['['], []⟩ ⟨shownText front, []⟩
  | case3 c front hpair ih =>
    rw [List.cons_append, showTokens, ih (List.forall_mem_cons.mp htext).2 h.of_cons]
    · simp only [List.flatMap_cons, Token.text, List.length_append, List.length_cons,
        List.length_nil, Nat.add_assoc, Nat.zero_add]
      exact map_behind_map _ ⟨printed [c], []⟩ ⟨shownText front, []⟩
    · exact h.not_pair hpair
  | case4 backslashes body front ih =>
    obtain ⟨hodd, hfront⟩ := List.forall_mem_cons.mp htext
    have hodd : backslashes % 2 = 1 := hodd
    have htag : (Token.text (.tag backslashes body)).length = backslashes + body.length + 2 := by
      simp [Token.text]
      omega
    rw [List.cons_append, showTokens]
    dsimp only
    rw [if_pos hodd, if_pos hodd, ih hfront h.of_cons]
    simp only [List.flatMap_cons, htag, List.length_append, Nat.add_assoc]
    exact map_behind_map _ ⟨_, []⟩ ⟨shownText front, []⟩
  | case5 code picture front ih =>
    rw [List.cons_append, showTokens]
    dsimp only
    rw [ih (List.forall_mem_cons.mp htext).2 h.of_cons]
    simp only [List.flatMap_cons, Token.text, List.length_append, Nat.add_assoc]
    exact map_behind_map _ ⟨printed picture, []⟩ ⟨shownText front, []⟩

/-- A tag of its own shows nothing, but opens or closes styles. -/
theorem showTokens_tag {body : List Char} {position count : Nat} {opened opened' : List OpenTag}
    {closed : List Span} (h : applyTag body position count opened = .ok (opened', closed))
    (rest : List Token) :
    showTokens position count opened (.tag 0 body :: rest) =
      (showTokens (position + body.length + 2) count opened' rest).map
        (StyledText.mk [] closed).behind := by
  rw [showTokens]
  simp only [Nat.zero_mod, Nat.zero_div, Nat.zero_ne_one, if_false, List.replicate_zero,
    List.length_nil, Nat.add_zero, h, bind, Except.bind, List.nil_append]
  cases showTokens (position + body.length + 2) count opened' rest <;> rfl

/-- A plain text shows what is printed of it. -/
theorem shownText_of_isPlain {s : List Char} (h : IsPlain s) :
    shownText (s.map Token.char) = printed s := by
  induction s with
  | nil => rfl
  | cons c s ih =>
    have hprinted : printed (c :: s) = printed [c] ++ printed s := List.filter_append [c] s
    rw [List.map_cons, shownText, ih fun d hd => h d (List.mem_cons_of_mem _ hd), hprinted]
    exact fun _ _ hback => (h c (List.mem_cons_self ..)).2 hback

/-- Plain texts do not take a bracket behind them for text. -/
theorem IsPlain.meets {s : List Char} (h : IsPlain s) (rest : List Token) :
    Meets (s.map Token.char) rest := by
  intro hlast
  rw [List.getLast?_map] at hlast
  obtain ⟨c, hc, heq⟩ := Option.map_eq_some_iff.mp hlast
  exact absurd (Token.char.inj heq) (h c (List.mem_of_getLast? hc)).2

/-! ### Styles -/

/-- The tags `[style]` and `[/style]` are tags of a style that can be looked up. -/
structure IsStyle (style : List Char) : Prop where
  opens : ∃ c body, style = c :: body ∧ opensTag c = true ∧ c ≠ '/'
  inside : ∀ c ∈ style, c ≠ ']' ∧ c ≠ '[' ∧ c ≠ '='
  notBlank : trimBy isBlank style ≠ []
  named : ∃ name, tagName style = .ok name ∧ name.head? ≠ some '@' ∧
    (Style.named? name).toBool = true

/-- Whether the tags of a style are tags of a style that can be looked up. -/
def checksStyle (style : List Char) : Bool :=
  (style.head?.any fun c => opensTag c && c ≠ '/') &&
    style.all (fun c => c ≠ ']' && c ≠ '[' && c ≠ '=') && trimBy isBlank style ≠ [] &&
    match tagName style with
    | .ok name => name.head? ≠ some '@' && (Style.named? name).toBool
    | .error _ => false

theorem isStyle_of_checksStyle {style : List Char} (h : checksStyle style = true) :
    IsStyle style := by
  unfold checksStyle at h
  simp only [Bool.and_eq_true, decide_eq_true_eq, List.all_eq_true, and_assoc] at h
  obtain ⟨hhead, hinside, hblank, hname⟩ := h
  refine ⟨?_, hinside, hblank, ?_⟩
  · cases style with
    | nil => cases hhead
    | cons c body => exact ⟨c, body, rfl, by simpa using hhead⟩
  · split at hname
    · rename_i name heq
      exact ⟨name, heq, by simpa using hname⟩
    · cases hname

/-- Without an equals sign a tag has no parameters. -/
theorem splitTag_of_ne {body : List Char} (h : ∀ c ∈ body, c ≠ '=') :
    splitTag body = (body, none) := by
  have htake : body.takeWhile (· ≠ '=') = body :=
    List.takeWhile_eq_self_iff.mpr (by simpa using h)
  unfold splitTag
  dsimp only
  rw [htake, List.drop_length]
  rfl

variable {style : List Char}

/-- An opening tag opens its style. -/
theorem applyTag_of_isStyle (h : IsStyle style) {name : List Char}
    (hname : tagName style = .ok name) (position count : Nat) (opened : List OpenTag) :
    applyTag style position count opened = .ok (⟨name, none, count⟩ :: opened, []) := by
  obtain ⟨c, body, rfl, -, hc⟩ := h.opens
  unfold applyTag
  rw [splitTag_of_ne fun d hd => (h.inside d hd).2.2]
  dsimp only
  split
  · rename_i heq
    exact absurd (List.cons.inj heq).1 hc
  · rw [hname]
    rfl

/-- A closing tag closes the style that was opened last. -/
theorem applyTag_close (h : IsStyle style) {name : List Char} (hname : tagName style = .ok name)
    (hhead : name.head? ≠ some '@') (start position count : Nat) :
    applyTag ('/' :: style) position count [⟨name, none, start⟩] =
      .ok ([], [⟨start, count, name⟩]) := by
  have hbody : ∀ c ∈ '/' :: style, c ≠ '=' := by
    intro c hc
    rcases List.mem_cons.mp hc with rfl | hc
    · decide
    · exact (h.inside c hc).2.2
  unfold applyTag
  rw [splitTag_of_ne hbody]
  dsimp only
  split
  · rename_i heq
    obtain rfl := (List.cons.inj heq).2
    rw [if_neg h.notBlank, hname]
    simp [bind, Except.bind, close, OpenTag.isHandler, OpenTag.span, hhead]
  · rename_i hne
    exact absurd rfl (hne style)

/-- A plain text between the tags of a style is read as it was written. -/
theorem tokens_styled (h : IsStyle style) {s : List Char} (hs : IsPlain s) (rest : List Char) :
    tokens ('[' :: style ++ ']' :: s ++ '[' :: '/' :: style ++ [']'] ++ rest) =
      .tag 0 style :: (s.map Token.char ++ .tag 0 ('/' :: style) :: tokens rest) := by
  have hinside (d : Char) (hd : d ∈ style) : d ≠ ']' ∧ d ≠ '[' :=
    ⟨(h.inside d hd).1, (h.inside d hd).2.1⟩
  obtain ⟨c, body, rfl, hopens, -⟩ := h.opens
  have hopen := tokens_tag hopens (fun d hd => hinside d (List.mem_cons_of_mem _ hd))
    (s ++ '[' :: '/' :: (c :: body) ++ ']' :: rest)
  have hclose := tokens_tag (by decide : opensTag '/' = true) hinside rest
  rw [← hclose, ← tokens_append_of_isPlain hs]
  simpa using hopen

/-! ### Pieces -/

/-- A part of a markup text. -/
inductive Piece where
  | text (s : String)
  | styled (style s : String)

namespace Piece

/-- The markup of a piece. -/
def chars : Piece → List Char
  | text s => s.toList
  | styled style s =>
    '[' :: style.toList ++ ']' :: s.toList ++ '[' :: '/' :: style.toList ++ [']']

/-- The text that a piece was written for. -/
def content : Piece → List Char
  | text s => s.toList
  | styled _ s => s.toList

/-- The piece has the tags that it was written with, and no code reaches over its ends. -/
def IsSound : Piece → Prop
  | text s => IsPlain s.toList ∧ ':' ∉ s.toList
  | styled style s => IsStyle style.toList ∧ IsPlain s.toList

/-- The piece is shown as `shown` wherever no tag is open, in styles that can be looked up, and what
is behind it is read as if it stood alone. -/
def Shows (piece : Piece) (shown : List Char) : Prop :=
  ∀ position count rest, ∃ position' count' spans,
    (∀ span ∈ spans, (Style.named? span.style).toBool = true) ∧
      showTokens position count [] (withPictures (tokens (piece.chars ++ rest))) =
        (showTokens position' count' [] (withPictures (tokens rest))).map
          (StyledText.mk shown spans).behind

/-- A text without tags between the tags of a style. -/
theorem shows_styled {style s : String} (hstyle : IsStyle style.toList) {inner : List Token}
    (htext : ∀ token ∈ inner, token.IsText)
    (htokens : ∀ rest, tokens ((styled style s).chars ++ rest) =
      .tag 0 style.toList :: (inner ++ .tag 0 ('/' :: style.toList) :: tokens rest)) :
    (styled style s).Shows (shownText (withPictures inner)) := by
  intro position count rest
  obtain ⟨name, hname, hhead, hnamed⟩ := hstyle.named
  let stop := count + (shownText (withPictures inner)).length
  refine ⟨position + style.toList.length + 2 +
    ((withPictures inner).flatMap Token.text).length + ('/' :: style.toList).length + 2,
    stop, [⟨count, stop, name⟩], by simpa using hnamed, ?_⟩
  rw [htokens, withPictures_cons (by simp), withPictures_append_tag,
    showTokens_tag (applyTag_of_isStyle hstyle hname position count []),
    showTokens_append (isText_withPictures htext) (meets_tag _ _ _ _),
    showTokens_tag (applyTag_close hstyle hname hhead ..), map_behind_map, map_behind_map]
  simp [StyledText.behind, stop]

/-- A sound piece shows its text with pictures for its codes. -/
theorem IsSound.shows {piece : Piece} (h : piece.IsSound) :
    piece.Shows (shownText (withPictures (piece.content.map Token.char))) := by
  cases piece with
  | text s =>
    obtain ⟨hs, hcolon⟩ := h
    intro position count rest
    have hcodes := withPictures_append_of_not_mem hcolon []
    rw [withPictures_nil, List.append_nil] at hcodes
    refine ⟨position + s.toList.length, count + (printed s.toList).length, [], by simp, ?_⟩
    rw [chars, content, tokens_append_of_isPlain hs, withPictures_append_of_not_mem hcolon, hcodes,
      showTokens_append (isText_chars _) (hs.meets _), flatMap_text_chars, shownText_of_isPlain hs]
  | styled style s =>
    obtain ⟨hstyle, hs⟩ := h
    exact shows_styled hstyle (isText_chars _) fun rest => tokens_styled hstyle hs rest

end Piece

section

variable {pieces : List Piece} {shown : Piece → List Char}
  (h : ∀ piece ∈ pieces, piece.Shows (shown piece))
include h

/-- Behind pieces that are shown markup is read as if it stood alone. -/
theorem exists_showTokens_pieces (position count : Nat) (rest : List Char) :
    ∃ position' count' spans, (∀ span ∈ spans, (Style.named? span.style).toBool = true) ∧
      showTokens position count [] (withPictures (tokens (pieces.flatMap Piece.chars ++ rest))) =
        (showTokens position' count' [] (withPictures (tokens rest))).map
          (StyledText.mk (pieces.flatMap shown) spans).behind := by
  induction pieces generalizing position count with
  | nil => exact ⟨position, count, [], by simp, (map_nil_behind _).symm⟩
  | cons piece pieces ih =>
    obtain ⟨hpiece, hpieces⟩ := List.forall_mem_cons.mp h
    obtain ⟨position₁, count₁, spans₁, hspans₁, hfirst⟩ :=
      hpiece position count (pieces.flatMap Piece.chars ++ rest)
    obtain ⟨position₂, count₂, spans₂, hspans₂, hothers⟩ := ih hpieces position₁ count₁
    -- Each piece closes what it opened, so the next one begins with nothing open.
    refine ⟨position₂, count₂, spans₁ ++ spans₂,
      List.forall_mem_append.mpr ⟨hspans₁, hspans₂⟩, ?_⟩
    rw [List.flatMap_cons, List.append_assoc, hfirst, hothers, map_behind_map]
    rfl

/-- Markup in pieces that are shown is shown piece by piece. -/
theorem exists_read_pieces :
    ∃ styled, read (pieces.flatMap Piece.chars) = .ok styled ∧
      styled.text = pieces.flatMap shown ∧
      ∀ span ∈ styled.spans, (Style.named? span.style).toBool = true := by
  obtain ⟨position, count, spans, hspans, hpieces⟩ := exists_showTokens_pieces h 0 0 []
  rw [List.append_nil, tokens_nil, withPictures_nil] at hpieces
  refine ⟨_, hpieces, List.append_nil _, ?_⟩
  exact List.forall_mem_append.mpr ⟨hspans, fun _ hmem => absurd hmem List.not_mem_nil⟩

/-- Markup of pieces that are shown is legible. -/
theorem isLegible_of_shows {markup : String}
    (hmarkup : markup.toList = pieces.flatMap Piece.chars) : isLegible markup = true := by
  obtain ⟨styled, hread, -, hspans⟩ := exists_read_pieces h
  unfold isLegible
  rw [hmarkup, hread]
  exact List.all_eq_true.mpr hspans

end

/-- Markup in sound pieces is legible. -/
theorem isLegible_of_pieces {markup : String} (pieces : List Piece)
    (h : ∀ piece ∈ pieces, piece.IsSound) (hmarkup : markup.toList = pieces.flatMap Piece.chars) :
    isLegible markup = true :=
  isLegible_of_shows (fun piece hpiece => (h piece hpiece).shows) hmarkup

/-- A plain text is legible, whatever codes it has. -/
theorem isLegible_of_isPlain {markup : String} (h : IsPlain markup.toList) :
    isLegible markup = true := by
  have htokens := tokens_append_of_isPlain h []
  rw [tokens_nil, List.append_nil, List.append_nil] at htokens
  have hmeet : Meets (withPictures (markup.toList.map Token.char)) [] := fun _ => by simp
  have hshown := showTokens_append (isText_withPictures (isText_chars _)) hmeet 0 0 []
  rw [List.append_nil] at hshown
  unfold isLegible read
  rw [htokens, hshown]
  rfl

end Markup

end ContractDrill
