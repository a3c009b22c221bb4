import ContractDrill.Proofs.Screen.Pieces
import ContractDrill.Proofs.Text.Trimming

/-!
# Escaped texts

An escaped text is shown as text, whatever it is: no part of it is taken for a tag, not even
together with the tags that it stands between (`isLegible_of_escaped`).

Escaping puts backslashes in front of brackets and changes nothing else, so the first bracket behind
any place stays the same (`nextBracket_escapeTags`), and where no tag began none begins afterwards.
Only backslashes at the end of the text join the tag behind it.  With an odd number of them that tag
is shown as text, and the style in front stays open to the end; this too can be shown.
-/

namespace ContractDrill

namespace Markup

/-! ### Where a tag can begin -/

/-- The first bracket of a text. -/
def nextBracket (s : List Char) : Option Char :=
  s.find? fun c => c = ']' || c = '['

theorem nextBracket_append (s rest : List Char) :
    nextBracket (s ++ rest) = (nextBracket s).or (nextBracket rest) :=
  List.find?_append ..

theorem nextBracket_backslashes (count : Nat) : nextBracket (List.replicate count '\\') = none := by
  refine List.find?_eq_none.mpr fun d hd => ?_
  rw [List.eq_of_mem_replicate hd]
  decide

theorem nextBracket_backslashes_append (count : Nat) (rest : List Char) :
    nextBracket (List.replicate count '\\' ++ '[' :: rest) = some '[' := by
  rw [nextBracket_append, nextBracket_backslashes]
  rfl

/-- What ends the body of a tag is the next bracket. -/
theorem head?_drop_takeWhile (s : List Char) :
    (s.drop (s.takeWhile fun d => d ≠ ']' && d ≠ '[').length).head? = nextBracket s := by
  induction s with
  | nil => rfl
  | cons c s ih =>
    by_cases hc : c = ']' ∨ c = '['
    · rcases hc with rfl | rfl <;> rfl
    · obtain ⟨hclose, hopen⟩ := not_or.mp hc
      simpa [nextBracket, hclose, hopen] using ih

/-- A bracket does not begin a tag if the next bracket is no closing one. -/
theorem tagBody?_eq_none_iff (c : Char) (s : List Char) :
    tagBody? (c :: s) = none ↔ (opensTag c = true → nextBracket s ≠ some ']') := by
  rw [← head?_drop_takeWhile]
  unfold tagBody?
  dsimp only
  split
  · rename_i left heq
    rw [heq]
    by_cases hc : opensTag c = true <;> simp [hc]
  · rename_i hne
    refine iff_of_true rfl fun _ hhead => ?_
    obtain ⟨left, hleft⟩ := List.head?_eq_some_iff.mp hhead
    exact hne left hleft

/-- At a bracket a tag begins just if its body does behind it. -/
theorem tag?_bracket_eq_none_iff (s : List Char) : tag? ('[' :: s) = none ↔ tagBody? s = none := by
  unfold tag?
  dsimp only
  rw [List.takeWhile_cons_of_neg (by decide)]
  exact Option.map_eq_none_iff

/-- Whether a tag begins is not changed by a backslash in front. -/
theorem tag?_backslash_eq_none_iff (s : List Char) : tag? ('\\' :: s) = none ↔ tag? s = none := by
  unfold tag?
  dsimp only
  rw [List.takeWhile_cons_of_pos (by decide), List.length_cons, List.drop_succ_cons]
  split <;> simp

/-- The body of a tag has a first character that opens one, and no bracket. -/
theorem exists_of_tagBody?_eq_some {s body left : List Char}
    (h : tagBody? s = some (body, left)) :
    ∃ c inner, body = c :: inner ∧ opensTag c = true ∧ ∀ d ∈ inner, d ≠ ']' ∧ d ≠ '[' := by
  unfold tagBody? at h
  split at h
  · cases h
  · rename_i c rest
    dsimp only at h
    split at h
    · split at h
      · rename_i hc
        obtain ⟨rfl, -⟩ := Prod.mk.inj (Option.some.inj h)
        exact ⟨c, _, rfl, hc, fun d hd => by simpa using List.mem_takeWhile_imp hd⟩
      · cases h
    · cases h

/-- The bracket of a tag is the first of the text, and none is inside. -/
theorem exists_of_tag?_eq_some {s left : List Char} {token : Token}
    (h : tag? s = some (token, left)) : nextBracket s = some '[' ∧
      ∃ backslashes c inner, token = .tag backslashes (c :: inner) ∧ opensTag c = true ∧
        ∀ d ∈ inner, d ≠ ']' ∧ d ≠ '[' := by
  have htext := eq_of_tag?_eq_some h
  unfold tag? at h
  dsimp only at h
  split at h
  · obtain ⟨⟨body, left'⟩, hbody, heq⟩ := Option.map_eq_some_iff.mp h
    obtain ⟨rfl, -⟩ := Prod.mk.inj heq
    obtain ⟨c, inner, rfl, hc, hinner⟩ := exists_of_tagBody?_eq_some hbody
    refine ⟨?_, _, c, inner, rfl, hc, hinner⟩
    rw [htext, Token.text, List.append_assoc, List.append_assoc]
    exact nextBracket_backslashes_append _ _
  · cases h

/-! ### A text in front of a tag -/

/-- A tag stays one whatever stands behind it. -/
theorem tag?_append_of_some {s left : List Char} {token : Token}
    (h : tag? s = some (token, left)) (rest : List Char) :
    tag? (s ++ rest) = some (token, left ++ rest) := by
  obtain ⟨-, backslashes, c, inner, rfl, hc, hinner⟩ := exists_of_tag?_eq_some h
  rw [eq_of_tag?_eq_some h, List.append_assoc]
  exact tag?_text hc hinner backslashes _

section

variable {tail : List Char} (htail : nextBracket tail ≠ some ']')
  (hhead : ∀ c ∈ tail.head?, opensTag c = false)
include htail hhead

/-- A bracket that begins no tag begins none when the text goes on, unless with a closing bracket
in front of any other. -/
theorem tagBody?_append {s : List Char} (h : tagBody? s = none) : tagBody? (s ++ tail) = none := by
  cases s with
  | nil =>
    cases tail with
    | nil => rfl
    | cons c tail =>
      rw [List.nil_append, tagBody?_eq_none_iff, hhead c rfl]
      exact fun hc => nomatch hc
  | cons c s =>
    rw [List.cons_append, tagBody?_eq_none_iff]
    intro hopens
    have hs := (tagBody?_eq_none_iff c s).mp h hopens
    rw [nextBracket_append]
    -- The bracket that would end the body is in the text, or it is the first one behind.
    cases hfirst : nextBracket s with
    | none => exact htail
    | some d => rwa [hfirst] at hs

/-- Where no tag begins in a text, none begins when the text goes on, unless only backslashes are
left in front of what follows. -/
theorem tag?_append {s : List Char} (h : tag? s = none) :
    tag? (s ++ tail) = none ∨ ∃ count, s = List.replicate count '\\' := by
  induction s with
  | nil => exact .inr ⟨0, rfl⟩
  | cons c s ih =>
    rw [List.cons_append]
    by_cases hback : c = '\\'
    · subst hback
      rw [tag?_backslash_eq_none_iff] at h ⊢
      refine (ih h).imp_right fun hs => ?_
      obtain ⟨count, rfl⟩ := hs
      exact ⟨count + 1, rfl⟩
    · by_cases hopen : c = '['
      · subst hopen
        rw [tag?_bracket_eq_none_iff] at h ⊢
        exact .inl (tagBody?_append htail hhead h)
      · exact .inl (tag?_eq_none ⟨hopen, hback⟩)

/-- A text that does not end with a backslash has its own tokens. -/
theorem tokens_append {s : List Char} (hlast : s.getLast? ≠ some '\\') :
    tokens (s ++ tail) = tokens s ++ tokens tail := by
  induction s using tokens.induct with
  | case1 =>
    rw [tokens_nil]
    rfl
  | case2 c s token left h ih =>
    have hleft : left.getLast? ≠ some '\\' := by
      rw [eq_of_tag?_eq_some h, List.getLast?_append] at hlast
      cases hl : left.getLast? with
      | none => simp
      | some d => rwa [hl] at hlast
    rw [tokens_of_tag h, tokens_of_tag (tag?_append_of_some h tail), ih hleft]
    rfl
  | case3 c s h ih =>
    -- A backslash at the end would be the only way to begin a tag that goes on behind.
    rcases tag?_append htail hhead h with hnone | ⟨count, hcount⟩
    · rw [List.cons_append] at hnone ⊢
      rw [tokens_cons h, tokens_cons hnone, List.cons_append]
      cases s with
      | nil => simpa using ih (by simp)
      | cons d s => rw [ih (by simpa using hlast)]
    · rw [hcount] at hlast
      cases count with
      | zero => cases hcount
      | succ count => exact absurd (by simp [List.replicate_succ']) hlast

end

/-- A text in front of a tag: the backslashes at its end join the tag. -/
theorem tokens_append_tag {s : List Char} (hlast : s.getLast? ≠ some '\\') (backslashes : Nat)
    {c : Char} {body : List Char} (hc : opensTag c = true)
    (hbody : ∀ d ∈ body, d ≠ ']' ∧ d ≠ '[') (rest : List Char) :
    tokens (s ++ List.replicate backslashes '\\' ++ '[' :: (c :: body) ++ ']' :: rest) =
      tokens s ++ .tag backslashes (c :: body) :: tokens rest := by
  have htext := tokens_text hc hbody backslashes rest
  have hnext : nextBracket (Token.text (.tag backslashes (c :: body)) ++ rest) ≠ some ']' := by
    rw [Token.text, List.append_assoc, List.append_assoc, List.cons_append,
      nextBracket_backslashes_append]
    decide
  have hhead : ∀ d ∈ (Token.text (.tag backslashes (c :: body)) ++ rest).head?,
      opensTag d = false := by
    cases backslashes <;> simp [Token.text, List.replicate_succ] <;> decide
  rw [← htext, ← tokens_append hnext hhead hlast]
  simp [Token.text]

/-- The tags of a style with any text between them: backslashes at its end join the closing tag. -/
theorem tokens_styled_append {style : List Char} (h : IsStyle style) {front : List Char}
    (hfront : front.getLast? ≠ some '\\') (count : Nat) (rest : List Char) :
    tokens ('[' :: style ++ ']' :: (front ++ List.replicate count '\\') ++
        '[' :: '/' :: style ++ [']'] ++ rest) =
      .tag 0 style :: (tokens front ++ .tag count ('/' :: style) :: tokens rest) := by
  have hinside (d : Char) (hd : d ∈ style) : d ≠ ']' ∧ d ≠ '[' :=
    ⟨(h.inside d hd).1, (h.inside d hd).2.1⟩
  obtain ⟨c, body, rfl, hopens, -⟩ := h.opens
  have hopen := tokens_tag hopens (fun d hd => hinside d (List.mem_cons_of_mem _ hd))
    (front ++ List.replicate count '\\' ++ '[' :: '/' :: (c :: body) ++ ']' :: rest)
  have hclose := tokens_append_tag hfront count (by decide : opensTag '/' = true) hinside rest
  rw [hclose] at hopen
  simpa using hopen

/-! ### Escaped texts -/

/-- The text with its tags escaped. -/
def escapeTags (s : List Char) : List Char :=
  (tokens s).flatMap escapeToken

theorem escapeTags_nil : escapeTags [] = [] := by
  rw [escapeTags, tokens]
  rfl

/-- A tag gets twice its backslashes and one more. -/
theorem escapeTags_of_tag {s left : List Char} {backslashes : Nat} {body : List Char}
    (h : tag? s = some (.tag backslashes body, left)) :
    escapeTags s = Token.text (.tag (2 * backslashes + 1) body) ++ escapeTags left := by
  rw [escapeTags, tokens_of_tag h]
  rfl

theorem escapeTags_cons {c : Char} {s : List Char} (h : tag? (c :: s) = none) :
    escapeTags (c :: s) = c :: escapeTags s := by
  rw [escapeTags, tokens_cons h]
  rfl

/-- Backslashes are put in front of brackets, and nothing else is changed. -/
theorem nextBracket_escapeTags (s : List Char) : nextBracket (escapeTags s) = nextBracket s := by
  induction s with
  | nil => rw [escapeTags_nil]
  | cons c s ih =>
    cases h : tag? (c :: s) with
    | some found =>
      obtain ⟨token, left⟩ := found
      obtain ⟨hnext, backslashes, d, inner, rfl, -, -⟩ := exists_of_tag?_eq_some h
      rw [escapeTags_of_tag h, hnext, Token.text, List.append_assoc, List.append_assoc]
      exact nextBracket_backslashes_append _ _
    | none =>
      rw [escapeTags_cons h]
      unfold nextBracket at ih ⊢
      rw [List.find?_cons, List.find?_cons, ih]

/-- What cannot begin a tag in a text cannot begin one in the escaped text either. -/
theorem tagBody?_escapeTags {s : List Char} (h : tagBody? s = none) :
    tagBody? (escapeTags s) = none := by
  cases s with
  | nil =>
    rw [escapeTags_nil]
    rfl
  | cons c s =>
    cases hc : tag? (c :: s) with
    | some found =>
      obtain ⟨token, left⟩ := found
      obtain ⟨-, backslashes, d, inner, rfl, -, -⟩ := exists_of_tag?_eq_some hc
      -- The text goes on with a backslash, with which no tag begins.
      rw [escapeTags_of_tag hc, Token.text, List.replicate_succ]
      simp only [List.cons_append]
      rw [tagBody?_eq_none_iff]
      exact fun hback => absurd hback (by decide)
    | none =>
      rw [escapeTags_cons hc, tagBody?_eq_none_iff, nextBracket_escapeTags]
      exact (tagBody?_eq_none_iff c s).mp h

/-- Where no tag begins in a text, none begins in the escaped one. -/
theorem tag?_escapeTags {s : List Char} (h : tag? s = none) : tag? (escapeTags s) = none := by
  induction s with
  | nil =>
    rw [escapeTags_nil]
    rfl
  | cons c s ih =>
    rw [escapeTags_cons h]
    by_cases hback : c = '\\'
    · subst hback
      rw [tag?_backslash_eq_none_iff] at h ⊢
      exact ih h
    · by_cases hopen : c = '['
      · subst hopen
        rw [tag?_bracket_eq_none_iff] at h ⊢
        exact tagBody?_escapeTags h
      · exact tag?_eq_none ⟨hopen, hback⟩

/-! ### Tokens of an escaped text -/

/-- No token of an escaped text is a tag. -/
theorem isText_of_mem_tokens_escapeTags {s : List Char} {token : Token}
    (h : token ∈ tokens (escapeTags s)) : token.IsText := by
  induction s using tokens.induct with
  | case1 =>
    rw [escapeTags_nil, tokens_nil] at h
    exact absurd h List.not_mem_nil
  | case2 c s found left htag ih =>
    obtain ⟨-, count, d, inner, rfl, hd, hinner⟩ := exists_of_tag?_eq_some htag
    rw [escapeTags_of_tag htag, tokens_text hd hinner] at h
    -- The number of its backslashes is odd.
    rcases List.mem_cons.mp h with rfl | h
    · exact Nat.mul_add_mod 2 count 1
    · exact ih h
  | case3 c s hnone ih =>
    have hescaped := tag?_escapeTags hnone
    rw [escapeTags_cons hnone] at h hescaped
    rw [tokens_cons hescaped] at h
    rcases List.mem_cons.mp h with rfl | h
    · trivial
    · exact ih h

/-- An escaped text is text, but for backslashes at its end. -/
theorem exists_escape_eq (s : List Char) :
    ∃ front count, escape s = front ++ List.replicate count '\\' ∧ front.getLast? ≠ some '\\' ∧
      ∀ token ∈ tokens front, token.IsText := by
  obtain ⟨front, count, hescaped, hfront⟩ := exists_eq_append_replicate '\\' (escapeTags s)
  have hnext : nextBracket (List.replicate count '\\') ≠ some ']' := by
    rw [nextBracket_backslashes]
    decide
  have hhead : ∀ c ∈ (List.replicate count '\\').head?, opensTag c = false := by
    intro c hc
    rw [List.eq_of_mem_replicate (List.mem_of_mem_head? hc)]
    decide
  have htext : ∀ token ∈ tokens front, token.IsText := by
    intro token htoken
    refine isText_of_mem_tokens_escapeTags (s := s) ?_
    rw [hescaped, tokens_append hnext hhead hfront]
    exact List.mem_append_left _ htoken
  unfold escape
  change ∃ front count, (if endsWithOneBackslash (escapeTags s) then escapeTags s ++ ['\\']
    else escapeTags s) = _ ∧ _
  -- A single backslash at the end is doubled.
  split
  · refine ⟨front, count + 1, ?_, hfront, htext⟩
    rw [hescaped, List.append_assoc, List.replicate_succ']
  · exact ⟨front, count, hescaped, hfront, htext⟩

/-! ### What is shown of an escaped text -/

/-- The end of an escaped text closes the style around it, or is shown and leaves it open. -/
theorem exists_showTokens_close {style name : List Char} (h : IsStyle style)
    (hname : tagName style = .ok name) (hhead : name.head? ≠ some '@')
    (start position count backslashes : Nat) :
    ∃ shown stop,
      showTokens position count [⟨name, none, start⟩] [.tag backslashes ('/' :: style)] =
        .ok ⟨shown, [⟨start, stop, name⟩]⟩ := by
  have hspan (stop : Nat) : OpenTag.span ⟨name, none, start⟩ stop = ⟨start, stop, name⟩ := by
    simp [OpenTag.span]
  rw [showTokens]
  dsimp only
  by_cases hodd : backslashes % 2 = 1
  · rw [if_pos hodd, showTokens, List.map_singleton, hspan]
    exact ⟨_, _, rfl⟩
  · rw [if_neg hodd, applyTag_close h hname hhead]
    exact ⟨_, _, rfl⟩

/-- A text in a style behind sound pieces is legible if it is escaped, whatever it is. -/
theorem isLegible_of_escaped {markup : String} {pieces : List Piece}
    (h : ∀ piece ∈ pieces, piece.IsSound) {style : List Char} (hstyle : IsStyle style)
    (s : List Char) (hmarkup : markup.toList = pieces.flatMap Piece.chars ++
      ('[' :: style ++ ']' :: escape s ++ '[' :: '/' :: style ++ [']'])) :
    isLegible markup = true := by
  obtain ⟨name, hname, hhead, hnamed⟩ := hstyle.named
  obtain ⟨front, backslashes, hescape, hlast, hfront⟩ := exists_escape_eq s
  obtain ⟨position, count, spans, hspans, hpieces⟩ :=
    exists_showTokens_pieces (fun piece hpiece => (h piece hpiece).shows) 0 0
      ('[' :: style ++ ']' :: escape s ++ '[' :: '/' :: style ++ [']'])
  -- The style is opened, the text is all text, and the last tag closes the style or is text as
  -- well.
  have htokens := tokens_styled_append hstyle hlast backslashes []
  rw [List.append_nil, tokens_nil, ← hescape] at htokens
  obtain ⟨shown, stop, hclose⟩ := exists_showTokens_close hstyle hname hhead count
    (position + style.length + 2 + ((withPictures (tokens front)).flatMap Token.text).length)
    (count + (shownText (withPictures (tokens front))).length) backslashes
  rw [htokens, withPictures_cons (by simp), withPictures_append_tag, withPictures_nil,
    showTokens_tag (applyTag_of_isStyle hstyle hname position count []),
    showTokens_append (isText_withPictures hfront) (meets_tag _ _ _ _), hclose] at hpieces
  unfold isLegible read
  rw [hmarkup, hpieces]
  refine List.all_eq_true.mpr (List.forall_mem_append.mpr ⟨hspans, ?_⟩)
  exact List.forall_mem_singleton.mpr hnamed

end Markup

end ContractDrill
