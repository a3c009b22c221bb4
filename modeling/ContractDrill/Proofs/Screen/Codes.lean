import ContractDrill.Screen.Markup
import Mathlib.Algebra.Group.Nat.Even
import Mathlib.Data.List.TakeWhile

/-!
# Codes

In place of a code markup shows a picture.  A tag is a cut: codes in front of it and behind it are
looked for apart (`withPictures_append_tag`).  Which texts have no code is said without the search
(`HasCode`): between blanks the colons of a text belong to codes in pairs, so a code begins at a
colon with an even number of colons in front of it (`withPictures_eq_self_iff`).

Of the pictures only one thing is needed, and only the tables know it: that nothing in them has a
meaning in markup, and that the screen drops nothing of them (`Emoji.isInk_of_picture?`).
-/

namespace ContractDrill

/-! ### Pictures -/

namespace Emoji

/-- The character has no meaning in markup, and the screen shows it. -/
def IsInk (c : Char) : Prop :=
  c ≠ ':' ∧ c ≠ '[' ∧ c ≠ '\\' ∧ isDropped c = false

instance : DecidablePred IsInk :=
  fun _ => instDecidableAnd

/-- Each character of the picture is ink. -/
def isInked (picture : List Char) : Bool :=
  picture.all (IsInk ·)

theorem isInked_append {s t : List Char} (hs : isInked s = true) (ht : isInked t = true) :
    isInked (s ++ t) = true := by
  simpa [isInked, or_imp, forall_and] using And.intro hs ht

variable {α : Type} {sought : String → Bool} {name : String} {picture : List Char}

/-- What is found in a table is one of its pictures. -/
theorem all_of_find? {table : List (α × List String)} (holds : α → Bool)
    (h : table.all (fun entry => holds entry.1) = true) {found : α}
    (hfound : find? table sought = some found) : holds found = true := by
  obtain ⟨⟨picture, names⟩, hmem, hentry⟩ := List.exists_of_findSome?_eq_some hfound
  dsimp only at hentry
  split at hentry
  · obtain rfl := Option.some.inj hentry
    exact List.all_eq_true.mp h _ hmem
  · cases hentry

/-- A picture in a tone of skin has only ink. -/
theorem isInked_withTone {tone : Char} (htone : IsInk tone) (h : isInked picture = true) :
    isInked (withTone tone picture) = true := by
  have hall := List.all_eq_true.mp h
  refine List.all_eq_true.mpr fun c hc => ?_
  unfold withTone at hc
  split at hc
  · rcases List.mem_cons.mp hc with rfl | hc
    · exact hall _ (List.mem_cons_self ..)
    · rcases List.mem_cons.mp hc with rfl | hc
      · exact decide_eq_true htone
      · exact hall _ (List.mem_cons_of_mem _ (List.mem_cons_of_mem _ hc))
  · rcases List.mem_cons.mp hc with rfl | hc
    · exact hall _ (List.mem_cons_self ..)
    · rcases List.mem_cons.mp hc with rfl | hc
      · exact decide_eq_true htone
      · exact hall _ (List.mem_cons_of_mem _ hc)
  · cases hc

theorem isInked_people : people.all (fun entry => isInked entry.1) = true := by
  decide +kernel

theorem isInked_toned? (h : toned? name = some picture) : isInked picture = true := by
  have htones : tones.all (fun tone => IsInk tone.2) = true := by decide
  obtain ⟨⟨tone, mark⟩, hmem, hpicture⟩ := List.exists_of_findSome?_eq_some h
  obtain ⟨person, hfound, rfl⟩ := Option.map_eq_some_iff.mp hpicture
  refine isInked_withTone (of_decide_eq_true (List.all_eq_true.mp htones _ hmem)) ?_
  exact all_of_find? isInked isInked_people hfound

theorem lookup_mem {table : List (String × α)} {value : α} (h : table.lookup name = some value) :
    (name, value) ∈ table := by
  obtain ⟨front, back, rfl, -⟩ := List.lookup_eq_some_iff.mp h
  exact List.mem_append_right _ (List.mem_cons_self ..)

theorem isInked_flag? (h : flag? name = some picture) : isInked picture = true := by
  have hflags : ((flags ++ namedFlags) ++ regionFlags).all (fun entry => isInked (flag entry.2)) =
      true := by decide +kernel
  have hparts : partFlags.all (fun entry => isInked (partFlag entry.2)) = true := by decide +kernel
  rcases Option.or_eq_some_iff.mp h with h | ⟨-, h⟩
  · obtain ⟨letters, hletters, rfl⟩ := Option.map_eq_some_iff.mp h
    have hmem := lookup_mem hletters
    simp only [List.mem_append, List.mem_map] at hmem
    have hall := List.all_eq_true.mp hflags
    rcases hmem with (hmem | hmem) | ⟨entry, hmem, heq⟩
    · exact hall (name, letters) (by simp [hmem])
    · exact hall (name, letters) (by simp [hmem])
    · obtain ⟨-, rfl⟩ := Prod.mk.inj heq
      exact hall entry (by simpa [or_assoc] using hmem.imp_right Or.inr)
  · obtain ⟨letters, hletters, rfl⟩ := Option.map_eq_some_iff.mp h
    exact List.all_eq_true.mp hparts _ (lookup_mem hletters)

/-- A picture that has a name in a table has only ink. -/
theorem isInked_named? (h : named? name = some picture) : isInked picture = true := by
  have hsymbols : (symbols ++ pictographs ++ faces ++ newPictographs).all
      (fun entry => isInked [entry.1]) = true := by decide +kernel
  have hsequences : (sequences ++ people).all (fun entry => isInked entry.1) = true := by
    rw [List.all_append, isInked_people, Bool.and_true]
    decide +kernel
  rcases Option.or_eq_some_iff.mp h with h | ⟨-, h⟩
  · obtain ⟨c, hc, rfl⟩ := Option.map_eq_some_iff.mp h
    exact all_of_find? (fun c => isInked [c]) hsymbols hc
  rcases Option.or_eq_some_iff.mp h with h | ⟨-, h⟩
  · exact all_of_find? isInked hsequences h
  rcases Option.or_eq_some_iff.mp h with h | ⟨-, h⟩
  · exact isInked_toned? h
  · exact isInked_flag? h

/-- A picture has nothing in it that means something in markup or that the screen drops. -/
theorem isInk_of_picture? {name : List Char} (h : picture? name = some picture) :
    ∀ c ∈ picture, IsInk c := by
  have hforms : forms.all (fun form => isInked [form.2]) = true := by decide
  obtain ⟨drawn, hdrawn, rfl⟩ := Option.map_eq_some_iff.mp h
  have hform : isInked (splitForm name).2 = true := by
    unfold splitForm
    split
    · rename_i ending form hfound
      exact List.all_eq_true.mp hforms _ (List.mem_of_find?_eq_some hfound)
    · rfl
  intro c hc
  exact of_decide_eq_true (List.all_eq_true.mp (isInked_append (isInked_named? hdrawn) hform) c hc)

end Emoji

namespace Markup

theorem flatMap_text_chars (s : List Char) : (s.map Token.char).flatMap Token.text = s := by
  induction s with
  | nil => rfl
  | cons c s ih => exact congrArg (c :: ·) ih

/-! ### The code at the front -/

/-- The characters of a name: neither colons nor blanks. -/
def IsName (s : List Char) : Prop :=
  ∀ c ∈ s, c ≠ ':' ∧ isBlank c = false

/-- The parts of a name in front of tokens are the characters of a name. -/
theorem exists_name_takeWhile (tokens : List Token) :
    ∃ name, IsName name ∧ tokens.takeWhile Token.isNamePart = name.map Token.char := by
  induction tokens with
  | nil => exact ⟨[], nofun, rfl⟩
  | cons token tokens ih =>
    by_cases hpart : token.isNamePart = true
    · cases token with
      | char c =>
        obtain ⟨name, hname, htake⟩ := ih
        have hc : c ≠ ':' ∧ isBlank c = false := by simpa [Token.isNamePart] using hpart
        refine ⟨c :: name, List.forall_mem_cons.mpr ⟨hc, hname⟩, ?_⟩
        rw [List.takeWhile_cons_of_pos hpart, htake, List.map_cons]
      | tag backslashes body => cases hpart
      | emoji code picture => cases hpart
    · exact ⟨[], nofun, List.takeWhile_cons_of_neg hpart⟩

/-- A code ends at the next colon, if no blank is in front of it. -/
theorem code?_eq_some_iff {tokens rest : List Token} {name : List Char} :
    code? tokens = some (name, rest) ↔
      IsName name ∧ tokens = name.map Token.char ++ .char ':' :: rest := by
  constructor
  · intro h
    obtain ⟨found, hfound, htake⟩ := exists_name_takeWhile tokens
    have hwhole := List.prefix_iff_eq_append.mp
      (List.takeWhile_prefix (l := tokens) Token.isNamePart)
    unfold code? at h
    dsimp only at h
    rw [htake, flatMap_text_chars] at h
    rw [htake] at hwhole
    split at h
    · rename_i hdrop
      obtain ⟨rfl, rfl⟩ := Prod.mk.inj (Option.some.inj h)
      rw [hdrop] at hwhole
      exact ⟨hfound, hwhole.symm⟩
    · cases h
  · rintro ⟨hname, rfl⟩
    have htake : (name.map Token.char ++ .char ':' :: rest).takeWhile Token.isNamePart =
        name.map Token.char := by
      rw [List.takeWhile_append_of_pos, List.takeWhile_cons_of_neg (by decide), List.append_nil]
      simpa [Token.isNamePart, IsName] using hname
    unfold code?
    dsimp only
    rw [htake, List.drop_left, flatMap_text_chars]
    rfl

/-- A code in front of a tag ends in front of it. -/
theorem code?_append_tag (front : List Token) (backslashes : Nat) (body : List Char)
    (rest : List Token) :
    code? (front ++ .tag backslashes body :: rest) =
      (code? front).map fun (name, left) => (name, left ++ .tag backslashes body :: rest) := by
  -- No name goes on over a tag.
  have htake : (front ++ .tag backslashes body :: rest).takeWhile Token.isNamePart =
      front.takeWhile Token.isNamePart := by
    rw [List.takeWhile_append, List.takeWhile_cons_of_neg (by simp [Token.isNamePart]),
      List.append_nil]
    split
    · rename_i hlength
      exact ((List.takeWhile_prefix _).eq_of_length hlength).symm
    · rfl
  have hle := (List.takeWhile_prefix (l := front) Token.isNamePart).length_le
  unfold code?
  dsimp only
  rw [htake, List.drop_append_of_le_length hle]
  cases front.drop (front.takeWhile Token.isNamePart).length with
  | nil => rfl
  | cons token left =>
    cases token with
    | char c =>
      by_cases hc : c = ':'
      · subst hc
        rfl
      · simp [hc]
    | tag backslashes body => rfl
    | emoji code picture => rfl

/-! ### The codes of a text -/

theorem withPictures_nil : withPictures [] = [] := by
  rw [withPictures]

/-- What is no colon stays. -/
theorem withPictures_cons {token : Token} (h : token ≠ .char ':') (rest : List Token) :
    withPictures (token :: rest) = token :: withPictures rest := by
  rw [withPictures]
  exact h

/-- A code at the front is replaced, and the search goes on behind it. -/
theorem withPictures_code {rest left : List Token} {name : List Char}
    (h : code? rest = some (name, left)) :
    withPictures (.char ':' :: rest) = codeTokens name ++ withPictures left := by
  rw [withPictures]
  split
  · rename_i heq
    rw [h] at heq
    obtain ⟨rfl, rfl⟩ := Prod.mk.inj (Option.some.inj heq)
    rfl
  · rename_i heq
    rw [h] at heq
    cases heq

/-- A colon without a code stays, and the search goes on behind it. -/
theorem withPictures_colon {rest : List Token} (h : code? rest = none) :
    withPictures (.char ':' :: rest) = .char ':' :: withPictures rest := by
  rw [withPictures]
  split
  · rename_i heq
    rw [h] at heq
    cases heq
  · rfl

/-- Codes in front of a tag and codes behind it are looked for apart. -/
theorem withPictures_append_tag (front : List Token) (backslashes : Nat) (body : List Char)
    (rest : List Token) :
    withPictures (front ++ .tag backslashes body :: rest) =
      withPictures front ++ .tag backslashes body :: withPictures rest := by
  induction front using withPictures.induct with
  | case1 =>
    rw [withPictures_nil, List.nil_append, withPictures_cons (by simp)]
    rfl
  | case2 front name left hcode ih =>
    have hcode' := code?_append_tag front backslashes body rest
    rw [hcode] at hcode'
    rw [List.cons_append, withPictures_code hcode', withPictures_code hcode, ih, List.append_assoc]
  | case3 front hcode ih =>
    have hcode' := code?_append_tag front backslashes body rest
    rw [hcode] at hcode'
    rw [List.cons_append, withPictures_colon hcode', withPictures_colon hcode, ih]
    rfl
  | case4 token front hne ih =>
    rw [List.cons_append, withPictures_cons hne, withPictures_cons hne, ih]
    rfl

/-- A text without a colon has no part in a code. -/
theorem withPictures_append_of_not_mem {s : List Char} (h : ':' ∉ s) (rest : List Token) :
    withPictures (s.map Token.char ++ rest) = s.map Token.char ++ withPictures rest := by
  induction s with
  | nil => rfl
  | cons c s ih =>
    obtain ⟨hc, hs⟩ := List.ne_and_not_mem_of_not_mem_cons h
    rw [List.map_cons, List.cons_append, withPictures_cons (by simpa using hc.symm), ih hs]
    rfl

/-- A code keeps its text, whether it has a picture or not. -/
theorem flatMap_text_codeTokens (name : List Char) :
    (codeTokens name).flatMap Token.text = ':' :: name ++ [':'] := by
  unfold codeTokens
  dsimp only
  split
  · exact List.append_nil _
  · exact flatMap_text_chars _

/-- Tokens with their codes make up the same text. -/
theorem flatMap_text_withPictures (tokens : List Token) :
    (withPictures tokens).flatMap Token.text = tokens.flatMap Token.text := by
  induction tokens using withPictures.induct with
  | case1 => rw [withPictures_nil]
  | case2 rest name left hcode ih =>
    obtain ⟨-, rfl⟩ := code?_eq_some_iff.mp hcode
    rw [withPictures_code hcode, List.flatMap_append, flatMap_text_codeTokens, ih]
    simp [flatMap_text_chars, Token.text]
  | case3 rest hcode ih => rw [withPictures_colon hcode, List.flatMap_cons, ih, List.flatMap_cons]
  | case4 token rest hne ih =>
    rw [withPictures_cons hne, List.flatMap_cons, ih, List.flatMap_cons]

/-- Only codes with the name of a picture are new tokens. -/
theorem mem_or_exists_of_mem_withPictures {token : Token} {tokens : List Token}
    (h : token ∈ withPictures tokens) :
    token ∈ tokens ∨ ∃ name picture, token = .emoji (':' :: name ++ [':']) picture ∧
      Emoji.picture? name = some picture := by
  -- The cases are those of the search: nothing, a code, a colon without a code, anything else.
  induction tokens using withPictures.induct with
  | case1 =>
    rw [withPictures_nil] at h
    cases h
  | case2 rest name left hcode ih =>
    obtain ⟨-, rfl⟩ := code?_eq_some_iff.mp hcode
    rw [withPictures_code hcode] at h
    rcases List.mem_append.mp h with h | h
    · unfold codeTokens at h
      dsimp only at h
      split at h
      · rename_i picture hpicture
        exact .inr ⟨name, picture, List.mem_singleton.mp h, hpicture⟩
      · refine .inl ?_
        have hmem : token = .char ':' ∨ ∃ c ∈ name, Token.char c = token := by
          simpa [or_comm] using h
        rcases hmem with rfl | hmem
        · exact List.mem_cons_self ..
        · exact List.mem_cons_of_mem _ (List.mem_append_left _ (List.mem_map.mpr hmem))
    · refine (ih h).imp_left fun hmem => ?_
      simp [hmem]
  | case3 rest hcode ih =>
    rw [withPictures_colon hcode] at h
    rcases List.mem_cons.mp h with rfl | h
    · exact .inl (List.mem_cons_self ..)
    · exact (ih h).imp_left (List.mem_cons_of_mem _)
  | case4 other rest hne ih =>
    rw [withPictures_cons hne] at h
    rcases List.mem_cons.mp h with rfl | h
    · exact .inl (List.mem_cons_self ..)
    · exact (ih h).imp_left (List.mem_cons_of_mem _)

/-- Tokens among which no picture is found stay as they are. -/
theorem withPictures_eq_self {tokens : List Token}
    (h : ∀ code picture, .emoji code picture ∉ withPictures tokens) :
    withPictures tokens = tokens := by
  induction tokens using withPictures.induct with
  | case1 => exact withPictures_nil
  | case2 rest name left hcode ih =>
    obtain ⟨-, rfl⟩ := code?_eq_some_iff.mp hcode
    rw [withPictures_code hcode] at h ⊢
    have hleft := ih fun code picture hmem => h code picture (List.mem_append_right _ hmem)
    unfold codeTokens at h ⊢
    dsimp only at h ⊢
    split at h
    · rename_i picture _
      exact absurd (List.mem_cons_self ..) (h (':' :: name ++ [':']) picture)
    · simp [hleft]
  | case3 rest hcode ih =>
    rw [withPictures_colon hcode] at h ⊢
    rw [ih fun code picture hmem => h code picture (List.mem_cons_of_mem _ hmem)]
  | case4 token rest hne ih =>
    rw [withPictures_cons hne] at h ⊢
    rw [ih fun code picture hmem => h code picture (List.mem_cons_of_mem _ hmem)]

/-! ### Texts with a code -/

/-- How many colons the text has behind its last blank. -/
def wordColons (s : List Char) : Nat :=
  (s.reverse.takeWhile (!isBlank ·)).count ':'

/-- Somewhere in the text there is a code with the name of a picture.  The colons between the blank
in front of it and its own first one belong to other codes, so they are even in number. -/
def HasCode (s : List Char) : Prop :=
  ∃ front name behind, s = front ++ ':' :: (name ++ ':' :: behind) ∧ IsName name ∧
    (Emoji.picture? name).isSome = true ∧ Even (wordColons front)

/-- Only the colons behind the last blank count. -/
theorem wordColons_append_of_isBlank {t : List Char} (h : ∃ c ∈ t, isBlank c = true)
    (s : List Char) : wordColons (s ++ t) = wordColons t := by
  unfold wordColons
  rw [List.reverse_append, List.takeWhile_append, if_neg]
  intro hlength
  obtain ⟨c, hc, hblank⟩ := h
  have hall := (List.takeWhile_prefix _).eq_of_length hlength
  have hkept := List.mem_takeWhile_imp (hall.symm ▸ List.mem_reverse.mpr hc)
  simp [hblank] at hkept

/-- Without a blank all colons count. -/
theorem wordColons_append_of_not_isBlank {t : List Char} (h : ∀ c ∈ t, isBlank c = false)
    (s : List Char) : wordColons (s ++ t) = wordColons s + t.count ':' := by
  unfold wordColons
  rw [List.reverse_append, List.takeWhile_append_of_pos (by simpa using h), List.count_append,
    List.count_reverse, Nat.add_comm]

/-- What a text has in front of it matters only if it has no blank itself. -/
theorem wordColons_append_congr (s s' : List Char)
    (h : Even (wordColons s) ↔ Even (wordColons s')) (t : List Char) :
    Even (wordColons (s ++ t)) ↔ Even (wordColons (s' ++ t)) := by
  by_cases hblank : ∃ c ∈ t, isBlank c = true
  · rw [wordColons_append_of_isBlank hblank, wordColons_append_of_isBlank hblank]
  · have hnone : ∀ c ∈ t, isBlank c = false := by simpa using hblank
    rw [wordColons_append_of_not_isBlank hnone, wordColons_append_of_not_isBlank hnone,
      Nat.even_add, Nat.even_add, h]

/-- A text without colons in front of one goes on to its first colon. -/
theorem eq_or_exists_of_append_colon {name s front t : List Char} (hname : ':' ∉ name)
    (h : name ++ ':' :: s = front ++ ':' :: t) :
    front = name ∧ s = t ∨ ∃ more, front = name ++ ':' :: more ∧ s = more ++ ':' :: t := by
  induction name generalizing front with
  | nil =>
    cases front with
    | nil => exact .inl ⟨rfl, (List.cons.inj h).2⟩
    | cons c more =>
      obtain ⟨rfl, hs⟩ := List.cons.inj h
      exact .inr ⟨more, rfl, hs⟩
  | cons c name ih =>
    obtain ⟨hc, hname⟩ := List.ne_and_not_mem_of_not_mem_cons hname
    cases front with
    | nil => exact absurd (List.cons.inj h).1.symm hc
    | cons d front =>
      obtain ⟨rfl, htail⟩ := List.cons.inj h
      rcases ih hname htail with ⟨rfl, hs⟩ | ⟨more, rfl, hs⟩
      · exact .inl ⟨rfl, hs⟩
      · exact .inr ⟨more, rfl, hs⟩

/-- A text without blanks in front of a colon goes on to its first colon with a name. -/
theorem exists_name_append_colon {front : List Char} (h : ∀ c ∈ front, isBlank c = false)
    (t : List Char) :
    ∃ name behind, IsName name ∧ front ++ ':' :: t = name ++ ':' :: behind := by
  induction front with
  | nil => exact ⟨[], t, nofun, rfl⟩
  | cons c front ih =>
    obtain ⟨hc, hfront⟩ := List.forall_mem_cons.mp h
    by_cases hcolon : c = ':'
    · exact ⟨[], front ++ ':' :: t, nofun, by rw [hcolon]; rfl⟩
    · obtain ⟨name, behind, hname, heq⟩ := ih hfront
      exact ⟨c :: name, behind, List.forall_mem_cons.mpr ⟨⟨hcolon, hc⟩, hname⟩, by simp [heq]⟩

theorem IsName.not_mem {name : List Char} (h : IsName name) : ':' ∉ name :=
  fun hmem => (h _ hmem).1 rfl

/-- A text with less than two colons has no code. -/
theorem not_hasCode_of_count {s : List Char} (h : s.count ':' < 2) : ¬HasCode s := by
  rintro ⟨front, name, behind, rfl, -⟩
  simp only [List.count_append, List.count_cons_self] at h
  omega

/-- A character that is no colon has no part in a code behind it. -/
theorem hasCode_cons_iff {c : Char} (hc : c ≠ ':') {s : List Char} :
    HasCode (c :: s) ↔ HasCode s := by
  have hcongr (front : List Char) : Even (wordColons (c :: front)) ↔ Even (wordColons front) := by
    have hzero : wordColons [c] = 0 := by
      unfold wordColons
      rw [List.count_eq_zero]
      intro hmem
      exact hc (List.mem_singleton.mp ((List.takeWhile_prefix _).subset hmem)).symm
    exact wordColons_append_congr [c] [] (by rw [hzero]; rfl) front
  constructor
  · rintro ⟨front, name, behind, heq, hname, hpicture, heven⟩
    cases front with
    | nil => exact absurd (List.cons.inj heq).1 hc
    | cons d front =>
      obtain ⟨rfl, rfl⟩ := List.cons.inj heq
      exact ⟨front, name, behind, rfl, hname, hpicture, (hcongr front).mp heven⟩
  · rintro ⟨front, name, behind, rfl, hname, hpicture, heven⟩
    exact ⟨c :: front, name, behind, rfl, hname, hpicture, (hcongr front).mpr heven⟩

/-- Behind a code a text is read as if it stood alone. -/
theorem hasCode_code_iff {name : List Char} (hname : IsName name) {s : List Char} :
    HasCode (':' :: (name ++ ':' :: s)) ↔ (Emoji.picture? name).isSome = true ∨ HasCode s := by
  have hnone : name.count ':' = 0 := List.count_eq_zero.mpr hname.not_mem
  have hblank : ∀ c ∈ ':' :: name, isBlank c = false :=
    List.forall_mem_cons.mpr ⟨by decide, fun c hc => (hname c hc).2⟩
  have hone : wordColons (':' :: name) = 1 := by
    have hcount := wordColons_append_of_not_isBlank hblank []
    rw [List.nil_append, List.count_cons_self, hnone] at hcount
    exact hcount
  -- A name between two colons leaves the count of the colons even or odd, as it was.
  have hpair (front : List Char) :
      Even (wordColons (':' :: (name ++ ':' :: front))) ↔ Even (wordColons front) := by
    have htwo : wordColons (':' :: name ++ [':']) = 2 := by
      rw [wordColons_append_of_not_isBlank (List.forall_mem_singleton.mpr (by decide)), hone]
      rfl
    have hcongr := wordColons_append_congr (':' :: name ++ [':']) [] (by rw [htwo]; decide) front
    simpa using hcongr
  constructor
  · rintro ⟨front, name', behind, heq, hname', hpicture, heven⟩
    cases front with
    | nil =>
      rcases eq_or_exists_of_append_colon hname.not_mem (List.cons.inj heq).2
        with ⟨rfl, -⟩ | ⟨more, rfl, -⟩
      · exact .inl hpicture
      · exact absurd (by simp) hname'.not_mem
    | cons c front =>
      obtain ⟨rfl, htail⟩ := List.cons.inj heq
      rcases eq_or_exists_of_append_colon hname.not_mem htail with ⟨rfl, -⟩ | ⟨more, rfl, rfl⟩
      · rw [hone] at heven
        exact absurd heven (by decide)
      · refine .inr ⟨more, name', behind, by simp, hname', hpicture, (hpair more).mp heven⟩
  · rintro (hpicture | ⟨front, name', behind, rfl, hname', hpicture, heven⟩)
    · exact ⟨[], name, s, rfl, hname, hpicture, Even.zero⟩
    · exact ⟨':' :: (name ++ ':' :: front), name', behind, by simp, hname', hpicture,
        (hpair front).mpr heven⟩

/-- A colon that begins no code has a blank behind it before the next one. -/
theorem hasCode_colon_iff {s : List Char}
    (h : ∀ name behind, IsName name → s ≠ name ++ ':' :: behind) :
    HasCode (':' :: s) ↔ HasCode s := by
  -- Every colon further on stands behind a blank, so this one does not count for it.
  have hcongr {front t : List Char} (hs : s = front ++ ':' :: t) :
      wordColons (':' :: front) = wordColons front := by
    refine wordColons_append_of_isBlank ?_ [':']
    by_contra hblank
    have hnone : ∀ c ∈ front, isBlank c = false := by simpa using hblank
    obtain ⟨name, behind, hname, heq⟩ := exists_name_append_colon hnone t
    exact h name behind hname (hs.trans heq)
  constructor
  · rintro ⟨front, name, behind, heq, hname, hpicture, heven⟩
    cases front with
    | nil => exact absurd (List.cons.inj heq).2 (h name behind hname)
    | cons c front =>
      obtain ⟨rfl, htail⟩ := List.cons.inj heq
      refine ⟨front, name, behind, htail, hname, hpicture, ?_⟩
      rwa [← hcongr htail]
  · rintro ⟨front, name, behind, heq, hname, hpicture, heven⟩
    refine ⟨':' :: front, name, behind, by rw [heq]; rfl, hname, hpicture, ?_⟩
    rwa [hcongr heq]

theorem exists_of_code?_chars {s name : List Char} {left : List Token}
    (h : code? (s.map Token.char) = some (name, left)) :
    IsName name ∧ ∃ behind, s = name ++ ':' :: behind ∧ left = behind.map Token.char := by
  obtain ⟨hname, hs⟩ := code?_eq_some_iff.mp h
  obtain ⟨front, back, rfl, hfront, hback⟩ := List.map_eq_append_iff.mp hs
  obtain ⟨c, behind, rfl, hc, rfl⟩ := List.map_eq_cons_iff.mp hback
  obtain rfl := Token.char.inj hc
  obtain rfl := (List.map_inj_right fun _ _ => Token.char.inj).mp hfront
  exact ⟨hname, behind, rfl, rfl⟩

/-- Nothing is shown as a picture just in a text without codes. -/
theorem withPictures_eq_self_iff (s : List Char) :
    withPictures (s.map Token.char) = s.map Token.char ↔ ¬HasCode s := by
  -- A code takes several characters at once, so the induction is on the length.
  induction hlength : s.length using Nat.strong_induction_on generalizing s with
  | _ length ih =>
    cases s with
    | nil => exact iff_of_true withPictures_nil (not_hasCode_of_count (by decide))
    | cons c s =>
      rw [List.length_cons] at hlength
      by_cases hc : c = ':'
      · subst hc
        cases hcode : code? (s.map Token.char) with
        | none =>
          have hnone (name behind : List Char) (hname : IsName name) :
              s ≠ name ++ ':' :: behind := by
            rintro rfl
            rw [List.map_append, List.map_cons, code?_eq_some_iff.mpr ⟨hname, rfl⟩] at hcode
            cases hcode
          rw [List.map_cons, withPictures_colon hcode, hasCode_colon_iff hnone,
            ← ih s.length (by omega) s rfl, List.cons_inj_right]
        | some found =>
          obtain ⟨name, left⟩ := found
          obtain ⟨hname, behind, rfl, rfl⟩ := exists_of_code?_chars hcode
          rw [List.length_append, List.length_cons] at hlength
          rw [List.map_cons, withPictures_code hcode, hasCode_code_iff hname]
          unfold codeTokens
          dsimp only
          cases hpicture : Emoji.picture? name with
          | some picture =>
            exact iff_of_false (fun heq => nomatch (List.cons.inj heq).1)
              fun hfree => hfree (.inl rfl)
          | none =>
            have hbehind := ih behind.length (by omega) behind rfl
            simpa using hbehind
      · rw [List.map_cons, withPictures_cons (by simpa using hc), hasCode_cons_iff hc,
          ← ih s.length (by omega) s rfl, List.cons_inj_right]

end Markup

end ContractDrill
