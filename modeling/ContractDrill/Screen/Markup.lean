import ContractDrill.Screen.Emoji
import ContractDrill.Screen.Parameters
import ContractDrill.Screen.Row
import ContractDrill.Screen.StyleName

/-!
# Markup

Texts for the screen carry tags in brackets: `[bold]` opens a style, `[/bold]` closes the latest one
of that name, and `[/]` the latest of all.  What is shown is the text without its tags; `read` also
keeps which part of it has which style.  The name of a picture between colons, such as `:key:`, is a
code for which the picture is shown.

A tag begins with a bracket and a small letter, `#`, `/` or `@`, and has no bracket inside.  What
stands behind an equals sign in it are its parameters.
Backslashes in front of a tag belong to it: each two of them show one, and an odd one takes the
bracket for text.  `Markup.escape` puts such backslashes into a text that is to be shown as it is.

The grammar of the tags, and what is shown, are those of rich 15.
-/

namespace ContractDrill

namespace Markup

/-! ### Tokens -/

/-- A part of a markup text: a character, a tag with its backslashes, or a code with its colons and
the picture that is shown for it. -/
inductive Token where
  | char (c : Char)
  | tag (backslashes : Nat) (body : List Char)
  | emoji (code picture : List Char)
  deriving DecidableEq

/-- The text of a token. -/
def Token.text : Token → List Char
  | char c => [c]
  | tag backslashes body => List.replicate backslashes '\\' ++ '[' :: body ++ [']']
  | emoji code _ => code

/-- Whether a tag may begin with `c`. -/
def opensTag (c : Char) : Bool :=
  ('a' ≤ c && c ≤ 'z') || c = '#' || c = '/' || c = '@'

/-- The body of the tag whose bracket stands in front of `s`, and the text behind the tag. -/
def tagBody? (s : List Char) : Option (List Char × List Char) :=
  match s with
  | [] => none
  | c :: rest =>
    let body := rest.takeWhile fun d => d ≠ ']' && d ≠ '['
    match rest.drop body.length with
    | ']' :: left => if opensTag c then some (c :: body, left) else none
    | _ => none

/-- The tag at the front of a text, and the text behind it. -/
def tag? (s : List Char) : Option (Token × List Char) :=
  let backslashes := (s.takeWhile (· = '\\')).length
  match s.drop backslashes with
  | '[' :: rest => (tagBody? rest).map fun (body, left) => (.tag backslashes body, left)
  | _ => none

/-- Behind a tag there is less text left. -/
theorem length_lt_of_tag? {s left : List Char} {token : Token} (h : tag? s = some (token, left)) :
    left.length < s.length := by
  unfold tag? at h
  dsimp only at h
  split at h
  · rename_i rest hdrop
    obtain ⟨⟨body, left'⟩, hbody, heq⟩ := Option.map_eq_some_iff.1 h
    obtain ⟨-, rfl⟩ := Prod.mk.inj heq
    have hle : rest.length < s.length := by
      have := congrArg List.length hdrop
      simp only [List.length_drop, List.length_cons] at this
      omega
    refine Nat.lt_trans ?_ hle
    unfold tagBody? at hbody
    split at hbody
    · contradiction
    · rename_i c rest'
      dsimp only at hbody
      split at hbody
      · rename_i left'' hleft
        split at hbody
        · obtain ⟨-, rfl⟩ := Prod.mk.inj (Option.some.inj hbody)
          have := congrArg List.length hleft
          simp only [List.length_drop, List.length_cons] at this ⊢
          omega
        · contradiction
      · contradiction
  · contradiction

/-- The characters and tags of a text. -/
def tokens (s : List Char) : List Token :=
  match s with
  | [] => []
  | c :: rest =>
    match _h : tag? (c :: rest) with
    | some (token, left) => token :: tokens left
    | none => .char c :: tokens rest
  termination_by s.length
  decreasing_by
    · exact length_lt_of_tag? _h
    · simp

/-! ### Codes -/

/-- Whether a token can stand in the name of a code. -/
def Token.isNamePart : Token → Bool
  | char c => c ≠ ':' && !isBlank c
  | _ => false

/-- The name in the code of which the first colon stands in front of the tokens, and the tokens
behind its second colon. -/
def code? (tokens : List Token) : Option (List Char × List Token) :=
  let name := tokens.takeWhile Token.isNamePart
  match tokens.drop name.length with
  | .char ':' :: rest => some (name.flatMap Token.text, rest)
  | _ => none

/-- Behind a code there are fewer tokens left. -/
theorem length_lt_of_code? {tokens rest : List Token} {name : List Char}
    (h : code? tokens = some (name, rest)) : rest.length < tokens.length := by
  unfold code? at h
  dsimp only at h
  split at h
  · rename_i left hdrop
    obtain ⟨-, rfl⟩ := Prod.mk.inj (Option.some.inj h)
    have hlength := congrArg List.length hdrop
    simp only [List.length_drop, List.length_cons] at hlength
    omega
  · contradiction

/-- The code with the name, or its characters, if no picture has this name. -/
def codeTokens (name : List Char) : List Token :=
  let code := ':' :: name ++ [':']
  match Emoji.picture? name with
  | some picture => [.emoji code picture]
  | none => code.map .char

/-- The tokens with their codes.  Codes are looked for from left to right, and a colon belongs to
one of them at most, also if no picture has its name. -/
def withPictures (tokens : List Token) : List Token :=
  match tokens with
  | [] => []
  | .char ':' :: rest =>
    match _h : code? rest with
    | some (name, left) => codeTokens name ++ withPictures left
    | none => .char ':' :: withPictures rest
  | token :: rest => token :: withPictures rest
  termination_by tokens.length
  decreasing_by
    · exact Nat.lt_succ_of_lt (length_lt_of_code? _h)
    · simp
    · simp

/-- The picture of a code, and the text of any other token. -/
def Token.drawn : Token → List Char
  | emoji _ picture => picture
  | token => token.text

/-- A text with pictures in place of its codes. -/
def pictured (s : List Char) : List Char :=
  (withPictures (s.map .char)).flatMap Token.drawn

/-! ### Errors -/

/-- Why a markup text cannot be shown. -/
inductive Error where
  | unmatched (tag : List Char) (position : Nat)
  | nothingToClose (position : Nat)
  /-- The parameters of a tag are wrong, in the value among them. -/
  | parameters (value all : List Char) (fault : Parameters.Fault)
  | level (wrong : LevelFault)
  deriving DecidableEq

/-- What a report says of an error. -/
def Error.message : Error → String
  | unmatched tag position =>
    s!"closing tag '{String.ofList tag}' at position {position} doesn't match any open tag"
  | nothingToClose position => s!"closing tag '[/]' at position {position} has nothing to close"
  | parameters value all fault =>
    let part := if fault.concernsValue then "" else s!"{quoted (String.ofList value)} in "
    s!"error parsing {part}{quoted (String.ofList all)}; {fault.message}"
  | level wrong => wrong.message

/-! ### Reading -/

/-- A tag that is open. -/
structure OpenTag where
  /-- The name, as `canonicalStyle` has it. -/
  name : List Char
  parameters : Option (List Char)
  /-- How many characters are shown in front of the tag. -/
  start : Nat

/-- A part of what is shown, and the name of its style, which is empty if a handler covers it. -/
structure Span where
  start : Nat
  stop : Nat
  style : List Char

/-- What is shown of a markup text, and its styles in the order in which their tags are closed. -/
structure StyledText where
  text : List Char
  spans : List Span

/-- The name in a tag, and its parameters, if it has any. -/
def splitTag (body : List Char) : List Char × Option (List Char) :=
  let name := body.takeWhile (· ≠ '=')
  (name, (body.drop name.length).tail?)

/-- The part of the text that an open tag covers, if it ends at `stop`; the parameters belong to
the name of its style. -/
def OpenTag.span (tag : OpenTag) (stop : Nat) : Span where
  start := tag.start
  stop := stop
  style := tag.name ++ (tag.parameters.map (' ' :: ·)).getD []

/-- Whether a tag is there for more than a style. -/
def OpenTag.isHandler (tag : OpenTag) : Bool :=
  tag.name.head? = some '@'

/-- What is left open of `rest` when a tag is closed at `stop`, and what the tag covers. -/
def close (tag : OpenTag) (rest : List OpenTag) (stop : Nat) :
    Except Error (List OpenTag × List Span) :=
  if tag.isHandler then
    let all := tag.parameters.getD []
    let value := Parameters.value all
    match Parameters.fault? value with
    | some fault => .error (.parameters value all fault)
    | none => .ok (rest, [⟨tag.start, stop, []⟩])
  else .ok (rest, [tag.span stop])

/-- The name that stands for a style in tags. -/
def tagName (style : List Char) : Except Error (List Char) :=
  (canonicalStyle style).mapError .level

/-- The tags that are open behind a tag, the latest first, and what a closed one covers.  The
bracket of the tag stands at `position`, and `count` characters are shown in front of it. -/
def applyTag (body : List Char) (position count : Nat) (opened : List OpenTag) :
    Except Error (List OpenTag × List Span) := do
  let (name, parameters) := splitTag body
  match name with
  | '/' :: style =>
    if trimBy isBlank style = [] then
      match opened with
      | [] => throw (.nothingToClose position)
      | tag :: rest => close tag rest count
    else
      let style ← tagName style
      match opened.find? (·.name = style) with
      | none => throw (.unmatched ('[' :: body ++ [']']) position)
      | some tag => close tag (opened.eraseP (·.name = style)) count
  | name => return (⟨← tagName name, parameters, count⟩ :: opened, [])

/-- What is shown of tokens that stand at `position` behind `count` characters that are shown, where
the tags `opened` are open.  Tags that stay open reach to the end. -/
def showTokens (position count : Nat) (opened : List OpenTag) :
    List Token → Except Error StyledText
  | [] => .ok ⟨[], opened.map (·.span count)⟩
  | .char '\\' :: .char '[' :: rest => do
    let ⟨text, spans⟩ ← showTokens (position + 2) (count + 1) opened rest
    return ⟨'[' :: text, spans⟩
  | .char c :: rest => do
    let front := printed [c]
    let ⟨text, spans⟩ ← showTokens (position + 1) (count + front.length) opened rest
    return ⟨front ++ text, spans⟩
  | .tag backslashes body :: rest => do
    let behind := position + backslashes + body.length + 2
    let front := List.replicate (backslashes / 2) '\\'
    -- The last of an odd number of backslashes takes the tag for text.
    if backslashes % 2 = 1 then
      let front := front ++ printed (pictured ('[' :: body ++ [']']))
      let ⟨text, spans⟩ ← showTokens behind (count + front.length) opened rest
      return ⟨front ++ text, spans⟩
    else
      let count := count + front.length
      let (opened, closed) ← applyTag body (position + backslashes) count opened
      let ⟨text, spans⟩ ← showTokens behind count opened rest
      return ⟨front ++ text, closed ++ spans⟩
  | .emoji code picture :: rest => do
    let front := printed picture
    let ⟨text, spans⟩ ← showTokens (position + code.length) (count + front.length) opened rest
    return ⟨front ++ text, spans⟩

/-- What is shown of a markup text. -/
def read (s : List Char) : Except Error StyledText :=
  showTokens 0 0 [] (withPictures (tokens s))

/-! ### Escaping -/

/-- A token with as many backslashes as make it text. -/
def escapeToken : Token → List Char
  | .tag backslashes body => Token.text (.tag (2 * backslashes + 1) body)
  | token => token.text

/-- Whether a text ends with exactly one backslash. -/
def endsWithOneBackslash (s : List Char) : Bool :=
  match s.reverse with
  | '\\' :: '\\' :: _ => false
  | '\\' :: _ => true
  | _ => false

/-- The markup text that shows `s` as it is. -/
def escape (s : List Char) : List Char :=
  let escaped := (tokens s).flatMap escapeToken
  if endsWithOneBackslash escaped then escaped ++ ['\\'] else escaped

end Markup

end ContractDrill
