import ContractDrill.Screen.Palette
import ContractDrill.Text.LetterCase
import ContractDrill.Text.Numeral
import ContractDrill.Text.Quoted

/-!
# Names of styles

A style is named by words: qualities such as `bold`, each possibly behind `not`, a color, a second
color behind `on`, and an address behind `link`.  Many names stand for one style, and
`canonicalStyle` picks one of them.  A name that is no style stands for itself, without regard to
case.  Only a color of three levels can be wrong: if it has the form of one, its levels have to be
numbers.
-/

namespace ContractDrill

/-! ### Parts of a style -/

/-- The qualities in the order in which a name lists them. -/
def styleQualities : List String :=
  ["bold", "dim", "italic", "underline", "blink", "blink2", "reverse", "conceal", "strike",
   "underline2", "frame", "encircle", "overline"]

/-- The short words for qualities. -/
def shortWords : List (String × String) :=
  [("b", "bold"), ("d", "dim"), ("i", "italic"), ("u", "underline"), ("r", "reverse"),
   ("c", "conceal"), ("s", "strike"), ("uu", "underline2"), ("o", "overline")]

/-- The quality that a word stands for. -/
def quality? (word : List Char) : Option String :=
  let name := String.ofList word
  match shortWords.lookup name with
  | some quality => some quality
  | none => if name ∈ styleQualities then some name else none

/-- What stands between `opening` and a closing parenthesis. -/
def inParentheses? (opening : String) (s : List Char) : Option (List Char) :=
  if opening.toList.isPrefixOf s then
    match (s.drop opening.length).reverse with
    | ')' :: inside => some inside.reverse
    | _ => none
  else none

/-- Whether a word is the number of a color. -/
def isColorNumber (word : List Char) : Bool :=
  match inParentheses? "color(" word with
  | some number =>
    number ≠ [] && number.length ≤ 3 && number.all Char.isDigit && digitsToNat number ≤ 255
  | none => false

/-- Whether a word is `#` with six hexadecimal digits. -/
def isHexColor : List Char → Bool
  | '#' :: digits => digits.length = 6 && digits.all fun c => (hexValue? c).isSome
  | _ => false

/-! ### Colors of three levels -/

/-- A level of a color that is no number. -/
structure LevelFault where
  text : List Char
  fault : NumeralFault
  deriving DecidableEq

/-- What a report says of a wrong level. -/
def LevelFault.message (wrong : LevelFault) : String :=
  wrong.fault.message (String.ofList wrong.text)

/-- The three texts between the commas of a color that is given by its levels. -/
def levelTexts? (word : List Char) : Option (List (List Char)) :=
  (inParentheses? "rgb(" word).bind fun levels =>
    let texts := levels.splitOnP (· = ',')
    let areDigits := texts.all (·.all fun c => (digitValue? c).isSome)
    if texts.length = 3 ∧ areDigits then some texts else none

/-- A level of a color. -/
def readLevel (s : List Char) : Except LevelFault Int :=
  (readInteger s).mapError (LevelFault.mk s)

/-- Whether a word without capital letters is a color: a name, `#` with six hexadecimal digits, the
number of a color, or three levels of at most 255. -/
def isColor (word : List Char) : Except LevelFault Bool :=
  if isColorName word || isHexColor word || isColorNumber word then .ok true
  else match levelTexts? word with
    | none => .ok false
    | some texts => (texts.mapM readLevel).map fun levels => levels.all (· ≤ 255)

/-! ### Styles -/

/-- What the words of a name ask for. -/
structure Style where
  /-- The qualities that are asked for or ruled out, the latest word on each first. -/
  flags : List (String × Bool)
  color : Option (List Char)
  background : Option (List Char)
  link : Option (List Char)

namespace Style

/-- The style that asks for nothing. -/
def plain : Style := ⟨[], none, none, none⟩

/-- The style that words add up to, beginning with `style`; `none` if a word is not one of a style.
The words behind such a word are not looked at. -/
def addWords (style : Style) : List (List Char) → Except LevelFault (Option Style)
  | [] => .ok (some style)
  | word :: rest =>
    let word := lowerCase word
    if word = "on".toList then
      match rest with
      | [] => .ok none
      | color :: rest => do
        let color := lowerCase color
        if ← isColor color then addWords { style with background := some color } rest
        else return none
    else if word = "not".toList then
      match rest with
      | [] => .ok none
      | name :: rest =>
        match quality? name with
        | some quality => addWords { style with flags := (quality, false) :: style.flags } rest
        | none => .ok none
    else if word = "link".toList then
      match rest with
      | [] => .ok none
      | address :: rest => addWords { style with link := some address } rest
    else
      match quality? word with
      | some quality => addWords { style with flags := (quality, true) :: style.flags } rest
      | none => do
        if ← isColor word then addWords { style with color := some word } rest
        else return none

/-- The style with a name, if there is one. -/
def named? (name : List Char) : Except LevelFault (Option Style) :=
  let trimmed := trimBy isBlank name
  if trimmed = [] ∨ trimmed = "none".toList then .ok (some plain)
  else plain.addWords (blankWords name)

/-- The words of a quality in the name of a style. -/
def qualityWords (style : Style) (quality : String) : List (List Char) :=
  match style.flags.lookup quality with
  | some true => [quality.toList]
  | some false => ["not".toList, quality.toList]
  | none => []

/-- The words of the name of a style. -/
def words (style : Style) : List (List Char) :=
  styleQualities.flatMap style.qualityWords ++ style.color.toList ++
    (style.background.map fun color => ["on".toList, color]).getD [] ++
    (style.link.map fun address => ["link".toList, address]).getD []

/-- The name of a style. -/
def name (style : Style) : List Char :=
  match style.words with
  | [] => "none".toList
  | words => [' '].intercalate words

end Style

/-- The one name that stands for all names of the same style. -/
def canonicalStyle (name : List Char) : Except LevelFault (List Char) :=
  (Style.named? name).map fun style? =>
    match style? with
    | some style => style.name
    | none => lowerCase (trimBy isBlank name)

end ContractDrill
