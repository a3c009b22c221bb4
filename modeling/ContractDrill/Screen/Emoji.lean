import ContractDrill.Screen.EmojiTable
import ContractDrill.Text.LetterCase

/-!
# Names of emoji

`picture?` is the picture that a name stands for, without regard to case.  The name of a person or
of a hand may have a tone of skin behind it, and any name may end in `-emoji` or `-text`, which asks
for the picture in color or in black and white.
-/

namespace ContractDrill

namespace Emoji

/-- The picture in a table of which one of the names is sought. -/
def find? {α : Type} (table : List (α × List String)) (sought : String → Bool) : Option α :=
  table.findSome? fun (picture, names) => if names.any sought then some picture else none

/-! ### Tones of skin -/

/-- The tones of skin, each with the character that gives it to a picture. -/
def tones : List (String × Char) :=
  [("light", '🏻'), ("medium-light", '🏼'), ("medium", '🏽'), ("medium-dark", '🏾'), ("dark", '🏿')]

/-- The picture in a tone of skin.  The tone stands behind the first character, and no mark for
color is between them. -/
def withTone (tone : Char) : List Char → List Char
  | c :: '\ufe0f' :: rest => c :: tone :: rest
  | c :: rest => c :: tone :: rest
  | [] => []

/-- The picture of a name with a tone of skin. -/
def toned? (name : String) : Option (List Char) :=
  tones.findSome? fun (tone, mark) =>
    (find? people fun person => s!"{person}_{tone}_skin_tone" = name).map (withTone mark)

/-! ### Flags -/

/-- The flag of a region, given by its two letters. -/
def flag (letters : String) : List Char :=
  letters.toList.map fun c => Char.ofNat (c.toNat + 0x1f1a5)

/-- The flag of a part of a country, given by its letters. -/
def partFlag (letters : String) : List Char :=
  '🏴' :: letters.toList.map (fun c => Char.ofNat (c.toNat + 0xe0000)) ++ [Char.ofNat 0xe007f]

/-- The flag with the name. -/
def flag? (name : String) : Option (List Char) :=
  let regions := (flags ++ regionFlags).map
    fun (region, letters) => ("flag_for_" ++ region, letters)
  (((flags ++ namedFlags ++ regions).lookup name).map flag).or
    ((partFlags.lookup name).map partFlag)

/-! ### Pictures -/

/-- The picture with the name, which is in lower case. -/
def named? (name : String) : Option (List Char) :=
  ((find? (symbols ++ pictographs ++ faces ++ newPictographs) (· = name)).map ([·])).or
    ((find? (sequences ++ people) (· = name)).or ((toned? name).or (flag? name)))

/-- The endings that ask for a form of a picture, each with the character for the form. -/
def forms : List (String × Char) :=
  [("-emoji", '\ufe0f'), ("-text", '\ufe0e')]

/-- A name without the ending for a form of the picture, and the character for this form. -/
def splitForm (name : List Char) : List Char × List Char :=
  match forms.find? fun (ending, _) => ending.toList.isSuffixOf name with
  | some (ending, form) => (name.take (name.length - ending.length), [form])
  | none => (name, [])

/-- The picture that is shown for a name. -/
def picture? (name : List Char) : Option (List Char) :=
  let (base, form) := splitForm name
  (named? (String.ofList (lowerCase base))).map (· ++ form)

end Emoji

end ContractDrill
