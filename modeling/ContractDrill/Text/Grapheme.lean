import ContractDrill.Text.CellWidth

/-!
# Graphemes

A grapheme is what a terminal shows as one: a character that takes cells, with those behind it that
change it.  Characters without a width change what stands in front of them; a joiner makes the next
character part of it, and the emoji selector widens what is wider as an emoji.

`cells` measures a text, `graphemes` takes it apart, and `fitCells` makes it take a number of cells
without cutting through a grapheme.
-/

namespace ContractDrill

/-- The zero width joiner. -/
def joiner : Char := '\u200d'

/-- The selector that asks for the emoji of a character. -/
def emojiSelector : Char := '\ufe0f'

/-! ### Measuring -/

/-- The number of cells that a text takes behind a character `last` that takes cells, if there is
one, and behind a joiner, if `joined`. -/
def cellsBehind (last : Option Char) (joined : Bool) : List Char → Nat
  | [] => 0
  | c :: rest =>
    if joined then cellsBehind last false rest
    else if c = joiner then cellsBehind last true rest
    else if c = emojiSelector then
      (if last.any widensAsEmoji then 1 else 0) + cellsBehind none false rest
    else if cellWidth c = 0 then cellsBehind last false rest
    else cellWidth c + cellsBehind (some c) false rest

/-- The number of cells that a text takes. -/
def cells (s : List Char) : Nat :=
  cellsBehind none false s

/-! ### Taking apart -/

/-- What a terminal shows as one, and the number of cells it takes. -/
structure Grapheme where
  text : List Char
  width : Nat

/-- The grapheme with a character behind it that adds `width` cells. -/
def Grapheme.add (grapheme : Grapheme) (c : Char) (width : Nat) : Grapheme :=
  ⟨grapheme.text ++ [c], grapheme.width + width⟩

/-- The graphemes from `current` on, which goes on with the text behind it: behind a character
`last` of it that may still be widened, and behind a joiner, if `joined`. -/
def graphemesFrom (current : Grapheme) (last : Option Char) (joined : Bool) :
    List Char → List Grapheme
  | [] => [current]
  | c :: rest =>
    if joined then graphemesFrom (current.add c 0) last false rest
    else if c = joiner then graphemesFrom (current.add c 0) last true rest
    else if c = emojiSelector ∧ last.any widensAsEmoji then
      graphemesFrom (current.add c 1) none false rest
    else if cellWidth c = 0 then graphemesFrom (current.add c 0) last false rest
    else current :: graphemesFrom ⟨[c], cellWidth c⟩ (some c) false rest

/-- The graphemes of a text.  Whatever the first character is, it begins the first of them. -/
def graphemes : List Char → List Grapheme
  | [] => []
  | c :: rest =>
    graphemesFrom ⟨[c], cellWidth c⟩ (if cellWidth c = 0 then none else some c) false rest

/-! ### Fitting -/

/-- The graphemes at the front that fill `room` cells; one that has no room becomes a space. -/
def cutCells (room : Nat) : List Grapheme → List Char
  | [] => []
  | grapheme :: rest =>
    if room = 0 then []
    else if grapheme.width ≤ room then grapheme.text ++ cutCells (room - grapheme.width) rest
    else [' ']

/-- The text cut to `size` cells, or filled up with spaces. -/
def fitCells (size : Nat) (s : List Char) : List Char :=
  if size = 0 then []
  else if cells s ≤ size then s ++ List.replicate (size - cells s) ' '
  else cutCells size (graphemes s)

end ContractDrill
