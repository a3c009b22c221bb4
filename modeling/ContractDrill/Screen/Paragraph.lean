import ContractDrill.Screen.Row
import ContractDrill.Text.CharacterClass

/-!
# Paragraphs

How a text is put on rows of a width: it is split where its lines end, tabs become spaces, and each
of its lines is filled with words, each with the blanks behind it, as long as they fit.  A word too
long for any row is cut into pieces, or left to be cut off.

A `Glyph` is a character that knows its place in the text, so that the styles of the text can be
found again in its rows.
-/

namespace ContractDrill

/-- What happens to what is too long for a line. -/
inductive Overflow where
  /-- A word goes on in the next line. -/
  | fold
  /-- The line is cut off, and ends in `…`. -/
  | ellipsis
  deriving DecidableEq

/-- Where a text stands on its line. -/
inductive Justify where
  /-- At the left, with nothing behind it. -/
  | ragged
  /-- At the left, filled up with spaces. -/
  | left
  /-- In the middle, filled up with spaces. -/
  | center
  deriving DecidableEq

/-- How a paragraph is set. -/
structure Setting where
  overflow : Overflow
  justify : Justify

/-- The setting of running text. -/
def Setting.running : Setting := ⟨.fold, .ragged⟩

/-! ### Glyphs -/

/-- A character on the screen, and its place in the text it belongs to. -/
structure Glyph where
  char : Char
  index : Nat
  deriving DecidableEq

/-- The characters of glyphs. -/
def faces (s : List Glyph) : Line :=
  s.map Glyph.char

/-- The characters of a text, each with its place. -/
def glyphs (s : List Char) : List Glyph :=
  s.zipIdx.map fun (c, index) => ⟨c, index⟩

/-- Glyphs with other characters, as many as there are. -/
def reface (s : List Glyph) (chars : Line) : List Glyph :=
  List.zipWith (fun c glyph => { glyph with char := c }) chars s

/-- The distance of tab stops. -/
def tabSize : Nat := 8

/-- What stands in front of a tab, with at least one space, from the tab, up to the next tab
stop. -/
def toTabStop (s : List Glyph) (tab : Glyph) : List Glyph :=
  let space : Glyph := { tab with char := ' ' }
  let reached := s ++ [space]
  reached ++ List.replicate ((tabSize - cells (faces reached) % tabSize) % tabSize) space

/-- A line with spaces in place of its tabs; `before`, in reverse order, stands in front of it since
the latest tab. -/
def expandTabsBehind (before : List Glyph) : List Glyph → List Glyph
  | [] => before.reverse
  | glyph :: rest =>
    if glyph.char = '\t' then toTabStop before.reverse glyph ++ expandTabsBehind [] rest
    else expandTabsBehind (glyph :: before) rest

/-- A line with spaces in place of its tabs. -/
def expandTabs (s : List Glyph) : List Glyph :=
  expandTabsBehind [] s

/-- The lines of a text with spaces in place of tabs. -/
def textLines (s : List Glyph) : List (List Glyph) :=
  (s.splitOnP (·.char = '\n')).map expandTabs

/-! ### Words -/

/-- The words of a line: what leads up to the end of the blanks behind a row of other characters.
Blanks in front of the first row belong to it; a line of blanks has no word. -/
def lineWords (s : Line) : List Line :=
  let lead := s.takeWhile isBlank
  match List.splitBy (fun a b => !(isBlank a && !isBlank b)) (s.drop lead.length) with
  | [] => []
  | first :: rest => (lead ++ first) :: rest

/-- The pieces into which a word is cut, each of at most `width` cells; `piece` is the current one,
of `used` cells. -/
def cutWord (width : Nat) (piece : Line) (used : Nat) : List Grapheme → List Line
  | [] => [piece]
  | grapheme :: rest =>
    if used + grapheme.width ≤ width then
      cutWord width (piece ++ grapheme.text) (used + grapheme.width) rest
    else piece :: cutWord width grapheme.text grapheme.width rest

/-- Lines in the making: those that are full, in order, and the one that is being filled, with its
cells. -/
structure Filling where
  full : List Line
  line : Line
  used : Nat

namespace Filling

/-- Nothing yet. -/
def start : Filling := ⟨[], [], 0⟩

/-- Whether nothing has been put on any line. -/
def isStart (filling : Filling) : Bool :=
  filling.full.isEmpty && filling.line.isEmpty

/-- The filling with a piece at the front of a new line. -/
def startLine (filling : Filling) (piece : Line) : Filling :=
  if filling.isStart then ⟨[], piece, cells piece⟩
  else ⟨filling.full ++ [filling.line], piece, cells piece⟩

/-- The filling with one more word. -/
def add (width : Nat) (overflow : Overflow) (filling : Filling) (word : Line) : Filling :=
  let size := cells (trimEndBy isBlank word)
  if filling.used + size ≤ width then
    { filling with line := filling.line ++ word, used := filling.used + cells word }
  else if width < size ∧ overflow = .fold then
    (cutWord width [] 0 (graphemes word)).foldl startLine filling
  else filling.startLine word

/-- The lines of a filling. -/
def lines (filling : Filling) : List Line :=
  filling.full ++ [filling.line]

end Filling

/-- The words of a line put on lines of a width.  A line without a word stays as it is. -/
def fill (width : Nat) (overflow : Overflow) (s : Line) : List Line :=
  match lineWords s with
  | [] => [s]
  | words => (words.foldl (Filling.add width overflow) .start).lines

/-! ### Rows -/

/-- Pieces of the given lengths. -/
def piecesOf {α : Type} : List Nat → List α → List (List α)
  | [], _ => []
  | length :: rest, s => s.take length :: piecesOf rest (s.drop length)

/-- The glyphs without those blanks at their end that exceed `width` characters. -/
def dropExcess (width : Nat) (s : List Glyph) : List Glyph :=
  let blanks := (s.reverse.takeWhile (isBlank ·.char)).length
  s.take (s.length - min blanks (s.length - width))

/-- The line cut to at most `width` cells. -/
def cutTo (width : Nat) (overflow : Overflow) (s : Line) : Line :=
  if cells s ≤ width then s
  else match overflow with
    | .fold => fitCells width s
    | .ellipsis => fitCells (width - 1) s ++ ['…']

/-- Glyphs of a row, and how many spaces stand at either side of them. -/
structure Placement where
  left : Nat
  glyphs : List Glyph
  right : Nat

/-- Glyphs at their place among `width` cells. -/
def place (width : Nat) (setting : Setting) (s : List Glyph) : Placement :=
  match setting.justify with
  | .ragged => ⟨0, reface s (cutTo width setting.overflow (faces s)), 0⟩
  | .left =>
    let cut := cutTo width setting.overflow (faces s)
    ⟨0, reface s cut, width - cells cut⟩
  | .center =>
    let cut := cutTo width setting.overflow (trimEndBy isBlank (faces s))
    let left := (width - cells cut) / 2
    ⟨left, reface s cut, width - left - cells cut⟩

/-- The rows of a width that a text takes. -/
def paragraph (width : Nat) (setting : Setting) (s : List Glyph) : List Placement :=
  (textLines s).flatMap fun line =>
    let rows := fill width setting.overflow (faces line)
    (piecesOf (rows.map List.length) line).map fun row =>
      place width setting (dropExcess width row)

/-- The cells that the longest line of a text takes, tabs aside. -/
def extent (s : List Char) : Nat :=
  ((s.splitOnP isLineEnd).map cells).foldl max 0

end ContractDrill
