import ContractDrill.Screen.Markup
import ContractDrill.Screen.Paragraph

/-!
# Blocks

A `Block` is a rectangle of the screen: the rows it shows in a width, and the width it would take
if it were free to choose.  Blocks nest: a text in a padding, a padding in a panel.  Where no cell
is left for a block, nothing of it is shown, and its markup is not looked at.
-/

namespace ContractDrill

/-- What fills a part of the screen. -/
structure Block where
  /-- The rows in a width. -/
  rows : Nat → Except Markup.Error (List Row)
  /-- The width to choose, of at most the given one. -/
  preferred : Nat → Except Markup.Error Nat

namespace Block

/-- The rows of a block, each of exactly `width` cells. -/
def fill (block : Block) (width : Nat) : Except Markup.Error (List Row) :=
  if width = 0 then .ok [] else (block.rows width).map (·.map (Row.fit width))

/-- The width that a block chooses, of at most `width`. -/
def measure (block : Block) (width : Nat) : Except Markup.Error Nat :=
  if width = 0 then .ok 0 else (block.preferred width).map (min width)

/-! ### Texts -/

/-- Whether a style is still there when `kept` is what the screen shows of its text.  A style of
nothing is only there as long as the text is in one piece up to its place. -/
def isKept (styled : Markup.StyledText) (apart : Bool) (kept : List Glyph)
    (span : Markup.Span) : Bool :=
  if span.start < span.stop then
    kept.any fun glyph => span.start ≤ glyph.index && glyph.index < span.stop
  else
    !apart && (kept.length = styled.text.length ||
      kept.any fun glyph => span.start ≤ glyph.index)

/-- The styles that are there when `kept` is what the screen shows of a text, from the front on. -/
def keptSpans (styled : Markup.StyledText) (apart : Bool) (kept : List Glyph) :
    List Markup.Span :=
  let spans := styled.spans.reverse.mergeSort fun first second => first.start ≤ second.start
  spans.filter (isKept styled apart kept)

/-- Looks up styles, the first one first. -/
def lookUpStyles (spans : List Markup.Span) : Except Markup.Error Unit :=
  spans.forM fun span => ((Style.named? span.style).mapError .level).map fun _ => ()

/-- The number of styles that begin or end up to a place. -/
def styleEdges (spans : List Markup.Span) (index : Nat) : Nat :=
  spans.countP (·.start ≤ index) + spans.countP (·.stop ≤ index)

/-- Whether a style begins in front of the first glyph of a row, or in a row above. -/
def beginsBefore (spans : List Markup.Span) (first : Glyph) : Bool :=
  spans.any fun span =>
    span.start ≤ first.index && (first.index < span.stop || span.start = span.stop)

/-- Whether a style ends behind the last glyph of a row, or in a row below. -/
def endsBehind (spans : List Markup.Span) (last : Glyph) : Bool :=
  spans.any fun span =>
    last.index < span.stop && (span.start ≤ last.index || span.start = span.stop)

/-- The parts of a row in which nothing begins or ends; spaces at its sides belong to the text next
to them, unless that has a style. -/
def placementRow (spans : List Markup.Span) (placement : Placement) : Row :=
  let parts := (placement.glyphs.splitBy fun first second =>
    styleEdges spans first.index = styleEdges spans second.index).map faces
  let left := [spaces placement.left]
  let right := [spaces placement.right]
  let front := if placement.glyphs.head?.any (beginsBefore spans) then left ++ parts
    else Row.fuse left parts
  if placement.glyphs.getLast?.any (endsBehind spans) then front ++ right
  else Row.fuse front right

/-- A markup text. -/
def text (setting : Setting) (markup : String) : Block where
  rows width := do
    let styled ← Markup.read markup.toList
    let placements := paragraph width setting (glyphs styled.text)
    let apart := 1 < placements.length || '\t' ∈ styled.text
    let spans := keptSpans styled apart (placements.flatMap Placement.glyphs)
    lookUpStyles spans
    return placements.map fun placement => Row.cut width (placementRow spans placement)
  preferred _ := (Markup.read markup.toList).map fun styled => extent styled.text

/-! ### Paddings -/

/-- How much room is left free around a block. -/
structure Margin where
  /-- In lines, above and below. -/
  rows : Nat
  /-- In cells, at either side. -/
  columns : Nat

/-- A block with room around it. -/
def padded (margin : Margin) (block : Block) : Block where
  rows width := do
    let inner ← block.fill (width - 2 * margin.columns)
    let side := spaces margin.columns
    let free := List.replicate margin.rows [spaces width]
    return free ++ inner.map (fun row => side :: row ++ [side]) ++ free
  preferred width :=
    if width ≤ 2 * margin.columns then .ok width
    else (block.measure width).map (· + 2 * margin.columns)

/-! ### Panels -/

/-- A row of dashes. -/
def dashes (count : Nat) : Line :=
  List.replicate count '─'

/-- The title of a panel of `width` cells, in the middle of its upper border. -/
def panelTitle (width : Nat) (title : Line) : Line :=
  -- A corner and a dash stand at either side of the title.
  let room := width - 4
  let cut := cutTo room .fold title
  let free := room - cells cut
  "╭─".toList ++ dashes (free / 2) ++ cut ++ dashes (free - free / 2) ++ "─╮".toList

/-- The upper border of a panel of `width` cells. -/
def panelTop (width : Nat) : Option Line → Line
  | none => '╭' :: dashes (width - 2) ++ ['╮']
  | some title =>
    if width ≤ 4 then '╭' :: dashes (width - 2) ++ ['╮'] else panelTitle width title

/-- A block in a border with a title; a panel without one is only as wide as its block wants. -/
def panel (title : Option Line) (margin : Margin) (block : Block) : Block where
  rows width := do
    let content := padded margin block
    let inner ← match title with
      | some _ => pure (width - 2)
      | none => content.measure (width - 2)
    let body ← content.fill inner
    let box := [panelTop (inner + 2) title] :: body.map (fun row => ['│'] :: row ++ [['│']]) ++
      [['╰' :: dashes inner ++ ['╯']]]
    return box.map (Row.cut width)
  preferred width := .ok width

/-! ### Rules -/

/-- A title between two dashed lines. -/
def rule (title : String) : Block where
  rows width := do
    let styled ← Markup.read title.toList
    let line := expandTabs ((glyphs styled.text).map fun glyph =>
      if glyph.char = '\n' then { glyph with char := ' ' } else glyph)
    let room := width - 4
    if room = 0 then return [[dashes width]]
    let cut := cutTo room .ellipsis (faces line)
    let shown := reface line cut
    let spans := keptSpans styled ('\t' ∈ styled.text) shown
    lookUpStyles spans
    let front := dashes ((width - cells cut) / 2 - 1) ++ [' ']
    let whole := fitCells width (front ++ cut ++ ' ' :: dashes width)
    let parts := placementRow spans ⟨0, shown, 0⟩
    return [Row.cut width (front :: parts ++ [whole.drop (front.length + cut.length)])]
  preferred width := .ok width

end Block

end ContractDrill
