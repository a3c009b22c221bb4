import ContractDrill.Number.Binary64
import ContractDrill.Screen.Block

/-!
# Tables

Columns of texts under headers, with a heavy line below the headers.  A column has a fixed width or
is as wide as its longest text; at most one column is free.  Where the room is too small, first the
free column gives way, then all columns alike.
-/

namespace ContractDrill

/-- A column of a table. -/
structure Column where
  header : String
  justify : Justify
  /-- The cells between the spaces at either side of a text, if they are fixed. -/
  width : Option Nat

/-- Columns, and rows of one text for each of them. -/
structure Table where
  columns : List Column
  rows : List (List String)

namespace Table

/-- A text of a column, with a space at either side. -/
def cell (column : Column) (markup : String) : Block :=
  .padded ⟨0, 1⟩ (.text ⟨.ellipsis, column.justify⟩ markup)

/-- The columns, each with its place. -/
def placed (table : Table) : List (Column × Nat) :=
  table.columns.zipIdx

/-- The texts of a column below its header. -/
def texts (table : Table) (index : Nat) : List String :=
  table.rows.map fun row => row.getD index ""

/-! ### Widths -/

/-- The sum of some widths. -/
def totalWidth : List Nat → Nat
  | [] => 0
  | width :: rest => width + totalWidth rest

/-- The cells that borders take: one at either edge and one between two columns. -/
def borders (table : Table) : Nat :=
  table.columns.length + 1

/-- The width that a column takes of a room. -/
def columnWidth (table : Table) (room : Nat) (column : Column) (index : Nat) :
    Except Markup.Error Nat :=
  if room = 0 then .ok 0
  else match column.width with
    | some width => .ok (min (width + 2) room)
    | none => do
      let widths ← (column.header :: table.texts index).mapM fun s => (cell column s).measure room
      return min (widths.foldl max 0) room

/-- `widths` less `excess`, taken from those columns that `shrinks` names, in turn and in equal
parts, but never more than a column has. -/
def shareOut (excess : Nat) (sharers : Nat) : List (Bool × Nat) → List Nat
  | [] => []
  | (shrinks, width) :: rest =>
    if shrinks && sharers ≠ 0 then
      let part := min width (roundHalfEven excess sharers)
      (width - part) :: shareOut (excess - part) (sharers - 1) rest
    else width :: shareOut excess sharers rest

/-- The widths with that of the free column cut by `excess`. -/
def shrinkFree (excess : Nat) : List (Bool × Nat) → List Nat
  | [] => []
  | (free, width) :: rest => (if free then width - excess else width) :: shrinkFree excess rest

/-- The widths made to fit a room: first the free column gives way, then all columns that have any
width. -/
def collapse (room : Nat) (widths : List (Bool × Nat)) : List Nat :=
  let total := totalWidth (widths.map Prod.snd)
  let once := shrinkFree (total - room) widths
  -- What the free column could not give is shared by all.
  let excess := totalWidth once - room
  if excess = 0 then once
  else shareOut excess (once.countP (· ≠ 0)) (once.map fun width => (decide (width ≠ 0), width))

/-- The widths of the columns in a room. -/
def widths (table : Table) (room : Nat) : Except Markup.Error (List Nat) := do
  let wanted ← table.placed.mapM fun (column, index) =>
    return max 1 (← table.columnWidth room column index)
  if totalWidth wanted ≤ room then return wanted
  let collapsed := collapse room ((table.columns.map (·.width.isNone)).zip wanted)
  (table.placed.zip collapsed).mapM fun ((column, index), width) =>
    table.columnWidth width column index

/-! ### Rows -/

/-- The rows of one line of texts; all texts of a line take as many rows as the longest. -/
def lineRows (columns : List Column) (widths : List Nat) (texts : List String) :
    Except Markup.Error (List Row) := do
  let blocks ← ((columns.zip widths).zip texts).mapM fun ((column, width), s) =>
    return (width, ← (cell column s).fill width)
  let height := (blocks.map fun (_, rows) => rows.length).foldl max 1
  return (List.range height).map fun n =>
    let parts := blocks.map fun (width, rows) => rows.getD n [spaces width]
    spaces 1 :: [spaces 1].intercalate parts ++ [spaces 1]

/-- A table as a block. -/
def block (table : Table) : Block where
  rows width := do
    let widths ← table.widths (width - table.borders)
    let total := totalWidth widths + table.borders
    let head ← lineRows table.columns widths (table.columns.map Column.header)
    let body ← table.rows.mapM (lineRows table.columns widths)
    let line := ' ' :: List.replicate (total - 2) '━' ++ [' ']
    return [spaces total] :: head ++ [line] :: body.flatten ++ [[spaces total]]
  preferred width := .ok width

end Table

end ContractDrill
