import ContractDrill.Text.Grapheme

/-!
# Rows

A row of the screen is printed in parts, one for each stretch of one style.  The screen measures
every part on its own: a character that changes the one in front of it does so inside its part only.
-/

namespace ContractDrill

/-- Characters on one line. -/
abbrev Line := List Char

/-- A row of the screen: its parts from left to right. -/
abbrev Row := List Line

/-- Some spaces. -/
def spaces (count : Nat) : Line :=
  List.replicate count ' '

/-! ### What the screen drops -/

/-- Whether the screen drops `c`: bells, backspaces and what moves between lines other than line
feeds. -/
def isDropped (c : Char) : Bool :=
  c.toNat ∈ [7, 8, 11, 12, 13]

/-- The text without what the screen drops. -/
def printed (s : List Char) : List Char :=
  s.filter fun c => !isDropped c

/-! ### Rows -/

namespace Row

/-- The number of cells that a row takes. -/
def size : Row → Nat
  | [] => 0
  | part :: rest => cells part + size rest

/-- The characters of a row. -/
def text (row : Row) : Line :=
  row.flatten

/-- Two rows side by side, where the parts that meet are one. -/
def fuse : Row → Row → Row
  | [], second => second
  | [part], next :: rest => (part ++ next) :: rest
  | part :: rest, second => part :: fuse rest second

/-- The parts at the front that fill `width` cells, the last of them cut or filled up. -/
def cutParts (width : Nat) : Row → Row
  | [] => []
  | part :: rest =>
    if cells part < width then part :: cutParts (width - cells part) rest
    else [fitCells width part]

/-- The row cut to at most `width` cells. -/
def cut (width : Nat) (row : Row) : Row :=
  if size row ≤ width then row else cutParts width row

/-- The row cut to `width` cells, or filled up with spaces. -/
def fit (width : Nat) (row : Row) : Row :=
  if size row ≤ width then row ++ [spaces (width - size row)] else cutParts width row

end Row

end ContractDrill
