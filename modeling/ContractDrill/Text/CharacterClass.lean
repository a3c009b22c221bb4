/-!
# Classes of characters

A class of characters is given by a table of closed ranges of code points.  Where a table does not
say otherwise, it is that of Unicode 14.

Three classes of white space are in use, each a table of its own:

* `isSpace`, the Unicode property `White_Space`, trimmed from numbers in settings and payloads;
* `isBlank`, the same with the four separators `U+001C` to `U+001F`, which decides whether a text
  is blank, where words end, and what is trimmed from them;
* `isLineEnd`, the characters at which a text is split into lines when it is measured.

The decimal digits, of general category `Nd`, come in runs of ten, from a zero to a nine.
-/

namespace ContractDrill

/-- Whether the code point of `c` lies in one of the closed ranges. -/
def inRanges (ranges : List (Nat × Nat)) (c : Char) : Bool :=
  ranges.any fun (first, last) => first ≤ c.toNat && c.toNat ≤ last

/-! ### White space -/

/-- The characters with the property `White_Space`. -/
def spaceRanges : List (Nat × Nat) :=
  [(0x9, 0xd), (0x20, 0x20), (0x85, 0x85), (0xa0, 0xa0), (0x1680, 0x1680), (0x2000, 0x200a),
   (0x2028, 0x2029), (0x202f, 0x202f), (0x205f, 0x205f), (0x3000, 0x3000)]

/-- Whether `c` has the property `White_Space`. -/
def isSpace (c : Char) : Bool :=
  inRanges spaceRanges c

/-- Whether `c` is white space or one of the separators `U+001C` to `U+001F`. -/
def isBlank (c : Char) : Bool :=
  inRanges ((0x1c, 0x1f) :: spaceRanges) c

/-- Whether `c` is white space among the ASCII characters, the separators not included. -/
def isAsciiSpace (c : Char) : Bool :=
  inRanges [(0x9, 0xd), (0x20, 0x20)] c

/-- Whether a line ends at `c`. -/
def isLineEnd (c : Char) : Bool :=
  inRanges [(0xa, 0xd), (0x1c, 0x1e), (0x85, 0x85), (0x2028, 0x2029)] c

/-! ### Trimming -/

/-- The text without the characters of a class at its end. -/
def trimEndBy (drop : Char → Bool) (s : List Char) : List Char :=
  (s.reverse.dropWhile drop).reverse

/-- The text without the characters of a class at its ends. -/
def trimBy (drop : Char → Bool) (s : List Char) : List Char :=
  trimEndBy drop (s.dropWhile drop)

/-- Whether the text has only blank characters. -/
def allBlank (s : String) : Bool :=
  s.toList.all isBlank

/-- The words of a text: its longest pieces without blank characters. -/
def blankWords (s : List Char) : List (List Char) :=
  (s.splitOnP isBlank).filter (· ≠ [])

/-! ### Decimal digits -/

/-- The code points of the zeros of all decimal digit systems. -/
def digitZeros : List Nat := [
  0x30, 0x660, 0x6f0, 0x7c0, 0x966, 0x9e6, 0xa66, 0xae6, 0xb66, 0xbe6, 0xc66, 0xce6, 0xd66,
   0xde6, 0xe50, 0xed0, 0xf20, 0x1040, 0x1090, 0x17e0, 0x1810, 0x1946, 0x19d0, 0x1a80, 0x1a90,
   0x1b50, 0x1bb0, 0x1c40, 0x1c50, 0xa620, 0xa8d0, 0xa900, 0xa9d0, 0xa9f0, 0xaa50, 0xabf0,
   0xff10, 0x104a0, 0x10d30, 0x11066, 0x110f0, 0x11136, 0x111d0, 0x112f0, 0x11450, 0x114d0,
   0x11650, 0x116c0, 0x11730, 0x118e0, 0x11950, 0x11c50, 0x11d50, 0x11da0, 0x16a60, 0x16ac0,
   0x16b50, 0x1d7ce, 0x1d7d8, 0x1d7e2, 0x1d7ec, 0x1d7f6, 0x1e140, 0x1e2f0, 0x1e950, 0x1fbf0]

/-- The value of a decimal digit of any script. -/
def digitValue? (c : Char) : Option Nat :=
  (digitZeros.find? fun start => start ≤ c.toNat && c.toNat < start + 10).map (c.toNat - ·)

/-- The value of a decimal digit among `0` to `9`. -/
def asciiDigit? (c : Char) : Option Nat :=
  if c.isDigit then some (c.toNat - 48) else none

/-- The number that a row of digits `0` to `9` writes. -/
def digitsToNat (s : List Char) : Nat :=
  s.foldl (fun n c => 10 * n + (c.toNat - 48)) 0

end ContractDrill
