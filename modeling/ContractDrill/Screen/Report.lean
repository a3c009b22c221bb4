import ContractDrill.Screen.Table

/-!
# Reports

A `Report` is what is shown one after the other.  A block whose markup is wrong ends it: what stands
in front of the block has been shown by then.
-/

namespace ContractDrill

/-- Blocks to show from top to bottom. -/
abbrev Report := List Block

namespace Report

/-! ### Parts -/

/-- An empty line. -/
def blank : Block where
  rows _ := .ok [[]]
  preferred _ := .ok 0

/-- Running text with markup. -/
def line (markup : String) : Block :=
  .text .running markup

/-- A text as it is: without markup, and on lines of any length, with the blanks at their ends.
That is what rich 15 shows; rich 13 cuts the blanks off the end of a line that is wider than the
screen. -/
def verbatim (s : String) : Block where
  rows _ := .ok ((textLines (glyphs (printed s.toList))).map fun line => [faces line])
  preferred _ := .ok (extent (printed s.toList))

/-- What a program printed, without the line feeds at its end; nothing for nothing. -/
def echo (output : String) : Report :=
  if output = "" then []
  else [verbatim (String.ofList (trimEndBy (· = '\n') output.toList))]

/-! ### Showing -/

/-- The lines that a report shows in a width, and the error that ended it, if one did. -/
def present (width : Nat) : Report → List Line × Option Markup.Error
  | [] => ([], none)
  | block :: rest =>
    match block.rows width with
    | .error error => ([], some error)
    | .ok rows =>
      let (more, error) := present width rest
      (rows.map Row.text ++ more, error)

/-- Reports one after the other show the lines of both, if the first one does not end in an
error. -/
theorem present_append {width : Nat} {first : Report} (h : (present width first).2 = none)
    (second : Report) :
    present width (first ++ second) =
      ((present width first).1 ++ (present width second).1, (present width second).2) := by
  induction first with
  | nil => simp [present]
  | cons block rest ih =>
    cases hb : block.rows width with
    | error error => simp [present, hb] at h
    | ok rows =>
      have h' : (present width rest).2 = none := by simpa [present, hb] using h
      simp [present, hb, ih h']

end Report

end ContractDrill
