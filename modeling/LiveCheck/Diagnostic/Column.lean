import LiveCheck.Fault
import LiveCheck.Text.Lines

namespace LiveCheck

/-! ### From columns to offsets

A report counts columns as a terminal does: each tab goes on to the next multiple of the tab
width. The index of a column in its line is the first position whose width on the terminal reaches
the column; a column beyond the line is the end of the line. The offset of a place in a document
is the start of its line plus that index; a line before the first or after the last one is moved
to the nearest line. -/

namespace Column

/-- The index of the first position in `s` whose width reaches `target`, counted from `index`,
where the text before has the width `width`. A tab is a fault when the tab width is zero. -/
def seek (tabWidth target : Int) : (index : Nat) → (width : Int) → List Char → Except Fault Nat
  | index, _, [] => .ok index
  | index, width, c :: rest =>
    if width ≥ target then .ok index
    else if c = '\t' then
      if tabWidth = 0 then .error .zeroModulus
      else seek tabWidth target (index + 1) (width + (tabWidth - width.fmod tabWidth)) rest
    else seek tabWidth target (index + 1) (width + 1) rest

/-- The index in a line of a one-based column. A line without tabs needs no counting. -/
def toIndex (line : List Char) (column tabWidth : Int) : Except Fault Nat :=
  let target := (column - 1).toNat
  if '\t' ∈ line then seek tabWidth target 0 0 line else .ok (min target line.length)

end Column

/-- A text with its lines and the places where they start. -/
structure DocumentText where
  length : Nat
  lines : List (List Char)
  starts : List Nat
deriving DecidableEq, Repr

namespace DocumentText

/-- The lines of a text. -/
def ofChars (s : List Char) : DocumentText :=
  { length := s.length, lines := (Text.documentLines s).map (·.1), starts := Text.lineStarts s }

/-- The number of lines. -/
def lineCount (d : DocumentText) : Nat := d.starts.length

/-- The index of the line nearest to a one-based line number. -/
def lineIndex (d : DocumentText) (line : Int) : Nat := min ((line - 1).toNat) (d.lineCount - 1)

/-- The offset of a place in the text. -/
def offset (d : DocumentText) (line column tabWidth : Int) : Except Fault Nat := do
  let index := d.lineIndex line
  let column ← Column.toIndex (d.lines.getD index []) column tabWidth
  .ok (min (d.starts.getD index 0 + column) d.length)

end DocumentText

end LiveCheck
