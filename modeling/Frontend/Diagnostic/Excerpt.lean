/- A source line with part of it marked by a second line below. -/
import Frontend.Text.ColumnWidth
import Frontend.Text.Cut

namespace Frontend

def nextTabStop (column : Nat) : Nat := (column / 8 + 1) * 8

/-- Blanks in place of tabs, for a text that starts at a column, and the column after it. -/
def expandTabs (column : Nat) : List Char → List Char × Nat
  | [] => ([], column)
  | c :: cs =>
    if c = '\t' then
      let (text, stop) := expandTabs (nextTabStop column) cs
      (List.replicate (nextTabStop column - column) ' ' ++ text, stop)
    else
      let (text, stop) := expandTabs (column + Text.columnWidth c) cs
      (c :: text, stop)

@[ext]
structure Excerpt where
  /-- The column of the marked text, from zero. -/
  column : Nat
  before : String
  marked : String
  after : String
  marker : String
  deriving DecidableEq, Repr

namespace Excerpt

def isLineEnd (c : Char) : Bool := c == '\r' || c == '\n'

/-- Carets below the marked text, or a star where it takes no column. -/
def markerLine (column width : Nat) : String :=
  String.ofList (List.replicate column ' ' ++ if width = 0 then ['*'] else List.replicate width '^')

/-- Marks the characters of a line from `first` to `last`, both kept within the line. -/
def ofLine (line : List Char) (first last : Nat) : Excerpt :=
  let line := Text.trimEnd isLineEnd line
  let last := min last line.length
  let first := min first last
  let before := expandTabs 0 (line.take first)
  let marked := expandTabs before.2 ((line.drop first).take (last - first))
  let after := expandTabs marked.2 (line.drop last)
  { column := before.2
    before := String.ofList before.1
    marked := String.ofList marked.1
    after := String.ofList after.1
    marker := markerLine before.2 (marked.2 - before.2) }

/-- Blanks and carets are counted with 16 bits. -/
def countLimit : Nat := UInt16.size

/-- Whether the marker of an excerpt can be drawn. The program breaks off at one that cannot. -/
def isDrawable (e : Excerpt) : Bool :=
  decide (e.column < countLimit) && decide (e.marker.length - e.column < countLimit)

end Excerpt

end Frontend
