/- Where the lines of a text start. -/
namespace Frontend

/-- The offsets right after each line terminator of a text that starts at `offset`.
A line ends after `\n`, after `\r\n`, or after a `\r` alone. -/
def lineStartsAfter (offset : Nat) : List Char → List Nat
  | [] => []
  | '\r' :: '\n' :: cs => (offset + 2) :: lineStartsAfter (offset + 2) cs
  | '\r' :: cs => (offset + 1) :: lineStartsAfter (offset + 1) cs
  | '\n' :: cs => (offset + 1) :: lineStartsAfter (offset + 1) cs
  | _ :: cs => lineStartsAfter (offset + 1) cs

/-- The start of each line, in order, and the end of the text. -/
structure LineTable where
  starts : List Nat
  stop : Nat
  deriving DecidableEq, Repr

namespace LineTable

def ofText (offset : Nat) (text : List Char) : LineTable :=
  ⟨offset :: lineStartsAfter offset text, offset + text.length⟩

def count (t : LineTable) : Nat := t.starts.length

/-- Where line `i` starts; the line after the last one would start at the end of the text. -/
def startOf (t : LineTable) (i : Nat) : Nat := t.starts.getD i t.stop

/-- The offsets of the lines, each up to where the next one starts. -/
def bounds (t : LineTable) (i : Nat) : Nat × Nat := (t.startOf i, t.startOf (i + 1))

/-- The line, counted from zero, that holds an offset: the last one that starts at or before it.
The end of the text belongs to the last line. -/
def lineAt? (t : LineTable) (offset : Nat) : Option Nat :=
  match t.starts.countP (· ≤ offset) with
  | 0 => none
  | i + 1 => if offset ≤ t.startOf (i + 1) then some i else none

end LineTable

end Frontend
