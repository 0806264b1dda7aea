/- Source files and the registry that numbers them. -/
import Frontend.Source.Position
import Frontend.Source.LineTable
import Frontend.Text.Utf8

namespace Frontend

/-- A text with the path that diagnostics show for it; `id?` is set once it is registered. -/
structure SourceFile where
  path : String
  chars : List Char
  id? : Option FileId := none
  deriving DecidableEq, Repr

/-- Consecutive lines of a file, counted from zero, with the span of each. -/
structure LineRange where
  first : Nat
  last : Nat
  spans : List Span
  deriving DecidableEq, Repr

namespace SourceFile

def ofText (path : String) (text : String) : SourceFile := { path, chars := text.toList }

/-- Ill-formed byte sequences become U+FFFD. -/
def ofBytes (path : String) (bytes : List UInt8) : SourceFile :=
  { path, chars := Text.decodeLossy bytes }

/-- A byte order mark stays in the buffer but belongs to no line. -/
def bodyStart (f : SourceFile) : Nat := if f.chars.head? = some '\ufeff' then 1 else 0

def body (f : SourceFile) : List Char := f.chars.drop f.bodyStart

def lines (f : SourceFile) : LineTable := .ofText f.bodyStart f.body

def spanBetween (f : SourceFile) (offsets : Nat × Nat) : Span :=
  match f.id? with
  | none => .nowhere
  | some id => .within id offsets.1 offsets.2

/-- The whole text, without a byte order mark. -/
def span (f : SourceFile) : Span := f.spanBetween (f.bodyStart, f.lines.stop)

def lineSpan (f : SourceFile) (i : Nat) : Span := f.spanBetween (f.lines.bounds i)

/-- The line that holds a position of this file, counted from zero. -/
def lineAt? (f : SourceFile) : Position → Option Nat
  | .nowhere => none
  | .inFile id offset => if f.id? = some id then f.lines.lineAt? offset else none

/-- The first and the last line that a span of this file touches, its end included. -/
def lineEnds? (f : SourceFile) (s : Span) : Option (Nat × Nat) := do
  let first ← f.lineAt? s.start
  let last ← f.lineAt? s.stop
  return (first, last)

def linesOf? (f : SourceFile) (s : Span) : Option LineRange :=
  let table := f.lines
  (f.lineEnds? s).map fun (first, last) =>
    ⟨first, last, (List.range' first (last + 1 - first)).map (f.spanBetween <| table.bounds ·)⟩

theorem spans_of_linesOf? {f : SourceFile} {s : Span} {range : LineRange}
    (h : f.linesOf? s = some range) :
    range.spans = (List.range' range.first (range.last + 1 - range.first)).map f.lineSpan := by
  obtain ⟨⟨first, last⟩, _, rfl⟩ := Option.map_eq_some_iff.mp h
  rfl

end SourceFile

structure Registry where
  files : List SourceFile := []
  deriving DecidableEq, Repr

namespace Registry

/-- Registers a file under the next number and gives its span. -/
def add (r : Registry) (f : SourceFile) : Registry × Span :=
  let f := { f with id? := some ⟨r.files.length⟩ }
  (⟨r.files ++ [f]⟩, f.span)

def addAll (r : Registry) (files : List SourceFile) : Registry :=
  files.foldl (fun r f => (r.add f).1) r

def file? (r : Registry) (id : FileId) : Option SourceFile := r.files[id.index]?

def fileOf? (r : Registry) (s : Span) : Option SourceFile := s.file?.bind r.file?

/-- The characters of a span, if it lies within its file. -/
def slice? (r : Registry) (s : Span) : Option (List Char) :=
  match s with
  | .nowhere => none
  | .within id a b =>
    (r.file? id).bind fun f =>
      if a ≤ b ∧ b ≤ f.chars.length then some ((f.chars.drop a).take (b - a)) else none

end Registry

end Frontend
