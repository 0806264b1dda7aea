/- Test files: tests between dividers, each with an input and with what it should lead to. -/
import Frontend.Directory
import Frontend.TestFile.Divider
import Frontend.TestFile.Expectation
import Frontend.Text.Cut
import Frontend.Text.Utf8

namespace Frontend

structure TestCase where
  /-- The number of the first line after the divider. -/
  firstLine : Nat
  name : List Char
  ignored : Bool
  exact : Bool
  input : List (List Char) := []
  output : List (List Char) := []
  reports : List Expectation := []
  deriving DecidableEq, Repr

namespace TestCase

def ofDivider (number : Nat) (d : Divider) : TestCase :=
  { firstLine := number + 1, name := d.name, ignored := d.ignored, exact := d.isExact }

/-- A test without expectations says nothing. -/
def isEmpty (t : TestCase) : Bool := t.output.isEmpty && t.reports.isEmpty

end TestCase

inductive TestFileError where
  | unreadable (cause : FileError)
  | illFormed
  /-- An expectation stands before the first divider. -/
  | orphan (line : Nat)
  /-- The output goes on after a line, but the next one has none. -/
  | unfinished (line : Nat)
  | expectation (line : Nat) (cause : ExpectationError)
  deriving DecidableEq, Repr

def ExpectationError.message (line : Nat) : ExpectationError → String
  | .malformed => "invalid report expectation at line " ++ toString line
  | .lineNumber cause =>
    "invalid line number at line " ++ toString line ++ " (" ++ cause.message ++ ")"

def TestFileError.message (path : String) : TestFileError → String
  | unreadable cause => "cannot read " ++ path ++ " (" ++ cause.message ++ ")"
  | illFormed => "cannot read " ++ path ++ " (stream did not contain valid UTF-8)"
  | orphan line =>
    "found test expectation before the first `//--8<--` at line " ++ toString line
  | unfinished line => "found a trailing `\\` in the output at line " ++ toString line
  | expectation line cause => cause.message line

structure OutputLine where
  before : List Char
  text : List Char
  /-- Whether the next line of output belongs to this one. -/
  goesOn : Bool
  deriving DecidableEq, Repr

namespace OutputLine

def mark : List Char := "//!".toList

/-- A backslash at the end of the text joins it with the next line of output. -/
def ofText (before text : List Char) : OutputLine :=
  let text := Text.trimStart Text.isWhitespace text
  if text.getLast? = some '\\' then ⟨before, text.dropLast, true⟩ else ⟨before, text, false⟩

def ofLine? (line : List Char) : Option OutputLine :=
  (Text.cut? mark line).map fun (before, text) => ofText before text

end OutputLine

def extendLast (text : List Char) : List (List Char) → List (List Char)
  | [] => [text]
  | [line] => [line ++ text]
  | line :: lines => line :: extendLast text lines

structure TestReader where
  complete : List TestCase := []
  current? : Option TestCase := none
  /-- Whether the output of the last line goes on. -/
  goesOn : Bool := false
  deriving DecidableEq, Repr

namespace TestReader

def flush (number : Nat) (r : TestReader) : Except TestFileError (List TestCase) :=
  if r.goesOn then .error (.unfinished (number - 1))
  else .ok (r.complete ++ r.current?.toList.filter fun t => !t.isEmpty)

def addOutput (t : TestCase) (goesOn : Bool) (line : OutputLine) : TestCase :=
  { t with
    input := t.input ++ [line.before]
    output := if goesOn then extendLast line.text t.output else t.output ++ [line.text] }

def addInput (t : TestCase) (line : List Char) : Except TestFileError TestCase :=
  let number := t.input.length + 1
  match splitLine number line with
  | .error e => .error (.expectation number e)
  | .ok (text, expected?) =>
    .ok { t with input := t.input ++ [text], reports := t.reports ++ expected?.toList }

def step (r : TestReader) (number : Nat) (line : List Char) : Except TestFileError TestReader :=
  match Divider.ofLine? line with
  | some divider =>
    (r.flush number).map fun complete =>
      { complete, current? := some (.ofDivider number divider), goesOn := false }
  | none =>
    match r.current?, OutputLine.ofLine? line with
    | none, some _ => .error (.orphan number)
    | none, none => if Text.occursIn Note.mark line then .error (.orphan number) else .ok r
    | some test, some output =>
      .ok { r with current? := some (addOutput test r.goesOn output), goesOn := output.goesOn }
    | some test, none =>
      if r.goesOn then .error (.unfinished (number - 1))
      else (addInput test line).map fun test => { r with current? := some test }

def steps (r : TestReader) (number : Nat) : List (List Char) → Except TestFileError TestReader
  | [] => .ok r
  | line :: lines => (r.step number line).bind fun r => r.steps (number + 1) lines

end TestReader

namespace TestCase

/-- The tests of a file, in order; those without expectations are left out. -/
def ofLines (lines : List (List Char)) : Except TestFileError (List TestCase) :=
  (TestReader.steps {} 1 lines).bind fun r => r.flush (lines.length + 1)

/-- Reads the lines up to the first that is no text; a fault before it counts first. -/
def ofBytes (bytes : List UInt8) : Except TestFileError (List TestCase) :=
  let lines := (Text.byteLines bytes).map Text.decodeStrict?
  match lines.mapM id with
  | some lines => ofLines lines
  | none =>
    (TestReader.steps {} 1 ((lines.takeWhile Option.isSome).filterMap id)).bind fun _ =>
      .error .illFormed

def ofEntry : Entry → Except TestFileError (List TestCase)
  | .file bytes => ofBytes bytes
  | .directory => .error (.unreadable .isDirectory)

end TestCase

end Frontend
