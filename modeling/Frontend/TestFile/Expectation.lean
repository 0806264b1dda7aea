/- Reports that a test expects, written at the end of its lines. -/
import Frontend.Diagnostic.Report
import Frontend.Text.CodeRange
import Frontend.Text.Cut
import Frontend.Text.Numeral
import Frontend.Text.Word

namespace Frontend

/-- An expected report; `lines` are the first and the last line that it is about, from one. -/
structure Expectation where
  lines : Option (Nat × Nat)
  severity : Severity
  text : List Char
  deriving DecidableEq, Repr

inductive ExpectationError where
  | malformed
  | lineNumber (cause : Text.NumeralError)
  deriving DecidableEq, Repr

/-- Where an expected report points to, seen from the line that it is written on. -/
inductive LineMark where
  | here
  | above (count : Nat)
  | below (count : Nat)
  | numbered (digits : List Char)
  deriving DecidableEq, Repr

namespace LineMark

/-- A sign, or several of a kind, or digits. -/
def read? : List Char → Option (LineMark × List Char)
  | [] => none
  | c :: cs =>
    if c = '<' then some (here, cs)
    else if c = '^' then
      some (above (cs.takeWhile (· == '^')).length.succ, cs.dropWhile (· == '^'))
    else if c = 'v' then
      some (below (cs.takeWhile (· == 'v')).length.succ, cs.dropWhile (· == 'v'))
    else if Text.isDecimalDigit c then
      some (numbered (c :: cs.takeWhile Text.isDecimalDigit), cs.dropWhile Text.isDecimalDigit)
    else none

/-- The line that a mark on line `number` points to. None is above the first, and a number has
64 bits. -/
def resolve (number : Nat) : LineMark → Except ExpectationError Nat
  | here => .ok number
  | above count => if count < number then .ok (number - count) else .error .malformed
  | below count => .ok (number + count)
  | numbered digits =>
    match Text.readNumeral 10 UInt64.size digits with
    | .ok n => .ok n
    | .error e => .error (.lineNumber e)

end LineMark

def Severity.ofWord? (word : List Char) : Option Severity :=
  match String.ofList (word.map Char.toLower) with
  | "note" => some .note
  | "warn" => some .warning
  | "warning" => some .warning
  | "error" => some .error
  | "fatal" => some .fatal
  | _ => none

structure Note where
  marks : Option (LineMark × Option LineMark)
  kind : List Char
  text : List Char
  deriving DecidableEq, Repr

namespace Note

def mark : List Char := "//@".toList

def readMarks (text : List Char) : Option (LineMark × Option LineMark) × List Char :=
  match LineMark.read? text with
  | none => (none, text)
  | some (first, rest) =>
    match (Text.after? ['-'] rest).bind LineMark.read? with
    | none => (some (first, none), rest)
    | some (last, rest) => (some (first, some last), rest)

/-- After the marks blanks, a word, a colon and the message. -/
def read? (text : List Char) : Option Note :=
  let (marks, rest) := readMarks text
  let words := rest.dropWhile Text.isWhitespace
  let kind := words.takeWhile Text.isWordChar
  match words.dropWhile Text.isWordChar with
  | ':' :: message =>
    if rest.length = words.length ∨ kind = [] then none
    else some ⟨marks, kind, Text.trim Text.isWhitespace message⟩
  | _ => none

def find? : List Char → Option (List Char × Note)
  | [] => none
  | c :: cs =>
    match (Text.after? mark (c :: cs)).bind read? with
    | some note => some ([], note)
    | none => (find? cs).map fun (before, note) => (c :: before, note)

/-- The lines that the marks of a note on line `number` point to: a range that runs downwards. -/
def resolveMarks (number : Nat) :
    Option (LineMark × Option LineMark) → Except ExpectationError (Option (Nat × Nat))
  | none => .ok none
  | some (first, last?) => do
    let first ← first.resolve number
    let last ← (last?.map (·.resolve number)).getD (.ok first)
    if last < first ∨ first = 0 then throw .malformed
    return some (first, last)

def expectation (number : Nat) (note : Note) : Except ExpectationError Expectation := do
  let lines ← resolveMarks number note.marks
  match Severity.ofWord? note.kind with
  | none => throw .malformed
  | some severity => return ⟨lines, severity, note.text⟩

end Note

/-- Splits line `number` of a test into its input and the report that it expects, if any. -/
def splitLine (number : Nat) (line : List Char) :
    Except ExpectationError (List Char × Option Expectation) :=
  match Note.find? line with
  | some (before, note) => (note.expectation number).map fun e => (before, some e)
  | none => if Text.occursIn Note.mark line then .error .malformed else .ok (line, none)

end Frontend
