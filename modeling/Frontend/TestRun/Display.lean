/- How tests and their results are shown. -/
import Frontend.Diagnostic.Console
import Frontend.TestRun.Outcome

namespace Frontend

namespace TestResult

def label : TestResult → String
  | passed => "PASSED"
  | failed => "FAILED"
  | panicked => "PANIC"
  | ignored => "IGNORE"

def colors : TestResult → Color × Option Color
  | passed => (.brightGreen, none)
  | failed => (.brightRed, none)
  | panicked => (.black, some .red)
  | ignored => (.brightBlack, none)

def labelWidth : Nat := 6

def note (r : TestResult) (t : TestCase) : List Piece :=
  let name :=
    if t.name.isEmpty then "<anonymous test at line " ++ toString t.firstLine ++ ">"
    else String.ofList t.name
  [.plain "  ", .painted r.colors.1 r.colors.2 r.label,
    .plain (Text.padding labelWidth r.label.length ++ "  "),
    .painted .brightWhite none (name ++ "\n")]

end TestResult

def fileHeading (path : String) : List Piece :=
  [.plain "\n", .painted .brightMagenta none (Text.padding 10 0 ++ path ++ "\n")]

/-- A line across the terminal, after a title. -/
def rule (title : String) : Piece :=
  .painted .brightBlack none
    (title ++ String.ofList (List.replicate (60 - title.length) '-') ++ "\n")

/-- The lines of an expected report, of which no column is known. -/
def Expectation.lead (e : Expectation) : List Piece :=
  match e.lines with
  | none => []
  | some (first, last) =>
    let start := testPath ++ ":" ++ toString first ++ ":_: "
    [.plain (if first = last then start else start ++ toString last ++ ":_ ")]

def Expectation.pieces (e : Expectation) : List Piece :=
  e.lead ++ e.severity.headline (String.ofList e.text ++ "\n")

def RunEnd.pieces : RunEnd → List Piece
  | .output text => [.painted .brightWhite none (text ++ "\n")]
  | .panicked cause? =>
    [.painted .black (some .red) "PANICKED",
      .painted .brightRed none (" " ++ cause?.getD "<unknown error>" ++ "\n")]

/-- What is shown, and why the program broke off after it, if it did. -/
structure Showing where
  pieces : List Piece := []
  broken? : Option SinkError := none
  deriving DecidableEq, Repr

namespace Showing

/-- Nothing is shown after the program broke off. -/
def append (first later : Showing) : Showing :=
  if first.broken?.isSome then first
  else { later with pieces := first.pieces ++ later.pieces }

def join (parts : List Showing) : Showing := parts.foldr append {}

def between (before after : List Piece) (parts : List Showing) : Showing :=
  append { pieces := before } ((join parts).append { pieces := after })

end Showing

def Registry.showing (r : Registry) (report : Report) : Showing :=
  match r.showReport report.severity report.span report.text with
  | .ok pieces => { pieces }
  | .error e => { broken? := some e }

namespace TestLog

def heading (l : TestLog) : List Piece :=
  let name := if l.test.name.isEmpty then []
    else [Piece.painted .brightWhite none (String.ofList l.test.name ++ " ")]
  [.plain "\n", .painted .brightMagenta none (l.path ++ " ")] ++ name ++
    [.plain ("(at line " ++ toString l.test.firstLine ++ ")\n")]

def expected (l : TestLog) : List Piece :=
  let output := l.test.output.map fun line =>
    Piece.painted .brightWhite none (String.ofList line ++ "\n")
  let reports := l.test.reports.flatMap (·.pieces)
  rule "EXPECTED " :: output ++ if reports.isEmpty then [] else .plain "\n" :: reports

def actual (l : TestLog) : List Piece := rule "ACTUAL " :: l.run.ending.pieces

/-- What was expected and what came, unless reports that were not expected are all that there is to
show. -/
def lead (l : TestLog) : List Piece :=
  l.heading ++
    if l.isDelta then [rule "ACTUAL (DIFF FROM EXPECTED) "]
    else l.expected ++ l.actual ++ if l.run.reports.isEmpty then [] else [.plain "\n"]

def showing (l : TestLog) : Showing :=
  .between l.lead [rule ""] (l.run.reports.map l.run.registry.showing)

end TestLog

end Frontend
