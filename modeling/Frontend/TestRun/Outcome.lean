/- A test put to a subject, and what came of it. -/
import Frontend.Diagnostic.Report
import Frontend.Source.File
import Frontend.TestFile.Basic
import Frontend.TestRun.Tally

namespace Frontend

/-- What a subject is lent for a run and has to give back. -/
inductive Loan where
  | source
  | report
  deriving DecidableEq, Repr

inductive RunEnd where
  | output (text : String)
  /-- The subject broke off; what it says of the cause may be no text. -/
  | panicked (cause? : Option String)
  deriving DecidableEq, Repr

/-- The first argument is the number of runs before this one. A run leaves the files that it added
to the registry and the reports; it is worth nothing if the subject keeps what it was lent. -/
abbrev Subject :=
  Nat → Registry → Span → Collected → List SourceFile × Collected × Except Loan RunEnd

/-- The path that the input of a test goes by. -/
def testPath : String := "<test main>"

/-- A run that came to an end, with the files that its reports are about. -/
structure TestRun where
  registry : Registry
  reports : List Report
  ending : RunEnd
  deriving DecidableEq, Repr

inductive TestResult where
  | passed
  | failed
  | panicked
  | ignored
  deriving DecidableEq, Repr

/-- A run that is shown again after all tests. -/
structure TestLog where
  path : String
  test : TestCase
  run : TestRun
  /-- Whether the run holds only reports that are not expected. -/
  isDelta : Bool
  deriving DecidableEq, Repr

namespace TestRun

def inputFile (t : TestCase) : SourceFile := { path := testPath, chars := Text.joinLines t.input }

def ofTest (subject : Subject) (locale : Locale) (before : Nat) (t : TestCase) :
    Except Loan TestRun :=
  let (registry, span) := Registry.add {} (inputFile t)
  let (added, sink, ending) := subject before registry span { locale }
  ending.map fun ending => ⟨registry.addAll added, sink.reports, ending⟩

/-- The files of a run are its input and those that the subject added. -/
theorem registry_of_ofTest {subject : Subject} {locale : Locale} {before : Nat} {t : TestCase}
    {run : TestRun} (h : ofTest subject locale before t = .ok run) :
    ∃ added, run.registry = (Registry.add {} (inputFile t)).1.addAll added := by
  rcases hrun : subject before (Registry.add {} (inputFile t)).1
    (Registry.add {} (inputFile t)).2 { locale } with ⟨added, sink, ending⟩
  simp only [ofTest, hrun] at h
  cases ending with
  | error loan => cases h
  | ok ending =>
    cases h
    exact ⟨added, rfl⟩

/-- What a report is compared by: its lines, counted from one, its severity and its text. -/
def key (registry : Registry) (r : Report) : Expectation where
  lines := do
    let file ← registry.fileOf? r.span
    let (first, last) ← file.lineEnds? r.span
    return (first + 1, last + 1)
  severity := r.severity
  text := r.text.toList

def tally (run : TestRun) (t : TestCase) : Tally :=
  .ofReports t.reports (run.reports.map (key run.registry))

/-- A test passes if the output is the expected one and the expected reports came. -/
def result (run : TestRun) (exact : Bool) (t : TestCase) : TestResult :=
  match run.ending with
  | .panicked _ => .panicked
  | .output text =>
    if text.toList = Text.joinLines t.output ∧ (run.tally t).isSatisfied exact then .passed
    else .failed

def onlyExcess (run : TestRun) (t : TestCase) : TestRun :=
  let tally := run.tally t
  { run with reports := run.reports.filter fun r => tally.isExcess (key run.registry r) }

/-- What of a run is shown again: all of one that did not pass, and of one that did the reports,
if there are any; only those that are not expected, unless all are asked for. -/
def log? (run : TestRun) (verbose exact : Bool) (path : String) (t : TestCase) : Option TestLog :=
  if run.result exact t = .passed then
    let shown := if verbose then run else run.onlyExcess t
    if shown.reports.isEmpty then none else some ⟨path, t, shown, !verbose⟩
  else some ⟨path, t, run, false⟩

end TestRun

end Frontend
