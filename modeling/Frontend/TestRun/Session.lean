/- A test session: every test of a directory is run and counted. -/
import Frontend.Pattern.Syntax
import Frontend.TestRun.Options
import Frontend.TestRun.Display

namespace Frontend

inductive SessionError where
  | invalidPattern
  | unknownLocale
  | noDirectory (cause : FileError)
  | invalidFile (path : String) (cause : TestFileError)
  | kept (loan : Loan)
  | panicked (cause? : Option String)
  deriving DecidableEq, Repr

def Loan.name : Loan → String
  | source => "Source"
  | report => "Report"

def SessionError.message : SessionError → String
  | invalidPattern => "pattern should be a valid regex"
  | unknownLocale => "unrecognized message locale"
  | noDirectory cause => "failed to read the test directory: " ++ cause.debug
  | invalidFile path cause =>
    "failed to parse the test file " ++ path ++ ": " ++ cause.message path
  | kept loan => "Testing::run should not keep the " ++ loan.name
  | panicked cause? => cause?.getD "<unknown error>"

/-- The tests that have been run, what has been shown, and what is shown again at the end. -/
structure Session where
  tested : Nat := 0
  passed : Nat := 0
  screen : List Piece := []
  logs : List TestLog := []
  deriving DecidableEq, Repr

/-- A session that broke off in a test, or before any. -/
structure Abort where
  error : SessionError
  before : Session := {}
  /-- What is still shown of the test. -/
  note : List Piece := []
  deriving DecidableEq, Repr

structure Plan where
  verbose : Bool
  exactReports : Bool
  stopOnPanic : Bool
  locale : Locale
  pattern? : Option Pattern
  deriving DecidableEq, Repr

namespace Plan

/-- The pattern is read before the locale. -/
def ofOptions (o : Options) : Except SessionError Plan := do
  let pattern? ← match o.pattern? with
    | none => pure none
    | some text =>
      match Pattern.read? text with
      | none => throw .invalidPattern
      | some p => pure (some p)
  match Locale.parse? o.localeName with
  | none => throw .unknownLocale
  | some locale =>
    return { verbose := o.verbose, exactReports := o.exactReports, stopOnPanic := o.stopOnPanic,
             locale, pattern? }

def selects (p : Plan) (t : TestCase) : Bool :=
  match p.pattern? with
  | none => true
  | some pattern => pattern.occursIn t.name

def isExact (p : Plan) (t : TestCase) : Bool := p.exactReports || t.exact

end Plan

namespace Session

def record (p : Plan) (path : String) (t : TestCase) (run : TestRun) (s : Session) : Session :=
  let result := run.result (p.isExact t) t
  { tested := s.tested + 1
    passed := s.passed + if result = .passed then 1 else 0
    screen := s.screen ++ result.note t
    logs := s.logs ++ (run.log? p.verbose (p.isExact t) path t).toList }

/-- Whether a run ends the session, and with which cause. -/
def stops? (p : Plan) (run : TestRun) : Option (Option String) :=
  match run.ending with
  | .panicked cause? => if p.stopOnPanic then some cause? else none
  | .output _ => none

def runTest (p : Plan) (subject : Subject) (path : String) (s : Session) (t : TestCase) :
    Except Abort Session :=
  if t.ignored then .ok { s with screen := s.screen ++ TestResult.ignored.note t }
  else
    match TestRun.ofTest subject p.locale s.tested t with
    | .error loan => .error { error := .kept loan, before := s }
    | .ok run =>
      match stops? p run with
      | some cause? =>
        .error { error := .panicked cause?, before := s, note := TestResult.panicked.note t }
      | none => .ok (s.record p path t run)

def runTests (p : Plan) (subject : Subject) (path : String) (tests : List TestCase) (s : Session) :
    Except Abort Session :=
  let selected := tests.filter p.selects
  let s := if selected.isEmpty then s else { s with screen := s.screen ++ fileHeading path }
  selected.foldlM (runTest p subject path) s

def runEntry (p : Plan) (subject : Subject) (folder : String) (s : Session)
    (file : String × Entry) : Except Abort Session :=
  let path := folder ++ "/" ++ file.1
  match TestCase.ofEntry file.2 with
  | .error e => .error { error := .invalidFile path e, before := s }
  | .ok tests => s.runTests p subject path tests

/-- A test file has a name before its extension. -/
def isTestFile (name : String) : Bool :=
  let cs := name.toList
  4 < cs.length && cs.drop (cs.length - 4) == ".kes".toList

def testFiles (d : Directory) : List (String × Entry) :=
  (d.entries.filter fun e => isTestFile e.1).mergeSort fun a b => decide (a.1 ≤ b.1)

def ofDirectory (p : Plan) (subject : Subject) (folder : String) (d : Directory) :
    Except Abort Session :=
  (testFiles d).foldlM (runEntry p subject folder) {}

/-- A session with the options of a command line; without a directory there is none. -/
def run (o : Options) (subject : Subject) (folder : String) (d? : Option Directory) :
    Except Abort Session :=
  match Plan.ofOptions o with
  | .error e => .error { error := e }
  | .ok p =>
    match d? with
    | none => .error { error := .noDirectory .noSuchFile }
    | some d => ofDirectory p subject folder d

def failed (s : Session) : Nat := s.tested - s.passed

abbrev counts (s : Session) : List Piece :=
  [.plain ("\n" ++ toString s.passed ++ " passed, " ++ toString s.failed ++ " failed\n")]

/-- The counts, and the runs that are shown again as far as they can be. -/
def closing (s : Session) : Showing :=
  .between s.counts [.plain "\n"] (s.logs.map (·.showing))

/-- The program exits after the summary, unless it broke off in it. -/
def exitCode (s : Session) : Nat :=
  if s.closing.broken?.isSome then brokenStatus else if s.failed = 0 then 0 else 1

end Session

end Frontend
