/- A subject that does what a script says. -/
import Frontend.TestRun.Outcome

namespace Frontend

/-- A report of a script; `range?` counts characters of the tested text. -/
structure ScriptReport where
  severity : Severity
  text : String
  range? : Option (Nat × Nat) := none
  deriving DecidableEq, Repr

inductive ScriptPanic where
  | formatted
  | fixed
  | wordless
  deriving DecidableEq, Repr

/-- What happens in one run: reports, then a panic, then the output. -/
structure ScriptEntry where
  reports : List ScriptReport := []
  /-- Whether a report that stops the work ends the run. -/
  heedsStop : Bool := false
  panic? : Option ScriptPanic := none
  keepsSource : Bool := false
  keepsReport : Bool := false
  /-- The tested text itself, if there is none. -/
  output? : Option String := none
  deriving DecidableEq, Repr

namespace ScriptEntry

def span (whole : Span) : Option (Nat × Nat) → Span
  | none => .nowhere
  | some (a, b) => (whole.part a b).toOption.getD .nowhere

/-- Adds reports one by one; says whether the run is over. -/
def addReports (heedsStop : Bool) (whole : Span) :
    List ScriptReport → Collected → Collected × Bool
  | [], sink => (sink, false)
  | r :: rest, sink =>
    let (sink, verdict) := ReportSink.add sink r.severity (span whole r.range?) (.ofText r.text)
    if heedsStop && verdict == .stop then (sink, true) else addReports heedsStop whole rest sink

def panicText? (before : Nat) : ScriptPanic → Option String
  | .formatted => some ("owned " ++ toString before)
  | .fixed => some "borrowed"
  | .wordless => none

def run (entry : ScriptEntry) (before : Nat) (registry : Registry) (whole : Span)
    (sink : Collected) : List SourceFile × Collected × Except Loan RunEnd :=
  let (sink, isOver) := addReports entry.heedsStop whole entry.reports sink
  let text := String.ofList ((registry.slice? whole).getD [])
  ([], sink,
    if isOver then .ok (.output "stopped")
    else
      match entry.panic? with
      | some panic => .ok (.panicked (panicText? before panic))
      | none =>
        if entry.keepsSource then .error .source
        else if entry.keepsReport then .error .report
        else .ok (.output (entry.output?.getD text)))

end ScriptEntry

/-- Each run follows the next entry of a script, and an empty one when the script is over. -/
def scriptSubject (script : List ScriptEntry) : Subject := fun before =>
  (script[before]?.getD {}).run before

end Frontend
