/- Reports to the user, and the places that take them. -/
import Frontend.Message
import Frontend.Source.Position
import Frontend.Terminal

namespace Frontend

inductive Severity where
  | note
  | warning
  | error
  | fatal
  deriving DecidableEq, Repr

namespace Severity

def name : Severity → String
  | note => "Note"
  | warning => "Warning"
  | error => "Error"
  | fatal => "Fatal"

/-- The color of brackets and the color of marked text. -/
def colors : Severity → Color × Color
  | note => (.cyan, .brightCyan)
  | warning => (.yellow, .brightYellow)
  | error => (.red, .brightRed)
  | fatal => (.red, .brightRed)

end Severity

/-- A report whose message has been put into words. -/
structure Report where
  severity : Severity
  span : Span
  text : String
  deriving DecidableEq, Repr

inductive SinkError where
  /-- A sink let the work go on after a fatal report. -/
  | fatalIgnored
  /-- The line that a report is about is too wide to be marked. -/
  | tooWide
  deriving DecidableEq, Repr

def SinkError.message : SinkError → String
  | .fatalIgnored => "Report::fatal should always return Err(Stop::Fatal) but returned Ok(())"
  | .tooWide => "Formatting argument out of range"

inductive Verdict where
  | proceed
  | stop
  | broken (e : SinkError)
  deriving DecidableEq, Repr

def Verdict.text : Verdict → String
  | .proceed => "Ok(())"
  | .stop => "Err(Fatal)"
  | .broken e => e.message

/-- A fatal report stops the work, any other one lets it go on. -/
def Severity.verdict : Severity → Verdict
  | .fatal => .stop
  | _ => .proceed

/-- A place that takes reports, in the locale of its readers. -/
class ReportSink (σ : Type) where
  locale : σ → Locale
  add : σ → Severity → Span → Message → σ × Verdict

/-- Adds a fatal report, which has to stop the work. -/
def ReportSink.fatal {σ : Type} [ReportSink σ] (sink : σ) (span : Span) (msg : Message) :
    σ × Except SinkError Unit :=
  match ReportSink.add sink .fatal span msg with
  | (sink, .stop) => (sink, .ok ())
  | (sink, .proceed) => (sink, .error .fatalIgnored)
  | (sink, .broken e) => (sink, .error e)

def fatalRecord (msg : Message) : LogRecord := ⟨.info, "reporting fatal error: " ++ msg.debug⟩

structure Collected where
  locale : Locale
  reports : List Report := []
  deriving DecidableEq, Repr

instance : ReportSink Collected where
  locale c := c.locale
  add c severity span msg :=
    ({ c with reports := c.reports ++ [⟨severity, span, msg.inLocale c.locale⟩] }, severity.verdict)

/-- Drops every report and stops at the first one. -/
structure Silent where
  deriving DecidableEq, Repr

instance : ReportSink Silent where
  locale _ := .unknown
  add s _ _ _ := (s, .stop)

end Frontend
