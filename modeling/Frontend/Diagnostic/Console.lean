/- Reports on a terminal, each with the source line that it is about. -/
import Frontend.Diagnostic.Excerpt
import Frontend.Diagnostic.Report
import Frontend.Source.File

namespace Frontend

/-- The place of a report: its file, the first line with the marked text, and the last line. -/
structure Site where
  path : String
  line : Nat
  lastLine : Nat
  excerpt : Excerpt
  deriving DecidableEq, Repr

/-- Lines are counted from one. There is no site for a span that no file holds. -/
def Registry.site? (r : Registry) (s : Span) : Option Site := do
  let file ← r.fileOf? s
  let (first, last) ← file.lineEnds? s
  let lineSpan := file.lineSpan first
  let line ← r.slice? lineSpan
  let base := lineSpan.start.offset
  return {
    path := file.path
    line := first + 1
    lastLine := last + 1
    excerpt := .ofLine line (s.start.offset - base) (s.stop.offset - base) }

/-- `path:line:column: `, and the last line if it is another one. -/
def Site.lead (site : Site) : String :=
  site.path ++ ":" ++ toString site.line ++ ":" ++ toString (site.excerpt.column + 1) ++ ": " ++
    if site.line = site.lastLine then "" else toString site.lastLine ++ ":_ "

def Severity.headline (severity : Severity) (text : String) : List Piece :=
  let (dim, bright) := severity.colors
  [.painted dim none "[", .painted bright none severity.name, .painted dim none "] ",
    .painted .brightWhite none text]

/-- The marked line after its number, and the marker below it. -/
def Site.body (site : Site) (bright : Color) : List Piece :=
  let number := toString site.line
  [.painted .brightBlack none (number ++ " | "), .plain site.excerpt.before,
    .painted bright none site.excerpt.marked, .plain (site.excerpt.after ++ "\n"),
    .painted .brightBlack none (Text.padding number.length 0 ++ " | "),
    .painted bright none site.excerpt.marker, .plain "\n"]

/-- A report as it is shown: where it is, what it says, and the line it is about. The line is marked
before anything is shown, which fails if it is too wide. -/
def Registry.showReport (r : Registry) (severity : Severity) (span : Span) (text : String) :
    Except SinkError (List Piece) :=
  let message := severity.headline text ++ [.plain "\n"]
  match r.site? span with
  | none => .ok message
  | some site =>
    if site.excerpt.isDrawable then
      .ok ([.plain site.lead] ++ message ++ site.body severity.colors.2)
    else .error .tooWide

/-- Shows every report at once, in the locale of the environment. -/
structure Console where
  registry : Registry
  locale : Locale
  shown : List Piece := []
  deriving DecidableEq, Repr

def Console.ofEnvironment (registry : Registry) (env : LocaleEnvironment) : Console :=
  { registry, locale := (Locale.ofEnvironment? env).getD .unknown }

instance : ReportSink Console where
  locale c := c.locale
  add c severity span msg :=
    match c.registry.showReport severity span (msg.inLocale c.locale) with
    | .ok pieces => ({ c with shown := c.shown ++ pieces }, severity.verdict)
    | .error e => (c, .broken e)

end Frontend
