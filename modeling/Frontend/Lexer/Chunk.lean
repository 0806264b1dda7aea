/- A whole span read into tokens, with the first error reported. -/
import Frontend.Diagnostic.Report
import Frontend.Lexer.Basic

namespace Frontend

inductive ChunkOutcome where
  | tokens (ts : List (Spanned Token))
  | stopped
  | broken (e : SinkError)
  deriving DecidableEq, Repr

structure Chunk (σ : Type) where
  sink : σ
  outcome : ChunkOutcome
  records : List LogRecord

def noFileMessage : Message :=
  (Message.Form.plain "NoFileForSpan" "주어진 코드 범위에 대응하는 소스 파일이 존재하지 않습니다"
    "There exists no source file corresponding to given span").fill []

def Chunk.fatal {σ : Type} [ReportSink σ] (sink : σ) (span : Span) (msg : Message)
    (records : List LogRecord) : Chunk σ :=
  let (sink, result) := ReportSink.fatal sink span msg
  { sink
    outcome := match result with
      | .ok () => .stopped
      | .error e => .broken e
    records := records ++ [fatalRecord msg] }

/-- The tokens of a span, without the end of the text; or a single fatal report and no tokens. -/
def Registry.lexChunk {σ : Type} [ReportSink σ] (r : Registry) (span : Span) (sink : σ) :
    Chunk σ :=
  match r.slice? span with
  | none => .fatal sink span noFileMessage []
  | some _ =>
    let steps := (Lexer.ofSpan r span).run
    let records := steps.map (·.record)
    match steps.findSome? (·.error?) with
    | none => ⟨sink, .tokens (steps.filterMap (·.token?)), records⟩
    | some e =>
      .fatal sink e.span e.kind.message
        (records ++ [⟨.debug, "stopped lexing at " ++ e.location.text⟩])

/-- A token with its place, as it stands in a listing. -/
def tokenText (t : Spanned Token) : String := t.text Token.debug

end Frontend
