/- The lexer: a cursor that moves over a text token by token. -/
import Frontend.Lexer.Lexeme
import Frontend.Message
import Frontend.Source.File

namespace Frontend

/-- The text that is left, and where it starts. -/
structure Lexer where
  rest : List Char
  position : Position
  location : Location
  deriving DecidableEq, Repr

namespace Lexer

/-- Reads a text that belongs to no file; its tokens lie nowhere. -/
def ofChars (chars : List Char) : Lexer := ⟨chars, .nowhere, .start⟩

def startLocation (r : Registry) (s : Span) : Location :=
  match r.fileOf? s with
  | none => .start
  | some f =>
    match f.lineAt? s.start with
    | none => { Location.start with offset := s.start.offset }
    | some i =>
      ⟨i + 1, s.start.offset - (f.lineSpan i).start.offset + 1, s.start.offset⟩

/-- Reads a span of a registered file; a span outside of its file has no text. -/
def ofSpan (r : Registry) (s : Span) : Lexer :=
  ⟨(r.slice? s).getD [], s.start, startLocation r s⟩

def moveOver (l : Lexer) (used rest : List Char) : Lexer :=
  ⟨rest, l.position.advance used.length, l.location.advance used rest⟩

def Gap.token (g : Gap) : Reading Token :=
  if g.unclosed then .failed .unexpectedEndOfFile g.rest [] else readToken g.rest

theorem Gap.splits_token (g : Gap) : g.token.Splits g.rest := by
  unfold Gap.token
  split
  · exact List.append_nil _
  · exact splits_readToken _

/-- Line separators in a row count once: what follows the first one is skipped. -/
def isSeparatorTrail (c : Char) : Bool := Text.isWhitespace c || c == ';'

def skipTrail (l : Lexer) : Lexer :=
  l.moveOver (l.rest.takeWhile isSeparatorTrail) (l.rest.dropWhile isSeparatorTrail)

/-- What one step of the lexer gives: a token or an error, the end of it, and the lexer after it. -/
structure Step where
  outcome : Except LexError (Spanned Token)
  reached : Location
  next : Lexer

namespace Step

def isEnd (s : Step) : Bool :=
  match s.outcome with
  | .ok t => t.value.isEndOfFile
  | .error _ => false

def error? (s : Step) : Option LexError :=
  match s.outcome with
  | .ok _ => none
  | .error e => some e

def token? (s : Step) : Option (Spanned Token) :=
  match s.outcome with
  | .ok t => if t.value.isEndOfFile then none else some t
  | .error _ => none

def record (s : Step) : LogRecord :=
  match s.outcome with
  | .ok t => ⟨.trace, "lexed " ++ t.value.debug ++ " until " ++ s.reached.text⟩
  | .error e => ⟨.debug, "lexer error at " ++ e.location.text ++ ": " ++ e.kind.debug⟩

end Step

def atToken (l : Lexer) : Lexer := l.moveOver (readGap l.rest).skipped (readGap l.rest).rest

/-- Reads the next token. The end of the text can be read again and again. -/
def next (l : Lexer) : Step :=
  let start := l.atToken
  let reading := (readGap l.rest).token
  let stop := start.moveOver reading.used reading.rest
  let span := Span.covering reading.used.length start.position
  match reading.outcome with
  | .error kind => ⟨.error ⟨kind, stop.location, span⟩, stop.location, stop⟩
  | .ok t =>
    ⟨.ok ⟨span, t⟩, stop.location, if t.isSeparator then stop.skipTrail else stop⟩

theorem next_rest_length_le (l : Lexer) :
    l.next.next.rest.length ≤ (readGap l.rest).token.rest.length := by
  unfold next
  dsimp only
  split
  · exact Nat.le_refl _
  · dsimp only
    split
    · exact (List.dropWhile_sublist _).length_le
    · exact Nat.le_refl _

/-- Every token and every error uses up characters. -/
theorem next_rest_length_lt {l : Lexer} (h : l.next.isEnd = false) :
    l.next.next.rest.length < l.rest.length := by
  have hne : (readGap l.rest).token.used ≠ [] := by
    cases hu : (readGap l.rest).unclosed with
    | true => simpa [Gap.token, hu, Reading.failed] using rest_ne_nil_of_unclosed hu
    | false =>
      have htoken : (readGap l.rest).token = readToken (readGap l.rest).rest := by
        simp [Gap.token, hu]
      rw [htoken]
      apply used_ne_nil_of_readToken
      intro hrest
      rw [hrest] at htoken
      have hend : l.next.isEnd = true := by
        simp [next, htoken, readToken, Reading.found, Step.isEnd, Token.isEndOfFile]
      rw [hend] at h
      cases h
  have hsplit := Gap.splits_token (readGap l.rest)
  unfold Reading.Splits at hsplit
  have hgap := congrArg List.length (readGap_append l.rest)
  have hlen := congrArg List.length hsplit
  have hpos := List.length_pos_iff.mpr hne
  have hle := l.next_rest_length_le
  rw [List.length_append] at hgap hlen
  omega

/-- Every step up to the first that meets the end of the text, errors included. -/
def steps (l : Lexer) : List Step :=
  match _h : l.next.isEnd with
  | true => [l.next]
  | false => l.next :: l.next.next.steps
termination_by l.rest.length
decreasing_by exact next_rest_length_lt _h

def untilError : List Step → List Step
  | [] => []
  | s :: rest => if s.error?.isSome then [s] else s :: untilError rest

/-- Every step up to the end of the text or the first error. -/
def run (l : Lexer) : List Step := untilError l.steps

end Lexer

/-- The tokens of a lexer one by one; nothing comes after the end of the text or an error. -/
structure TokenStream where
  lexer : Lexer
  finished : Bool := false
  deriving DecidableEq, Repr

namespace TokenStream

/-- The next token or error, if there is one, and the stream after it. -/
def next? (s : TokenStream) : Option (Except LexError (Spanned Token)) × TokenStream :=
  if s.finished then (none, s)
  else
    let step := s.lexer.next
    if step.isEnd then (none, ⟨step.next, true⟩)
    else (some step.outcome, ⟨step.next, step.error?.isSome⟩)

def steps (s : TokenStream) : List Lexer.Step := if s.finished then [] else s.lexer.run

/-- What is left in the stream, where an error counts as one. -/
def remaining (s : TokenStream) : Nat := (s.steps.filter fun step => !step.isEnd).length

def exhaust (s : TokenStream) : TokenStream :=
  ⟨(s.steps.getLast?.map (·.next)).getD s.lexer, true⟩

end TokenStream

end Frontend
