/- What can be wrong with a text that is read into tokens. -/
import Frontend.Message
import Frontend.Source.Location
import Frontend.Source.Position
import Frontend.Text.Quoted

namespace Frontend

inductive LexErrorKind where
  /-- A control character outside of literals. -/
  | invalidCharacter (c : Char)
  /-- A character literal that holds no character, or more than one. -/
  | invalidCharacterLiteral
  /-- A backslash before a character that starts no escape. -/
  | invalidEscape (c : Char)
  /-- The text ends inside a literal or a block comment. -/
  | unexpectedEndOfFile
  deriving DecidableEq, Repr

namespace LexErrorKind

def name : LexErrorKind → String
  | invalidCharacter _ => "InvalidCharacter"
  | invalidCharacterLiteral => "InvalidCharacterLiteral"
  | invalidEscape _ => "InvalidEscape"
  | unexpectedEndOfFile => "UnexpectedEof"

def char? : LexErrorKind → Option Char
  | invalidCharacter c => some c
  | invalidEscape c => some c
  | _ => none

def debug (k : LexErrorKind) : String :=
  match k.char? with
  | some c => k.name ++ "(" ++ Text.quoteChar c ++ ")"
  | none => k.name

def form : LexErrorKind → Message.Form
  | invalidCharacter _ =>
    { name := "InvalidCharacter"
      translations := [("ko", [.words "잘못된 문자 ", .slot "ch", .words "가 파일에 포함되어 있습니다"])]
      fallback := [.words "The file contains an invalid character ", .slot "ch"] }
  | invalidCharacterLiteral =>
    .plain "InvalidCharacterLiteral" "문자 리터럴에는 정확히 한 글자가 있어야 합니다"
      "A character literal should contain exactly one character"
  | invalidEscape _ =>
    { name := "InvalidEscape"
      translations :=
        [("ko", [.words "알 수 없는 이스케이프 문자 `\\", .slot "ch",
          .words "`가 리터럴에 포함되어 있습니다"])]
      fallback :=
        [.words "Unrecognized escape sequence `\\", .slot "ch", .words "` in a literal"] }
  | unexpectedEndOfFile =>
    .plain "UnexpectedEof" "리터럴이나 주석을 읽던 중 파일이 끝났습니다"
      "Premature end of file in a literal or comment"

def shownChar : LexErrorKind → String
  | invalidCharacter c => Text.quoteChar c
  | invalidEscape c => Text.escapeChar ['"', '\''] c
  | _ => ""

def wording (k : LexErrorKind) (l : Locale) : String :=
  (k.form.fill [("ch", .ofText k.shownChar)]).inLocale l

def message (k : LexErrorKind) : Message := ⟨k.debug, k.wording⟩

end LexErrorKind

/-- An error, the place where reading stopped, and the characters from the start of the faulty token
to there. -/
structure LexError where
  kind : LexErrorKind
  location : Location
  span : Span
  deriving DecidableEq, Repr

def LexError.display (e : LexError) : String :=
  e.location.display ++ ": " ++ e.kind.wording .unknown

end Frontend
