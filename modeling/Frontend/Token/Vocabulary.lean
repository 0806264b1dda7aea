/- The fixed words and signs of the source language. -/
namespace Frontend

/-- The first of some words that is spelt in a given way. -/
def spelt? {α : Type} (spelling : α → String) (words : List α) (s : String) : Option α :=
  words.find? (spelling · = s)

theorem spelling_of_spelt? {α : Type} {spelling : α → String} {words : List α} {s : String} {x : α}
    (h : spelt? spelling words s = some x) : spelling x = s := by
  rw [spelt?] at h
  simpa using List.find?_some h

inductive Operator where
  | plus
  | minus
  | star
  | slash
  | percent
  | ltLt
  | gtGt
  | amp
  | pipe
  | caret
  | tilde
  | bang
  | ampAmp
  | pipePipe
  | eqEq
  | bangEq
  | lt
  | ltEq
  | gt
  | gtEq
  | eq
  | plusEq
  | minusEq
  | starEq
  | slashEq
  | percentEq
  | ltLtEq
  | gtGtEq
  | ampEq
  | pipeEq
  | caretEq
  | quesQues
  deriving DecidableEq, Repr

namespace Operator

def all : List Operator :=
  [.plus, .minus, .star, .slash, .percent, .ltLt, .gtGt, .amp, .pipe, .caret, .tilde, .bang,
    .ampAmp, .pipePipe, .eqEq, .bangEq, .lt, .ltEq, .gt, .gtEq, .eq, .plusEq, .minusEq, .starEq,
    .slashEq, .percentEq, .ltLtEq, .gtGtEq, .ampEq, .pipeEq, .caretEq, .quesQues]

def name : Operator → String
  | .plus => "Plus"
  | .minus => "Minus"
  | .star => "Star"
  | .slash => "Slash"
  | .percent => "Percent"
  | .ltLt => "LtLt"
  | .gtGt => "GtGt"
  | .amp => "Amp"
  | .pipe => "Pipe"
  | .caret => "Caret"
  | .tilde => "Tilde"
  | .bang => "Bang"
  | .ampAmp => "AmpAmp"
  | .pipePipe => "PipePipe"
  | .eqEq => "EqEq"
  | .bangEq => "BangEq"
  | .lt => "Lt"
  | .ltEq => "LtEq"
  | .gt => "Gt"
  | .gtEq => "GtEq"
  | .eq => "Eq"
  | .plusEq => "PlusEq"
  | .minusEq => "MinusEq"
  | .starEq => "StarEq"
  | .slashEq => "SlashEq"
  | .percentEq => "PercentEq"
  | .ltLtEq => "LtLtEq"
  | .gtGtEq => "GtGtEq"
  | .ampEq => "AmpEq"
  | .pipeEq => "PipeEq"
  | .caretEq => "CaretEq"
  | .quesQues => "QuesQues"

def spelling : Operator → String
  | .plus => "+"
  | .minus => "-"
  | .star => "*"
  | .slash => "/"
  | .percent => "%"
  | .ltLt => "<<"
  | .gtGt => ">>"
  | .amp => "&"
  | .pipe => "|"
  | .caret => "^"
  | .tilde => "~"
  | .bang => "!"
  | .ampAmp => "&&"
  | .pipePipe => "||"
  | .eqEq => "=="
  | .bangEq => "!="
  | .lt => "<"
  | .ltEq => "<="
  | .gt => ">"
  | .gtEq => ">="
  | .eq => "="
  | .plusEq => "+="
  | .minusEq => "-="
  | .starEq => "*="
  | .slashEq => "/="
  | .percentEq => "%="
  | .ltLtEq => "<<="
  | .gtGtEq => ">>="
  | .ampEq => "&="
  | .pipeEq => "|="
  | .caretEq => "^="
  | .quesQues => "??"

def ofSpelling? (s : String) : Option Operator := spelt? spelling all s

end Operator

/-- The operator that a compound assignment such as `+=` applies. -/
def Operator.assignmentBase? : Operator → Option Operator
  | .plusEq => some .plus
  | .minusEq => some .minus
  | .starEq => some .star
  | .slashEq => some .slash
  | .percentEq => some .percent
  | .ltLtEq => some .ltLt
  | .gtGtEq => some .gtGt
  | .ampEq => some .amp
  | .pipeEq => some .pipe
  | .caretEq => some .caret
  | _ => none

def Operator.isAssignment (op : Operator) : Bool := op == .eq || op.assignmentBase?.isSome

inductive Punctuation where
  | leftParen
  | rightParen
  | leftBrace
  | rightBrace
  | leftBracket
  | rightBracket
  | comma
  | colon
  | dot
  | arrow
  | ellipsis
  | question
  | semicolon
  | newline
  deriving DecidableEq, Repr

namespace Punctuation

def all : List Punctuation :=
  [.leftParen, .rightParen, .leftBrace, .rightBrace, .leftBracket, .rightBracket, .comma,
    .colon, .dot, .arrow, .ellipsis, .question, .semicolon, .newline]

def name : Punctuation → String
  | .leftParen => "LParen"
  | .rightParen => "RParen"
  | .leftBrace => "LBrace"
  | .rightBrace => "RBrace"
  | .leftBracket => "LBracket"
  | .rightBracket => "RBracket"
  | .comma => "Comma"
  | .colon => "Colon"
  | .dot => "Dot"
  | .arrow => "Arrow"
  | .ellipsis => "Ellipsis"
  | .question => "Ques"
  | .semicolon => "Semicolon"
  | .newline => "Newline"

def spelling : Punctuation → String
  | .leftParen => "("
  | .rightParen => ")"
  | .leftBrace => "\x7b"
  | .rightBrace => "\x7d"
  | .leftBracket => "["
  | .rightBracket => "]"
  | .comma => ","
  | .colon => ":"
  | .dot => "."
  | .arrow => "->"
  | .ellipsis => "..."
  | .question => "?"
  | .semicolon => ";"
  | .newline => "\n"

def ofSpelling? (s : String) : Option Punctuation := spelt? spelling all s

end Punctuation

inductive Keyword where
  | funcWord
  | typeWord
  | extensionWord
  | protocolWord
  | varWord
  | letWord
  | ifWord
  | elseWord
  | whileWord
  | forWord
  | inWord
  | returnWord
  | breakWord
  | continueWord
  | switchWord
  | caseWord
  | defaultWord
  | nilWord
  | trueWord
  | falseWord
  | sizeofWord
  | initWord
  | deinitWord
  | subscriptWord
  | asWord
  | isWord
  | operatorWord
  deriving DecidableEq, Repr

namespace Keyword

def all : List Keyword :=
  [.funcWord, .typeWord, .extensionWord, .protocolWord, .varWord, .letWord, .ifWord, .elseWord,
    .whileWord, .forWord, .inWord, .returnWord, .breakWord, .continueWord, .switchWord,
    .caseWord, .defaultWord, .nilWord, .trueWord, .falseWord, .sizeofWord, .initWord,
    .deinitWord, .subscriptWord, .asWord, .isWord, .operatorWord]

def name : Keyword → String
  | .funcWord => "Func"
  | .typeWord => "Type"
  | .extensionWord => "Extension"
  | .protocolWord => "Protocol"
  | .varWord => "Var"
  | .letWord => "Let"
  | .ifWord => "If"
  | .elseWord => "Else"
  | .whileWord => "While"
  | .forWord => "For"
  | .inWord => "In"
  | .returnWord => "Return"
  | .breakWord => "Break"
  | .continueWord => "Continue"
  | .switchWord => "Switch"
  | .caseWord => "Case"
  | .defaultWord => "Default"
  | .nilWord => "Nil"
  | .trueWord => "True"
  | .falseWord => "False"
  | .sizeofWord => "Sizeof"
  | .initWord => "Init"
  | .deinitWord => "Deinit"
  | .subscriptWord => "Subscript"
  | .asWord => "As"
  | .isWord => "Is"
  | .operatorWord => "Operator"

def spelling : Keyword → String
  | .funcWord => "func"
  | .typeWord => "type"
  | .extensionWord => "extension"
  | .protocolWord => "protocol"
  | .varWord => "var"
  | .letWord => "let"
  | .ifWord => "if"
  | .elseWord => "else"
  | .whileWord => "while"
  | .forWord => "for"
  | .inWord => "in"
  | .returnWord => "return"
  | .breakWord => "break"
  | .continueWord => "continue"
  | .switchWord => "switch"
  | .caseWord => "case"
  | .defaultWord => "default"
  | .nilWord => "nil"
  | .trueWord => "true"
  | .falseWord => "false"
  | .sizeofWord => "sizeof"
  | .initWord => "init"
  | .deinitWord => "deinit"
  | .subscriptWord => "subscript"
  | .asWord => "as"
  | .isWord => "is"
  | .operatorWord => "operator"

def ofSpelling? (s : String) : Option Keyword := spelt? spelling all s

end Keyword

/-- Words that qualify a declaration. They are read as names. -/
inductive Attribute where
  | foreign
  | static
  | mutating
  | indirect
  | noreturn
  | implicit
  deriving DecidableEq, Repr

namespace Attribute

def all : List Attribute :=
  [.foreign, .static, .mutating, .indirect, .noreturn, .implicit]

def name : Attribute → String
  | .foreign => "Foreign"
  | .static => "Static"
  | .mutating => "Mutating"
  | .indirect => "Indirect"
  | .noreturn => "Noreturn"
  | .implicit => "Implicit"

def spelling : Attribute → String
  | .foreign => "foreign"
  | .static => "static"
  | .mutating => "mutating"
  | .indirect => "indirect"
  | .noreturn => "noreturn"
  | .implicit => "implicit"

def ofSpelling? (s : String) : Option Attribute := spelt? spelling all s

end Attribute

/-- Words that ask the compiler about itself. -/
inductive Directive where
  | function
  | file
  | line
  | warning
  | error
  deriving DecidableEq, Repr

namespace Directive

def all : List Directive :=
  [.function, .file, .line, .warning, .error]

def name : Directive → String
  | .function => "Function"
  | .file => "File"
  | .line => "Line"
  | .warning => "Warning"
  | .error => "Error"

/-- The word in a source, with its number sign. -/
def spelling : Directive → String
  | .function => "#function"
  | .file => "#file"
  | .line => "#line"
  | .warning => "#warning"
  | .error => "#error"

def ofSpelling? (s : String) : Option Directive := spelt? spelling all s

end Directive

end Frontend
