/- Flags that change how the rest of a pattern is read. -/
import Frontend.Pattern.Basic

namespace Frontend.Pattern

structure Flags where
  ignoreCase : Bool := false
  multiLine : Bool := false
  /-- Whether a dot takes line ends too. -/
  dotAll : Bool := false
  /-- Whether a carriage return ends a line. -/
  withReturn : Bool := false
  /-- Whether blanks and comments between the parts of a pattern are skipped. -/
  verbose : Bool := false
  /-- Whether classes and cases are those of the characters up to U+007F. -/
  ascii : Bool := false
  deriving DecidableEq, Repr

namespace Flags

/-- Sets the flag of a letter. That for short matches has no bearing on whether there is one. -/
def set? (f : Flags) (value : Bool) : Char → Option Flags
  | 'i' => some { f with ignoreCase := value }
  | 'm' => some { f with multiLine := value }
  | 's' => some { f with dotAll := value }
  | 'R' => some { f with withReturn := value }
  | 'x' => some { f with verbose := value }
  | 'u' => some { f with ascii := !value }
  | 'U' => some f
  | _ => none

/-- A text without the blanks and comments that it starts with. -/
def dropGap (inComment : Bool) : List Char → List Char
  | [] => []
  | c :: cs =>
    if inComment then dropGap (c != '\n') cs
    else if Text.isWhitespace c then dropGap false cs
    else if c = '#' then dropGap true cs
    else c :: cs

def skip (f : Flags) (text : List Char) : List Char :=
  if f.verbose then dropGap false text else text

/-- A set under the flags: with the other cases of its characters, if case is ignored. -/
def fold (f : Flags) (set : CharSet) : CharSet :=
  if !f.ignoreCase then set else if f.ascii then .anyAsciiCase set else .anyCase set

def literal (f : Flags) (c : Char) : Pattern := .char (f.fold (.single c))

def asciiDigits : CharSet := .range '0' '9'

def asciiSpaces : CharSet := .ofList ['\t', '\n', '\x0b', '\x0c', '\r', ' ']

def asciiWord : CharSet :=
  .union asciiDigits (.union (.range 'A' 'Z') (.union (.range 'a' 'z') (.single '_')))

def word (f : Flags) : CharSet := if f.ascii then asciiWord else .word

def boundary (f : Flags) (kind : Boundary) : Assertion := .boundary kind f.word

def dot (f : Flags) : CharSet :=
  if f.dotAll then .all
  else if f.withReturn then .complement (.ofList ['\r', '\n'])
  else .complement (.single '\n')

def caret (f : Flags) : Assertion := if f.multiLine then .lineStart f.withReturn else .textStart

def dollar (f : Flags) : Assertion := if f.multiLine then .lineEnd f.withReturn else .textEnd

end Flags

/-- Flags in a group end with the group, if it has a body, or hold for the rest of the one around
it. -/
inductive FlagScope where
  | body
  | rest
  deriving DecidableEq, Repr

/-- Flags after a question mark, up to the sign that tells their scope; those after a hyphen are
taken away. -/
def readFlags (f : Flags) (value : Bool) : List Char → Option (Flags × FlagScope × List Char)
  | [] => none
  | ':' :: cs => some (f, .body, cs)
  | ')' :: cs => some (f, .rest, cs)
  | '-' :: cs =>
    if !value || cs.head? == some ':' || cs.head? == some ')' then none else readFlags f false cs
  | c :: cs => (f.set? value c).bind fun f => readFlags f value cs

end Frontend.Pattern
