/- What stands after a backslash in a pattern. -/
import Frontend.Pattern.Flags
import Frontend.Property.Binary
import Frontend.Property.Script

namespace Frontend.Pattern

inductive Escape where
  | char (c : Char)
  | set (s : CharSet)
  | assertion (a : Assertion)
  deriving DecidableEq, Repr

/-- A name in small letters, without the signs between its words and an `is` before it. -/
def plainName (name : List Char) : String :=
  let kept := (name.filter fun c => !(c == ' ' || c == '_' || c == '-') && Text.isAscii c).map
    Char.toLower
  let isPrefixed := (name.take 2).map Char.toLower == ['i', 's']
  let bare := if isPrefixed then kept.drop 2 else kept
  if isPrefixed && bare == ['c'] then "isc" else String.ofList bare

def binary? (name : String) : Option CharSet :=
  (Property.binary? name).map fun (members, exceptions) =>
    if exceptions.isEmpty then .ranges members
    else .difference (.ranges members) (.ranges exceptions)

def category? : String → Option CharSet
  | "any" => some .all
  | "ascii" => some (.range '\x00' '\x7f')
  | "assigned" => some (.ranges Property.assigned)
  | "cn" => some (.complement (.ranges Property.assigned))
  | "unassigned" => some (.complement (.ranges Property.assigned))
  | "c" => some (.complement (.ranges (Property.inCategories ["l", "m", "n", "p", "s", "z"])))
  | "other" => some (.complement (.ranges (Property.inCategories ["l", "m", "n", "p", "s", "z"])))
  | name => (Property.category? name).map .ranges

def script? (name : String) : Option CharSet := (Property.script? name).map .ranges

/-- A property by its name. Where a short name means a category and something else, it is the
category. -/
def property? (name : String) : Option CharSet :=
  (binary? name).or ((category? name).or (script? name))

def valueOf? (property value : String) : Option CharSet :=
  if property = "gc" ∨ property = "generalcategory" then category? value
  else if property = "sc" ∨ property = "script" then script? value
  else none

def namedProperty? (text : List Char) : Option CharSet :=
  match Text.cut? "!=".toList text with
  | some (name, value) => (valueOf? (plainName name) (plainName value)).map .complement
  | none =>
    match (Text.cut? [':'] text).or (Text.cut? ['='] text) with
    | some (name, value) => valueOf? (plainName name) (plainName value)
    | none => property? (plainName text)

/-- A property after its letter: another letter, or a name in braces. -/
def readProperty (f : Flags) (negated : Bool) (text : List Char) : Option (Escape × List Char) :=
  let close (set : CharSet) : Escape :=
    .set (if negated then .complement (f.fold set) else f.fold set)
  if f.ascii then none
  else
    match f.skip text with
    | [] => none
    | '{' :: cs =>
      (Text.cut? ['}'] cs).bind fun (name, rest) =>
        (namedProperty? name).map fun set => (close set, rest)
    | c :: cs => (property? (plainName [c])).map fun set => (close set, cs)

/-- A character by its code point: so many figures, or any number of them in braces. -/
def readCode (f : Flags) (figures : Nat) (text : List Char) : Option (Escape × List Char) :=
  let (digits, rest) :=
    match f.skip text with
    | '{' :: cs => (Text.cut? ['}'] cs).getD ([], [])
    | cs => if cs.length < figures then ([], []) else (cs.take figures, cs.drop figures)
  match Text.readNumeral 16 0x110000 digits with
  | .ok code => if code.isValidChar then some (.char (Char.ofNat code), rest) else none
  | .error _ => none

def readLetterClass (f : Flags) (c : Char) : Option CharSet :=
  let choose (ascii full : CharSet) : CharSet := if f.ascii then ascii else full
  let without (set : CharSet) : Option CharSet := if f.ascii then none else some (.complement set)
  match c with
  | 'd' => some (choose Flags.asciiDigits .digit)
  | 's' => some (choose Flags.asciiSpaces .space)
  | 'w' => some f.word
  | 'D' => without .digit
  | 'S' => without .space
  | 'W' => without .word
  | _ => none

def boundaryNamed? : String → Option Boundary
  | "start" => some .start
  | "end" => some .stop
  | "start-half" => some .startHalf
  | "end-half" => some .stopHalf
  | _ => none

def isBoundaryLetter (c : Char) : Bool := c.isAlpha || c == '-'

/-- A word boundary after its letter. A name in braces tells its kind; other braces count how often
it is repeated. -/
def readBoundary (f : Flags) (text : List Char) : Option (Escape × List Char) :=
  let plain := some (Escape.assertion (f.boundary .edge), text)
  match text with
  | '{' :: cs =>
    let name := f.skip cs
    if name.head?.any isBoundaryLetter then
      match (name.dropWhile isBoundaryLetter) with
      | '}' :: rest =>
        (boundaryNamed? (String.ofList (name.takeWhile isBoundaryLetter))).map fun kind =>
          (.assertion (f.boundary kind), rest)
      | _ => none
    else plain
  | _ => plain

/-- The character that another one stands for: a control character by its letter, and any sign that
is no letter, figure or angle bracket for itself. -/
def escapedChar? : Char → Option Char
  | 'n' => some '\n'
  | 't' => some '\t'
  | 'r' => some '\r'
  | 'a' => some '\x07'
  | 'f' => some '\x0c'
  | 'v' => some '\x0b'
  | c => if Text.isAscii c && !c.isAlphanum then some c else none

/-- Reads on after a backslash. -/
def readEscape (f : Flags) : List Char → Option (Escape × List Char)
  | [] => none
  | 'x' :: cs => readCode f 2 cs
  | 'u' :: cs => readCode f 4 cs
  | 'U' :: cs => readCode f 8 cs
  | 'p' :: cs => readProperty f false cs
  | 'P' :: cs => readProperty f true cs
  | 'A' :: cs => some (.assertion .textStart, cs)
  | 'z' :: cs => some (.assertion .textEnd, cs)
  | 'b' :: cs => readBoundary f cs
  | 'B' :: cs => some (.assertion (f.boundary .inside), cs)
  | '<' :: cs => some (.assertion (f.boundary .start), cs)
  | '>' :: cs => some (.assertion (f.boundary .stop), cs)
  | c :: cs =>
    match readLetterClass f c with
    | some set => some (.set set, cs)
    | none => (escapedChar? c).map fun d => (.char d, cs)

end Frontend.Pattern
