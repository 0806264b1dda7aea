/- How patterns are written: literals, classes, groups, alternatives, repetitions and anchors. -/
import Frontend.Pattern.Bracket

namespace Frontend.Pattern

inductive Symbol where
  | atom (p : Pattern)
  | repetition (least : Nat) (most? : Option Nat)
  | bar
  | openGroup
  | closeGroup
  deriving DecidableEq, Repr

def readCount (text : List Char) : Option (Nat × List Char) :=
  let text := text.dropWhile Text.isWhitespace
  match Text.readNumeral 10 UInt32.size (text.takeWhile Char.isDigit) with
  | .ok n => some (n, (text.dropWhile Char.isDigit).dropWhile Text.isWhitespace)
  | .error _ => none

def readBounds (f : Flags) (text : List Char) : Option (Symbol × List Char) :=
  match readCount (f.skip text) with
  | some (n, '}' :: rest) => some (.repetition n (some n), f.skip rest)
  | some (least, ',' :: rest) =>
    match f.skip rest with
    | '}' :: rest => some (.repetition least none, f.skip rest)
    | rest =>
      match readCount rest with
      | some (most, '}' :: rest) =>
        if least ≤ most then some (.repetition least (some most), f.skip rest) else none
      | _ => none
  | _ => none

/-- A question mark after a repetition asks for short matches; whether there is a match does not
depend on it. -/
def skipLazyMark : List Char → List Char
  | '?' :: cs => cs
  | text => text

def readRepetition (f : Flags) : List Char → Option (Symbol × List Char)
  | '*' :: cs => some (.repetition 0 none, skipLazyMark cs)
  | '+' :: cs => some (.repetition 1 none, skipLazyMark cs)
  | '?' :: cs => some (.repetition 0 (some 1), skipLazyMark cs)
  | '{' :: cs => (readBounds f cs).map fun (s, rest) => (s, skipLazyMark rest)
  | _ => none

def isRepetition (c : Char) : Bool := c == '*' || c == '+' || c == '?' || c == '{'

def Escape.toPattern (f : Flags) : Escape → Pattern
  | char c => f.literal c
  | set s => .char s
  | assertion a => .assertion a

def readAtom (f : Flags) : List Char → Option (Pattern × List Char)
  | [] => none
  | '.' :: cs => if f.ascii then none else some (.char f.dot, cs)
  | '^' :: cs => some (.assertion f.caret, cs)
  | '$' :: cs => some (.assertion f.dollar, cs)
  | '[' :: cs => (readBrackets f cs).map fun (set, rest) => (.char set, rest)
  | '\\' :: cs => (readEscape f cs).map fun (e, rest) => (e.toPattern f, rest)
  | c :: cs => some (f.literal c, cs)

/-- The characters of the name of a group; figures and some signs cannot come first. -/
def isNameChar (c : Char) : Bool :=
  Text.isIdentifierChar c || c == '.' || c == '[' || c == ']'

def skipGroupName (text : List Char) : Option (List Char) :=
  match text.head?, text.dropWhile isNameChar with
  | some c, '>' :: rest => if Text.isAlphabetic c || c == '_' then some rest else none
  | _, _ => none

/-- The start of a group after its opening parenthesis: its flags and where they apply. -/
def readGroup (f : Flags) (text : List Char) : Option (Flags × FlagScope × List Char) :=
  match f.skip text with
  | '?' :: 'P' :: '<' :: cs => (skipGroupName cs).map fun rest => (f, .body, rest)
  | '?' :: '<' :: cs => (skipGroupName cs).map fun rest => (f, .body, rest)
  | '?' :: cs => if cs.head? == some ')' then none else readFlags f true cs
  | cs => some (f, .body, cs)

/-- The symbols of a pattern, read under the flags of the innermost group; those of the groups
around it come back when it is closed. The number of steps is at most that of characters. -/
def readSymbols : Nat → Flags → List Flags → List Char → Option (List Symbol)
  | 0, _, _, _ => none
  | bound + 1, f, outer, text =>
    match f.skip text with
    | [] => if outer.isEmpty then some [] else none
    | '|' :: cs => (readSymbols bound f outer cs).map (.bar :: ·)
    | ')' :: cs =>
      match outer with
      | [] => none
      | o :: os => (readSymbols bound o os cs).map (.closeGroup :: ·)
    | '(' :: cs =>
      match readGroup f cs with
      | none => none
      | some (inner, .body, rest) =>
        (readSymbols bound inner (f :: outer) rest).map (.openGroup :: ·)
      | some (f, .rest, rest) =>
        if (f.skip rest).head?.any isRepetition then none else readSymbols bound f outer rest
    | c :: cs =>
      if isRepetition c then
        match readRepetition f (c :: cs) with
        | none => none
        | some (s, rest) => (readSymbols bound f outer rest).map (s :: ·)
      else
        match readAtom f (c :: cs) with
        | none => none
        | some (p, rest) => (readSymbols bound f outer rest).map (.atom p :: ·)

/-- An open group: the alternatives that are complete, and the one being read, last item first. -/
structure Group where
  alternatives : List Pattern := []
  items : List Pattern := []
  deriving DecidableEq, Repr

def Group.sequence (g : Group) : Pattern := g.items.foldl (fun p item => .sequence item p) .nothing

def Group.close (g : Group) : Pattern :=
  g.alternatives.foldl (fun p alternative => .choice alternative p) g.sequence

/-- The innermost group comes first. -/
def readStep : List Group → Symbol → Option (List Group)
  | [], _ => none
  | g :: gs, .atom p => some ({ g with items := p :: g.items } :: gs)
  | g :: gs, .repetition least most? =>
    match g.items with
    | [] => none
    | item :: items => some ({ g with items := .repeated item least most? :: items } :: gs)
  | g :: gs, .bar => some ({ alternatives := g.sequence :: g.alternatives } :: gs)
  | gs, .openGroup => some ({} :: gs)
  | g :: outer :: gs, .closeGroup => some ({ outer with items := g.close :: outer.items } :: gs)
  | [_], .closeGroup => none

def read? (text : String) : Option Pattern := do
  let symbols ← readSymbols (text.length + 1) {} [] text.toList
  match ← symbols.foldlM readStep [{}] with
  | [g] => some g.close
  | _ => none

end Frontend.Pattern
