/- Classes of characters in brackets. -/
import Frontend.Pattern.Escape

namespace Frontend.Pattern

/-- Operations on classes, all of one rank and from left to right. -/
inductive SetOperation where
  | intersection
  | difference
  | symmetricDifference
  deriving DecidableEq, Repr

def SetOperation.apply (left right : CharSet) : SetOperation → CharSet
  | intersection => .intersection left right
  | difference => .difference left right
  | symmetricDifference => .symmetricDifference left right

/-- A class that is being read: what stands before the last operation, and the items after it. -/
structure OpenClass where
  negated : Bool := false
  pending : Option (CharSet × SetOperation) := none
  items : CharSet := .empty
  deriving DecidableEq, Repr

namespace OpenClass

def add (c : OpenClass) (set : CharSet) : OpenClass := { c with items := .union c.items set }

def members (f : Flags) (c : OpenClass) : CharSet :=
  match c.pending with
  | none => c.items
  | some (left, operation) => operation.apply (f.fold left) (f.fold c.items)

def operate (f : Flags) (operation : SetOperation) (c : OpenClass) : OpenClass :=
  { c with pending := some (c.members f, operation), items := .empty }

def close (f : Flags) (c : OpenClass) : CharSet :=
  let set := f.fold (c.members f)
  if c.negated then .complement set else set

end OpenClass

def wordClass? : String → Option CharSet
  | "alnum" => some (.union Flags.asciiDigits (.union (.range 'A' 'Z') (.range 'a' 'z')))
  | "alpha" => some (.union (.range 'A' 'Z') (.range 'a' 'z'))
  | "ascii" => some (.range '\x00' '\x7f')
  | "blank" => some (.ofList ['\t', ' '])
  | "cntrl" => some (.union (.range '\x00' '\x1f') (.single '\x7f'))
  | "digit" => some Flags.asciiDigits
  | "graph" => some (.range '!' '~')
  | "lower" => some (.range 'a' 'z')
  | "print" => some (.range ' ' '~')
  | "punct" =>
    some (.difference (.range '!' '~')
      (.union Flags.asciiDigits (.union (.range 'A' 'Z') (.range 'a' 'z'))))
  | "space" => some Flags.asciiSpaces
  | "upper" => some (.range 'A' 'Z')
  | "word" => some Flags.asciiWord
  | "xdigit" => some (.union Flags.asciiDigits (.union (.range 'A' 'F') (.range 'a' 'f')))
  | _ => none

def readWordClass (f : Flags) : List Char → Option (CharSet × List Char)
  | ':' :: text =>
    let negated := text.head? == some '^'
    let text := if negated then text.tail else text
    match text.dropWhile (· != ':') with
    | ':' :: ']' :: rest =>
      (wordClass? (String.ofList (text.takeWhile (· != ':')))).map fun set =>
        (if negated then .complement (f.fold set) else f.fold set, rest)
    | _ => none
  | _ => none

/-- Hyphens at the start of a class, which stand for themselves; says whether there are any. -/
def readHyphens (f : Flags) : Nat → Bool → List Char → Bool × List Char
  | bound + 1, _, '-' :: cs => readHyphens f bound true (f.skip cs)
  | _, found, text => (found, text)

/-- The start of a class after its opening bracket: a caret takes the complement, and a closing
bracket or hyphens stand for themselves. -/
def openClass (f : Flags) (text : List Char) : OpenClass × List Char :=
  let text := f.skip text
  let negated := text.head? == some '^'
  let text := if negated then f.skip text.tail else text
  let (hasHyphen, text) := readHyphens f text.length false text
  if hasHyphen then ({ negated, items := .single '-' }, text)
  else if text.head? == some ']' then ({ negated, items := .single ']' }, f.skip text.tail)
  else ({ negated }, text)

/-- A character of a class or a set that is part of it. -/
def readMember (f : Flags) : List Char → Option (Escape × List Char)
  | [] => none
  | '\\' :: cs => readEscape f cs
  | c :: cs => some (.char c, cs)

def readItem (f : Flags) (text : List Char) : Option (CharSet × List Char) :=
  match readMember f text with
  | none => none
  | some (first, rest) =>
    let rest := f.skip rest
    let next := (f.skip rest.tail).head?
    if rest.head? == some '-' && next != some ']' && next != some '-' then
      match first, readMember f (f.skip rest.tail) with
      | .char a, some (.char b, rest) => if a ≤ b then some (.range a b, rest) else none
      | _, _ => none
    else
      match first with
      | .char c => some (.single c, rest)
      | .set s => some (s, rest)
      | .assertion _ => none

/-- A class up to its closing bracket; the classes around it, innermost first, wait for it. The
number of steps is at most that of characters. -/
def readClass (f : Flags) :
    Nat → OpenClass → List OpenClass → List Char → Option (CharSet × List Char)
  | 0, _, _, _ => none
  | bound + 1, c, outer, text =>
    match f.skip text with
    | ']' :: rest =>
      match outer with
      | [] => some (c.close f, rest)
      | o :: os => readClass f bound (o.add (c.close f)) os rest
    | '&' :: '&' :: rest => readClass f bound (c.operate f .intersection) outer rest
    | '-' :: '-' :: rest => readClass f bound (c.operate f .difference) outer rest
    | '~' :: '~' :: rest => readClass f bound (c.operate f .symmetricDifference) outer rest
    | '[' :: rest =>
      match readWordClass f rest with
      | some (set, rest) => readClass f bound (c.add set) outer rest
      | none =>
        let (inner, rest) := openClass f rest
        readClass f bound inner (c :: outer) rest
    | text =>
      match readItem f text with
      | none => none
      | some (set, rest) => readClass f bound (c.add set) outer rest

def readBrackets (f : Flags) (text : List Char) : Option (CharSet × List Char) :=
  let (c, rest) := openClass f text
  readClass f (rest.length + 1) c [] rest

end Frontend.Pattern
