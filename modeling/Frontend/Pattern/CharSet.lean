/- Sets of characters that a pattern can ask for. -/
import Frontend.Text.CodeRange
import Frontend.Text.CaseFolding
import Frontend.Text.Word

namespace Frontend

inductive CharSet where
  | ranges (rs : List Text.CodeRange)
  | digit
  | space
  | word
  | complement (set : CharSet)
  | union (left right : CharSet)
  | intersection (left right : CharSet)
  /-- The characters that differ in case at most from one of a set. -/
  | anyCase (set : CharSet)
  /-- The same with no case told from the other but that of the letters up to U+007F. -/
  | anyAsciiCase (set : CharSet)
  deriving DecidableEq, Repr

namespace CharSet

def contains (c : Char) : CharSet → Bool
  | ranges rs => Text.inRanges rs c
  | digit => Text.isDecimalDigit c
  | space => Text.isWhitespace c
  | word => Text.isWordChar c
  | complement set => !set.contains c
  | union left right => left.contains c || right.contains c
  | intersection left right => left.contains c && right.contains c
  | anyCase set => (Text.caseVariants c).any fun d => set.contains d
  | anyAsciiCase set => set.contains c || set.contains c.toLower || set.contains c.toUpper

def empty : CharSet := ranges []

def all : CharSet := complement empty

def range (first last : Char) : CharSet := ranges [(first.toNat, last.toNat)]

def single (c : Char) : CharSet := range c c

def ofList (cs : List Char) : CharSet := ranges (cs.map fun c => (c.toNat, c.toNat))

def difference (left right : CharSet) : CharSet := intersection left (complement right)

def symmetricDifference (left right : CharSet) : CharSet :=
  union (difference left right) (difference right left)

end CharSet

end Frontend
