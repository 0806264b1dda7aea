/- Sets of characters with names, and how their ranges are written. -/
import Frontend.Text.CodeRange
import Frontend.Text.Cut
import Frontend.Text.Numeral

namespace Frontend.Property

def codePoint (digits : List Char) : Nat :=
  (Text.readNumeral 16 0x110000 digits).toOption.getD 0

/-- A code point, or the first and the last one with a hyphen between them. -/
def readRange (text : List Char) : Text.CodeRange :=
  let last := text.dropWhile (· != '-')
  let first := codePoint (text.takeWhile (· != '-'))
  (first, if last.isEmpty then first else codePoint last.tail)

def readRanges (text : String) : List Text.CodeRange :=
  (Text.fields Char.isWhitespace text.toList).map readRange

/-- A set under all its names, in small letters and without the signs between words. -/
structure NamedSet where
  names : List String
  ranges : String
  deriving DecidableEq, Repr

def NamedSet.find? (name : String) (sets : List NamedSet) : Option (List Text.CodeRange) :=
  (sets.find? (·.names.contains name)).map (readRanges ·.ranges)

end Frontend.Property
