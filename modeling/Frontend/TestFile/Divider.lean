/- The lines that divide a test file into tests. -/
import Frontend.Text.CodeRange
import Frontend.Text.Cut

namespace Frontend

structure Divider where
  ignored : Bool
  name : List Char
  options : List (List Char)
  deriving DecidableEq, Repr

namespace Divider

def openMark : List Char := "--8<--".toList

def ignoreMark : List Char := "-->8--".toList

def isFiller (c : Char) : Bool := c == '-' || Text.isWhitespace c

/-- Reads what follows the scissors: a name and, after two dashes, options. -/
def ofTitle (ignored : Bool) (title : List Char) : Divider :=
  let title := Text.trimStart isFiller title
  match Text.cut? "--".toList title with
  | none => ⟨ignored, Text.trimEnd isFiller title, []⟩
  | some (name, options) =>
    ⟨ignored, Text.trimEnd Text.isWhitespace name,
      Text.fields Text.isWhitespace (Text.trim isFiller options)⟩

/-- Cuts at the scissors; only dashes may come before them. -/
def cutAt? (ignored : Bool) (mark text : List Char) : Option Divider :=
  match Text.cut? mark text with
  | some (before, title) => if before.all (· == '-') then some (ofTitle ignored title) else none
  | none => none

/-- Two slashes, dashes and scissors; where both kinds stand in a line, those that open count. -/
def ofLine? (line : List Char) : Option Divider :=
  match Text.after? "//".toList line with
  | none => none
  | some text =>
    if Text.occursIn openMark text then cutAt? false openMark text
    else cutAt? true ignoreMark text

def isExact (d : Divider) : Bool := d.options.contains "exact".toList

end Divider

end Frontend
