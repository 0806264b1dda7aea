/- Quoted text: a value shown between quotation marks, with escapes that keep it on one line. -/
import Frontend.Text.CodeRange
import Frontend.Text.Printable

namespace Frontend.Text

def hexText (n : Nat) : String := String.ofList (Nat.toDigits 16 n)

def codePointEscape (c : Char) : String := "\\u\x7b" ++ hexText c.toNat ++ "\x7d"

/-- The sound marks of half-width katakana extend the letter before, but in a cell of their own. -/
def isSoundMark (c : Char) : Bool := inRanges [(0xff9e, 0xff9f)] c

def isFiller (c : Char) : Bool := inRanges [(0x115f, 0x1160), (0x3164, 0x3164), (0xffa0, 0xffa0)] c

/-- Characters that can be told from what is shown of them: they are visible, and no mark on the
character before. -/
def isPlain (c : Char) : Bool :=
  isPrintable c && !isFiller c && (!extendsGrapheme c || isSoundMark c)

/-- One character of quoted text; `marks` are the quotation marks that need a backslash. -/
def escapeChar (marks : List Char) (c : Char) : String :=
  if c = '\x00' then "\\0"
  else if c = '\t' then "\\t"
  else if c = '\r' then "\\r"
  else if c = '\n' then "\\n"
  else if c = '\\' then "\\\\"
  else if marks.contains c then String.ofList ['\\', c]
  else if isPlain c then c.toString
  else codePointEscape c

def quoteText (s : String) : String :=
  "\"" ++ s.toList.foldl (fun out c => out ++ escapeChar ['"'] c) "" ++ "\""

def quoteChar (c : Char) : String := "'" ++ escapeChar ['\''] c ++ "'"

end Frontend.Text
