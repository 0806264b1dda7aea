/- Tokens: what they are, how they are classified, and how they are shown. -/
import Frontend.Message
import Frontend.Text.Quoted
import Frontend.Token.Vocabulary

namespace Frontend

inductive Token where
  /-- A number with its spelling; `1_000` and `_1` are numbers too. -/
  | number (raw : String) (value : UInt64)
  | name (text : String)
  /-- A character or a run of operator characters with no meaning of its own. -/
  | unknown (text : String)
  /-- A character literal keeps the low eight bits of its character. -/
  | char (value : UInt8)
  /-- A string literal with its escapes resolved. -/
  | string (text : String)
  | operator (op : Operator)
  | punctuation (p : Punctuation)
  | keyword (k : Keyword)
  | directive (d : Directive)
  | endOfFile
  deriving DecidableEq, Repr

namespace Token

def ofSign (s : String) : Token :=
  match Operator.ofSpelling? s, Punctuation.ofSpelling? s with
  | some op, _ => operator op
  | none, some p => punctuation p
  | none, none => unknown s

def ofWord (s : String) : Token :=
  match Keyword.ofSpelling? s, Directive.ofSpelling? s with
  | some k, _ => keyword k
  | none, some d => directive d
  | none, none => name s

/-- Reserved words, and the names that cannot be used freely. -/
def isKeyword : Token → Bool
  | keyword _ => true
  | name s => s == "self" || (Attribute.ofSpelling? s).isSome
  | _ => false

def isSeparator : Token → Bool
  | punctuation .newline => true
  | punctuation .semicolon => true
  | _ => false

def isLiteral : Token → Bool
  | number .. | char _ | string _ => true
  | keyword k => k == .trueWord || k == .falseWord || k == .nilWord
  | _ => false

def isEndOfFile (t : Token) : Bool := t == endOfFile

def debug : Token → String
  | number raw value =>
    "Num \x7b raw: " ++ Text.quoteText raw ++ ", value: " ++ toString value.toNat ++ " \x7d"
  | name s => "Name(" ++ Text.quoteText s ++ ")"
  | unknown s => "Unknown(" ++ Text.quoteText s ++ ")"
  | char v => "Char(" ++ toString v.toNat ++ ")"
  | string s => "Str(" ++ Text.quoteText s ++ ")"
  | operator op => "Op(" ++ op.name ++ ")"
  | punctuation p => "Punct(" ++ p.name ++ ")"
  | keyword k => "Keyword(" ++ k.name ++ ")"
  | directive d => "Directive(" ++ d.name ++ ")"
  | endOfFile => "EOF"

/-- The characters of a token in a source, for those that have only one spelling. -/
def spelling? : Token → Option String
  | number raw _ => some raw
  | name s => some s
  | unknown s => some s
  | char _ => none
  | string _ => none
  | operator op => some op.spelling
  | punctuation p => some p.spelling
  | keyword k => some k.spelling
  | directive d => some d.spelling
  | endOfFile => some ""

theorem spelling?_ofSign (s : String) : (ofSign s).spelling? = some s := by
  unfold ofSign
  split
  · rename_i h; exact congrArg some (spelling_of_spelt? h)
  · rename_i h; exact congrArg some (spelling_of_spelt? h)
  · rfl

theorem spelling?_ofWord (s : String) : (ofWord s).spelling? = some s := by
  unfold ofWord
  split
  · rename_i h; exact congrArg some (spelling_of_spelt? h)
  · rename_i h; exact congrArg some (spelling_of_spelt? h)
  · rfl

end Token

end Frontend
