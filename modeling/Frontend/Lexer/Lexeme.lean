/- The token at the start of a text, where no blank and no comment stands before it. -/
import Frontend.Lexer.Reading
import Frontend.Lexer.Literal
import Frontend.Lexer.Trivia
import Frontend.Text.Numeric
import Frontend.Token.Basic

namespace Frontend.Lexer

open Reading
open Text (isIdentifierChar)

/-- The digits of a number after its radix mark, if it has one, and the radix.
A mark needs at least one character behind it. -/
def numberParts : List Char → Nat × List Char
  | '0' :: 'x' :: c :: cs => (16, c :: cs)
  | '0' :: 'b' :: c :: cs => (2, c :: cs)
  | '0' :: 'o' :: c :: cs => (8, c :: cs)
  | word => (10, word)

/-- The value of a word that is a number of 64 bits; underscores between its digits do not count. -/
def numberValue? (word : List Char) : Option UInt64 :=
  let (radix, digits) := numberParts word
  match Text.readNumeral radix UInt64.size (digits.filter (· ≠ '_')) with
  | .ok value => some (UInt64.ofNat value)
  | .error _ => none

def ofIdentifier (word : List Char) : Token :=
  match numberValue? word with
  | some value => .number (String.ofList word) value
  | none => .ofWord (String.ofList word)

def operatorChars : List Char :=
  ['+', '-', '*', '/', '%', '=', '<', '>', '!', '&', '|', '^', '~', '?', '.']

def isOperatorChar (c : Char) : Bool := operatorChars.contains c

def startsComment : List Char → Bool
  | '/' :: '/' :: _ => true
  | '/' :: '*' :: _ => true
  | _ => false

/-- The operator characters at the start of a text, up to a comment. -/
def operatorRun : List Char → List Char
  | [] => []
  | c :: cs => if isOperatorChar c && !startsComment (c :: cs) then c :: operatorRun cs else []

def ofNumberSign (word : List Char) : Token :=
  if word.isEmpty then .unknown "#" else .ofWord (String.ofList ('#' :: word))

/-- One token; the end of the text is a token that uses no character. -/
def readToken : List Char → Reading Token
  | [] => found .endOfFile [] []
  | '\n' :: cs => found (.punctuation .newline) ['\n'] cs
  | ';' :: cs => found (.punctuation .semicolon) [';'] cs
  | '\'' :: cs => ((readCharacter cs).map .char).after ['\'']
  | '"' :: cs => ((readString cs).map fun s => .string (String.ofList s)).after ['"']
  | '.' :: '.' :: '.' :: cs => found (.punctuation .ellipsis) ['.', '.', '.'] cs
  | '#' :: cs =>
    found (ofNumberSign (cs.takeWhile isIdentifierChar)) ('#' :: cs.takeWhile isIdentifierChar)
      (cs.dropWhile isIdentifierChar)
  | c :: cs =>
    if isIdentifierChar c then
      found (ofIdentifier (c :: cs.takeWhile isIdentifierChar)) (c :: cs.takeWhile isIdentifierChar)
        (cs.dropWhile isIdentifierChar)
    else if isOperatorChar c then
      let run := c :: operatorRun cs
      found (.ofSign (String.ofList run)) run ((c :: cs).drop run.length)
    else if Text.isControl c then failed (.invalidCharacter c) [c] cs
    else found (.ofSign (String.ofList [c])) [c] cs

theorem operatorRun_isPrefix (text : List Char) : operatorRun text <+: text := by
  induction text with
  | nil => exact List.prefix_refl _
  | cons c cs ih =>
    unfold operatorRun
    split
    · exact (List.prefix_cons_inj c).mpr ih
    · exact List.nil_prefix

theorem operatorRun_append_drop (c : Char) (cs : List Char) :
    (c :: operatorRun cs) ++ (c :: cs).drop (c :: operatorRun cs).length = c :: cs := by
  obtain ⟨rest, hrest⟩ := (List.prefix_cons_inj c).mpr (operatorRun_isPrefix cs)
  rw [← hrest, List.drop_left]

theorem splits_readToken (text : List Char) : (readToken text).Splits text := by
  unfold readToken
  split
  · rfl
  · rfl
  · rfl
  · exact ((splits_readCharacter _).map _).after ['\'']
  · exact ((splits_readString _).map _).after ['"']
  · rfl
  · simp [Splits, found]
  · split
    · simp [Splits, found]
    · split
      · exact operatorRun_append_drop _ _
      · split <;> rfl

theorem used_ne_nil_of_readToken {text : List Char} (h : text ≠ []) :
    (readToken text).used ≠ [] := by
  unfold readToken
  split
  · exact absurd rfl h
  all_goals try exact List.cons_ne_nil _ _
  split
  · exact List.cons_ne_nil _ _
  · split
    · exact List.cons_ne_nil _ _
    · split <;> exact List.cons_ne_nil _ _

end Frontend.Lexer
