/- Character and string literals, from right after the opening quote. -/
import Frontend.Lexer.Reading
import Frontend.Text.Numeral

namespace Frontend.Lexer

open Reading

def isHexDigit (c : Char) : Bool := (Text.digitValue? 16 c).isSome

def simpleEscape? : Char → Option Char
  | 'n' => some '\n'
  | 't' => some '\t'
  | 'r' => some '\r'
  | '"' => some '"'
  | '\'' => some '\''
  | '\\' => some '\\'
  | _ => none

def closeHexEscape (digits : List Char) : List Char → Reading Char
  | [] => failed .unexpectedEndOfFile digits []
  | '}' :: cs =>
    match Text.readNumeral 16 256 digits with
    | .ok value => found (Char.ofNat value) (digits ++ ['}']) cs
    | .error _ => failed (.invalidEscape 'x') (digits ++ ['}']) cs
  | c :: cs => failed (.invalidEscape 'x') (digits ++ [c]) cs

/-- A hexadecimal escape after its `x`: at least one digit in braces, of value below 256. -/
def readHexEscape : List Char → Reading Char
  | [] => failed .unexpectedEndOfFile [] []
  | '{' :: cs => (closeHexEscape (cs.takeWhile isHexDigit) (cs.dropWhile isHexDigit)).after ['{']
  | c :: cs => failed (.invalidEscape 'x') [c] cs

def readEscape : List Char → Reading Char
  | [] => failed .unexpectedEndOfFile [] []
  | 'x' :: cs => (readHexEscape cs).after ['x']
  | c :: cs =>
    match simpleEscape? c with
    | some value => found value [c] cs
    | none => failed (.invalidEscape c) [c] cs

theorem splits_closeHexEscape (digits text : List Char) :
    (closeHexEscape digits text).Splits (digits ++ text) := by
  unfold closeHexEscape
  split
  · rfl
  · split <;> exact List.append_assoc _ _ _
  · exact List.append_assoc _ _ _

theorem splits_readHexEscape (text : List Char) : (readHexEscape text).Splits text := by
  unfold readHexEscape
  split
  · rfl
  · rename_i cs
    have h := (splits_closeHexEscape (cs.takeWhile isHexDigit) (cs.dropWhile isHexDigit)).after
      ['{']
    rwa [List.takeWhile_append_dropWhile] at h
  · rfl

theorem splits_readEscape (text : List Char) : (readEscape text).Splits text := by
  unfold readEscape
  split
  · rfl
  · exact (splits_readHexEscape _).after ['x']
  · split <;> rfl

/-- The closing quote of a character literal whose one character has been read. -/
def closeCharacter (value : Char) : List Char → Reading UInt8
  | [] => failed .unexpectedEndOfFile [] []
  | '\'' :: cs => found (UInt8.ofNat value.toNat) ['\''] cs
  | c :: cs => failed .invalidCharacterLiteral [c] cs

/-- A character literal: one character or escape, kept modulo 256. -/
def readCharacter : List Char → Reading UInt8
  | [] => failed .unexpectedEndOfFile [] []
  | '\'' :: cs => failed .invalidCharacterLiteral ['\''] cs
  | '\\' :: cs =>
    let escape := readEscape cs
    match escape.outcome with
    | .error kind => failed kind ('\\' :: escape.used) escape.rest
    | .ok value => (closeCharacter value escape.rest).after ('\\' :: escape.used)
  | c :: cs => (closeCharacter c cs).after [c]

theorem splits_closeCharacter (value : Char) (text : List Char) :
    (closeCharacter value text).Splits text := by
  unfold closeCharacter
  split <;> rfl

theorem splits_readCharacter (text : List Char) : (readCharacter text).Splits text := by
  unfold readCharacter
  split
  · rfl
  · rfl
  · rename_i cs
    have h : ('\\' :: (readEscape cs).used) ++ (readEscape cs).rest = '\\' :: cs :=
      congrArg (List.cons '\\') (splits_readEscape cs)
    dsimp only
    split
    · exact h
    · exact h ▸ (splits_closeCharacter _ _).after _
  · exact (splits_closeCharacter _ _).after _

/-- A string literal: characters and escapes up to the closing quote. -/
def readString (text : List Char) : Reading (List Char) :=
  match text with
  | [] => failed .unexpectedEndOfFile [] []
  | '"' :: cs => found [] ['"'] cs
  | '\\' :: cs =>
    match (readEscape cs).outcome with
    | .error kind => failed kind ('\\' :: (readEscape cs).used) (readEscape cs).rest
    | .ok value =>
      ((readString (readEscape cs).rest).map (value :: ·)).after ('\\' :: (readEscape cs).used)
  | c :: cs => ((readString cs).map (c :: ·)).after [c]
termination_by text.length
decreasing_by
  · exact Nat.lt_succ_of_le (splits_readEscape cs).length_le
  · exact Nat.lt_succ_self _

theorem splits_readString (text : List Char) : (readString text).Splits text := by
  fun_induction readString text with
  | case1 => rfl
  | case2 cs => rfl
  | case3 cs kind h => exact congrArg (List.cons '\\') (splits_readEscape cs)
  | case4 cs value h ih =>
    have := (ih.map (value :: ·)).after ('\\' :: (readEscape cs).used)
    rwa [List.cons_append, splits_readEscape cs] at this
  | case5 c cs h₁ h₂ ih => exact (ih.map (c :: ·)).after [c]

end Frontend.Lexer
