/- The characters that a token is read from. -/
import Frontend.Lexer.Lexeme
import Frontend.Proofs.Lexer.Literal

namespace Frontend.Lexer

/-- The token stands in a source as this text. A literal goes from quote to quote; every other
token has one spelling. -/
inductive Spelled : Token → List Char → Prop where
  | char {body value} (hbody : CharText '\'' body value) :
      Spelled (.char (UInt8.ofNat value.toNat)) ('\'' :: (body ++ ['\'']))
  | string {body values} (hbody : StringText body values) :
      Spelled (.string (String.ofList values)) ('"' :: (body ++ ['"']))
  | word {t text} (h : t.spelling? = some (String.ofList text)) : Spelled t text

theorem spelled_ofIdentifier (word : List Char) : Spelled (ofIdentifier word) word := by
  unfold ofIdentifier
  split
  · exact .word rfl
  · exact .word (Token.spelling?_ofWord _)

theorem spelled_ofNumberSign (word : List Char) : Spelled (ofNumberSign word) ('#' :: word) := by
  cases word with
  | nil => exact .word rfl
  | cons c cs => exact .word (Token.spelling?_ofWord _)

/-- The token that is found, if one is, stands as the characters that were used. -/
def FindsSpelled (r : Reading Token) : Prop := ∀ t, r.outcome = .ok t → Spelled t r.used

theorem findsSpelled_found {t : Token} {used : List Char} (h : Spelled t used)
    (rest : List Char) : FindsSpelled (.found t used rest) := by
  intro t' ht
  cases ht
  exact h

theorem findsSpelled_readCharacter (text : List Char) :
    FindsSpelled (((readCharacter text).map .char).after ['\'']) := by
  intro t ht
  obtain ⟨v, hread, rfl⟩ := Reading.of_map_outcome_eq_ok ht
  obtain ⟨body, value, hused, hbody, rfl⟩ := readCharacter_spec hread
  have hall : (((readCharacter text).map Token.char).after ['\'']).used =
      '\'' :: (body ++ ['\'']) := congrArg (List.cons '\'') hused
  rw [hall]
  exact .char hbody

theorem findsSpelled_readString (text : List Char) :
    FindsSpelled (((readString text).map fun s => .string (String.ofList s)).after ['"']) := by
  intro t ht
  obtain ⟨values, hread, rfl⟩ := Reading.of_map_outcome_eq_ok ht
  obtain ⟨body, hused, hbody⟩ := readString_spec hread
  have hall : (((readString text).map fun s => Token.string (String.ofList s)).after ['"']).used =
      '"' :: (body ++ ['"']) := congrArg (List.cons '"') hused
  rw [hall]
  exact .string hbody

/-- Every token is read from its spelling. -/
theorem findsSpelled_readToken (text : List Char) : FindsSpelled (readToken text) := by
  unfold readToken
  split
  · exact findsSpelled_found (.word rfl) _
  · exact findsSpelled_found (.word rfl) _
  · exact findsSpelled_found (.word rfl) _
  · exact findsSpelled_readCharacter _
  · exact findsSpelled_readString _
  · exact findsSpelled_found (.word rfl) _
  · exact findsSpelled_found (spelled_ofNumberSign _) _
  · split
    · exact findsSpelled_found (spelled_ofIdentifier _) _
    · split
      · exact findsSpelled_found (.word (Token.spelling?_ofSign _)) _
      · split
        · exact nofun
        · exact findsSpelled_found (.word (Token.spelling?_ofSign _)) _

end Frontend.Lexer
