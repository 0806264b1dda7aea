/- The texts of character and string literals. -/
import Frontend.Lexer.Literal
import Frontend.Proofs.Text.Run
import Mathlib.Data.List.TakeWhile

namespace Frontend.Lexer

/-- An escape after its backslash, and the character that it stands for. -/
inductive EscapeText : List Char → Char → Prop where
  | simple {c value} (h : simpleEscape? c = some value) : EscapeText [c] value
  | hex {digits value} (hdigits : ∀ d ∈ digits, isHexDigit d = true)
      (h : Text.readNumeral 16 256 digits = .ok value) :
      EscapeText ('x' :: '{' :: (digits ++ ['}'])) (Char.ofNat value)

/-- One character of a literal between such quotes: itself or an escape. -/
inductive CharText (quote : Char) : List Char → Char → Prop where
  | plain {c} (hquote : c ≠ quote) (hslash : c ≠ '\\') : CharText quote [c] c
  | escape {text value} (h : EscapeText text value) : CharText quote ('\\' :: text) value

/-- The text between two quotes, with the characters that it stands for. -/
inductive StringText : List Char → List Char → Prop where
  | nil : StringText [] []
  | cons {item text value values} (hitem : CharText '"' item value)
      (h : StringText text values) : StringText (item ++ text) (value :: values)

theorem closeHexEscape_spec {digits text : List Char} {value : Char}
    (hdigits : ∀ d ∈ digits, isHexDigit d = true)
    (h : (closeHexEscape digits text).outcome = .ok value) :
    EscapeText ('x' :: '{' :: (closeHexEscape digits text).used) value := by
  unfold closeHexEscape at h ⊢
  split at h
  · cases h
  · split at h
    · rename_i hread
      cases h
      exact .hex hdigits hread
    · cases h
  · cases h

theorem readHexEscape_spec {text : List Char} {value : Char}
    (h : (readHexEscape text).outcome = .ok value) :
    EscapeText ('x' :: (readHexEscape text).used) value := by
  unfold readHexEscape at h ⊢
  split at h
  · cases h
  · exact closeHexEscape_spec (fun d hd => List.mem_takeWhile_imp hd) h
  · cases h

theorem readEscape_spec {text : List Char} {value : Char}
    (h : (readEscape text).outcome = .ok value) : EscapeText (readEscape text).used value := by
  unfold readEscape at h ⊢
  split at h
  · cases h
  · exact readHexEscape_spec h
  · split at h
    · rename_i hsimple
      cases h
      exact .simple hsimple
    · cases h

theorem closeCharacter_spec {value : Char} {text : List Char} {v : UInt8}
    (h : (closeCharacter value text).outcome = .ok v) :
    (closeCharacter value text).used = ['\''] ∧ v = UInt8.ofNat value.toNat := by
  unfold closeCharacter at h ⊢
  split at h
  · cases h
  · cases h
    exact ⟨rfl, rfl⟩
  · cases h

/-- A character literal goes up to the quote after its one character. -/
theorem readCharacter_spec {text : List Char} {v : UInt8}
    (h : (readCharacter text).outcome = .ok v) :
    ∃ item value, (readCharacter text).used = item ++ ['\''] ∧ CharText '\'' item value ∧
      v = UInt8.ofNat value.toNat := by
  unfold readCharacter at h ⊢
  split at h
  · cases h
  · cases h
  · rename_i cs
    dsimp only at h ⊢
    split at h
    · cases h
    · rename_i value hvalue
      obtain ⟨hused, rfl⟩ := closeCharacter_spec h
      refine ⟨'\\' :: (readEscape cs).used, value, ?_, .escape (readEscape_spec hvalue), rfl⟩
      exact congrArg (('\\' :: (readEscape cs).used) ++ ·) hused
  · rename_i c cs hquote hslash
    obtain ⟨hused, rfl⟩ := closeCharacter_spec h
    refine ⟨[c], c, congrArg ([c] ++ ·) hused, .plain ?_ ?_, rfl⟩
    · rintro rfl
      exact hquote rfl
    · rintro rfl
      exact hslash rfl

/-- A string literal goes up to the first quote that no backslash escapes. -/
theorem readString_spec {text values : List Char} (h : (readString text).outcome = .ok values) :
    ∃ body, (readString text).used = body ++ ['"'] ∧ StringText body values := by
  fun_induction readString text generalizing values with
  | case1 => cases h
  | case2 cs =>
      cases h
      exact ⟨[], rfl, .nil⟩
  | case3 cs kind hkind => cases h
  | case4 cs value hvalue ih =>
      obtain ⟨values', hrest, rfl⟩ := Reading.of_map_outcome_eq_ok h
      obtain ⟨body, hused, hbody⟩ := ih hrest
      refine ⟨('\\' :: (readEscape cs).used) ++ body, ?_,
        .cons (.escape (readEscape_spec hvalue)) hbody⟩
      rw [List.append_assoc, ← hused]
      rfl
  | case5 c cs hquote hslash ih =>
      obtain ⟨values', hrest, rfl⟩ := Reading.of_map_outcome_eq_ok h
      obtain ⟨body, hused, hbody⟩ := ih hrest
      refine ⟨[c] ++ body, ?_, .cons (.plain ?_ ?_) hbody⟩
      · rw [List.append_assoc, ← hused]
        rfl
      · rintro rfl
        exact hquote rfl
      · rintro rfl
        exact hslash rfl

/-- An escape is read whatever follows it. -/
theorem readEscape_append {text : List Char} {value : Char} (h : EscapeText text value)
    (next : List Char) : readEscape (text ++ next) = .found value text next := by
  cases h with
  | @simple c value hsimple =>
      have hx : c = 'x' → False := by
        rintro rfl
        cases hsimple
      rw [List.singleton_append, readEscape.eq_3 _ _ hx, hsimple]
  | @hex digits value hdigits hvalue =>
      have hbrace : ∀ c ∈ ('}' :: next).head?, isHexDigit c = false := by
        intro c hc
        cases hc
        decide
      simp only [List.cons_append, List.append_assoc, List.nil_append, readEscape, readHexEscape,
        Text.takeWhile_append_of_head hdigits hbrace, Text.dropWhile_append_of_head hdigits hbrace,
        closeHexEscape, hvalue]
      rfl

/-- The quote is looked for right after the one character. -/
theorem readCharacter_charText {item : List Char} {value : Char} (h : CharText '\'' item value)
    (next : List Char) : readCharacter (item ++ next) = (closeCharacter value next).after item := by
  cases h with
  | plain hquote hslash => rw [List.singleton_append, readCharacter.eq_4 _ _ hquote hslash]
  | escape h =>
      rw [List.cons_append, readCharacter, readEscape_append h]
      rfl

theorem readCharacter_append {item : List Char} {value : Char} (h : CharText '\'' item value)
    (next : List Char) :
    readCharacter (item ++ '\'' :: next) =
      .found (UInt8.ofNat value.toNat) (item ++ ['\'']) next := by
  rw [readCharacter_charText h]
  rfl

/-- A string is read character by character. -/
theorem readString_charText {item : List Char} {value : Char} (h : CharText '"' item value)
    (next : List Char) :
    readString (item ++ next) = ((readString next).map (value :: ·)).after item := by
  cases h with
  | plain hquote hslash => rw [List.singleton_append, readString.eq_4 _ _ hquote hslash]
  | escape h =>
      rw [List.cons_append, readString, readEscape_append h]
      rfl

theorem readString_append {body values : List Char} (h : StringText body values)
    (next : List Char) :
    readString (body ++ '"' :: next) = .found values (body ++ ['"']) next := by
  induction h with
  | nil =>
      rw [List.nil_append, readString]
      rfl
  | cons hitem h ih =>
      rw [List.append_assoc, readString_charText hitem, ih]
      simp [Reading.found, Reading.map, Reading.after, Except.map]

end Frontend.Lexer
