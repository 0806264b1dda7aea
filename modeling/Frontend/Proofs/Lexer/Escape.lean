/- What stands after a backslash: an escape, the beginning of one, or a fault. -/
import Frontend.Proofs.Lexer.Literal
import Frontend.Proofs.Text.Numeral

namespace Frontend.Lexer

open Text (IsDigit Denotes)

/-- The signs that a backslash can stand before, with what they stand for after it. -/
def escapedSigns : List (Char × Char) :=
  [('n', '\n'), ('t', '\t'), ('r', '\r'), ('"', '"'), ('\'', '\''), ('\\', '\\')]

/-- An escape after its backslash, and the character that it stands for. -/
inductive Escape : List Char → Char → Prop where
  | sign {c value} (h : (c, value) ∈ escapedSigns) : Escape [c] value
  | code {digits n} (hdigits : Denotes 16 digits n) (hn : n < 256) :
      Escape ('x' :: '{' :: (digits ++ ['}'])) (Char.ofNat n)

/-- The beginning of an escape after its backslash. Nothing in it is wrong yet. -/
inductive BegunEscape : List Char → Prop where
  | slash : BegunEscape []
  | letter : BegunEscape ['x']
  | digits {digits} (hdigits : ∀ c ∈ digits, ∃ d, IsDigit 16 c d) :
      BegunEscape ('x' :: '{' :: digits)

/-- What follows a backslash is no escape, and its last character is the first one to show that. -/
inductive MalformedEscape : List Char → Prop where
  | sign {c} (hx : c ≠ 'x') (h : ∀ value, (c, value) ∉ escapedSigns) : MalformedEscape [c]
  | brace {c} (h : c ≠ '{') : MalformedEscape ['x', c]
  | digit {digits c} (hdigits : ∀ c ∈ digits, ∃ d, IsDigit 16 c d) (hc : ∀ d, ¬ IsDigit 16 c d)
      (hclose : c ≠ '}') : MalformedEscape ('x' :: '{' :: (digits ++ [c]))
  | value {digits} (hdigits : ∀ c ∈ digits, ∃ d, IsDigit 16 c d)
      (h : ∀ n, Denotes 16 digits n → 256 ≤ n) :
      MalformedEscape ('x' :: '{' :: (digits ++ ['}']))

section
variable {c : Char} {text bad digits : List Char} {value : Char}

theorem simpleEscape?_eq_some_iff :
    simpleEscape? c = some value ↔ (c, value) ∈ escapedSigns := by
  constructor
  · intro h
    unfold simpleEscape? at h
    split at h <;> cases h <;> decide
  · intro h
    simp only [escapedSigns, List.mem_cons, Prod.mk.injEq, List.not_mem_nil, or_false] at h
    rcases h with ⟨rfl, rfl⟩ | ⟨rfl, rfl⟩ | ⟨rfl, rfl⟩ | ⟨rfl, rfl⟩ | ⟨rfl, rfl⟩ | ⟨rfl, rfl⟩
    all_goals rfl

theorem isHexDigit_iff : isHexDigit c = true ↔ ∃ d, IsDigit 16 c d := by
  simp only [isHexDigit, Option.isSome_iff_exists, Text.digitValue?_eq_some_iff (Nat.le_refl 16)]

theorem readNumeral_iff {n : Nat} :
    Text.readNumeral 16 256 digits = .ok n ↔ Denotes 16 digits n ∧ n < 256 :=
  Text.readNumeral_eq_ok_iff (Nat.le_refl 16) (by decide)

theorem areHexDigits (h : ∀ c ∈ digits, ∃ d, IsDigit 16 c d) :
    ∀ c ∈ digits, isHexDigit c = true :=
  fun c hc => isHexDigit_iff.mpr (h c hc)

theorem Escape.escapeText (h : Escape text value) : EscapeText text value := by
  cases h with
  | sign h => exact .simple (simpleEscape?_eq_some_iff.mpr h)
  | code hdigits hn =>
      exact .hex (areHexDigits hdigits.isDigit) (readNumeral_iff.mpr ⟨hdigits, hn⟩)

/-- In braces, the digits up to the first other character are looked at. -/
theorem readEscape_braces (hdigits : ∀ c ∈ digits, ∃ d, IsDigit 16 c d)
    (next : List Char) (hnext : ∀ c ∈ next.head?, ∀ d, ¬ IsDigit 16 c d) :
    readEscape ('x' :: '{' :: (digits ++ next)) =
      (closeHexEscape digits next).after ['x', '{'] := by
  have hstop : ∀ c ∈ next.head?, isHexDigit c = false := by
    intro c hc
    rw [Bool.eq_false_iff, Ne, isHexDigit_iff]
    rintro ⟨d, hd⟩
    exact hnext c hc d hd
  rw [readEscape, readHexEscape, Text.takeWhile_append_of_head (areHexDigits hdigits) hstop,
    Text.dropWhile_append_of_head (areHexDigits hdigits) hstop]
  rfl

theorem readEscape_of_begun (h : BegunEscape text) :
    readEscape text = .failed .unexpectedEndOfFile text [] := by
  cases h with
  | slash => rfl
  | letter => rfl
  | @digits digits hdigits =>
      have hread := readEscape_braces hdigits [] nofun
      rw [List.append_nil] at hread
      exact hread

theorem not_isDigit_brace (d : Nat) : ¬ IsDigit 16 '}' d := by
  intro h
  exact absurd (isHexDigit_iff.mpr ⟨d, h⟩) (by decide)

/-- An escape that is malformed is reported by its first character, wherever the fault lies. -/
theorem readEscape_of_malformed (h : MalformedEscape (c :: bad)) (next : List Char) :
    readEscape (c :: bad ++ next) = .failed (.invalidEscape c) (c :: bad) next := by
  cases h with
  | sign hx h =>
      have hnone : simpleEscape? c = none := by
        rw [Option.eq_none_iff_forall_ne_some]
        exact fun value hvalue => h value (simpleEscape?_eq_some_iff.mp hvalue)
      rw [List.singleton_append, readEscape.eq_3 _ _ hx, hnone]
  | brace h =>
      rw [List.cons_append, List.singleton_append, readEscape, readHexEscape.eq_3 _ _ h]
      rfl
  | @digit digits d hdigits hd hclose =>
      have hread := readEscape_braces hdigits (d :: next) (by simpa using hd)
      rw [closeHexEscape.eq_3 _ _ _ hclose] at hread
      simp only [List.cons_append, List.append_assoc, List.nil_append, hread]
      rfl
  | @value digits hdigits h =>
      have hread := readEscape_braces hdigits ('}' :: next) (by simpa using not_isDigit_brace)
      rw [closeHexEscape] at hread
      cases hvalue : Text.readNumeral 16 256 digits with
      | ok n =>
          obtain ⟨hn, hlt⟩ := readNumeral_iff.mp hvalue
          exact absurd (h n hn) (Nat.not_le_of_lt hlt)
      | error e =>
          rw [hvalue] at hread
          simp only [List.cons_append, List.append_assoc, List.nil_append, hread]
          rfl

/-- What stands after a backslash: an escape, the beginning of one, or a fault. -/
def EscapeCases (text : List Char) : Prop :=
  (∃ used value rest, text = used ++ rest ∧ Escape used value) ∨ BegunEscape text ∨
    ∃ c bad rest, text = c :: bad ++ rest ∧ MalformedEscape (c :: bad)

theorem escapeCases_braces (text : List Char) : EscapeCases ('x' :: '{' :: text) := by
  have hsplit : text.takeWhile isHexDigit ++ text.dropWhile isHexDigit = text :=
    List.takeWhile_append_dropWhile
  have hdigits : ∀ c ∈ text.takeWhile isHexDigit, ∃ d, IsDigit 16 c d :=
    fun c hc => isHexDigit_iff.mp (List.mem_takeWhile_imp hc)
  have hhead := Text.head_dropWhile (p := isHexDigit) text
  rw [← hsplit]
  generalize text.takeWhile isHexDigit = digits at hdigits
  cases hrest : text.dropWhile isHexDigit with
  | nil =>
      rw [List.append_nil]
      exact .inr (.inl (.digits hdigits))
  | cons c rest =>
      by_cases hclose : c = '}'
      · subst hclose
        have htext : 'x' :: '{' :: (digits ++ '}' :: rest) =
            'x' :: '{' :: (digits ++ ['}']) ++ rest := by simp
        by_cases hvalue : ∃ n, Denotes 16 digits n ∧ n < 256
        · obtain ⟨n, hn, hlt⟩ := hvalue
          exact .inl ⟨_, _, rest, htext, .code hn hlt⟩
        · refine .inr (.inr ⟨_, _, rest, htext, .value hdigits ?_⟩)
          intro n hn
          exact Nat.le_of_not_lt fun hlt => hvalue ⟨n, hn, hlt⟩
      · have hdigit : ∀ d, ¬ IsDigit 16 c d := by
          intro d hd
          have hhex := isHexDigit_iff.mpr ⟨d, hd⟩
          rw [hrest] at hhead
          cases hhex.symm.trans (hhead c rfl)
        refine .inr (.inr ⟨_, _, rest, ?_, .digit hdigits hdigit hclose⟩)
        simp

theorem escapeCases (text : List Char) : EscapeCases text := by
  cases text with
  | nil => exact .inr (.inl .slash)
  | cons c cs =>
      by_cases hx : c = 'x'
      · subst hx
        cases cs with
        | nil => exact .inr (.inl .letter)
        | cons d ds =>
            by_cases hbrace : d = '{'
            · subst hbrace
              exact escapeCases_braces ds
            · exact .inr (.inr ⟨'x', [d], ds, rfl, .brace hbrace⟩)
      · by_cases hsign : ∃ value, (c, value) ∈ escapedSigns
        · obtain ⟨value, hvalue⟩ := hsign
          exact .inl ⟨[c], value, cs, rfl, .sign hvalue⟩
        · exact .inr (.inr ⟨c, [], cs, rfl, .sign hx (not_exists.mp hsign)⟩)

end

end Frontend.Lexer
