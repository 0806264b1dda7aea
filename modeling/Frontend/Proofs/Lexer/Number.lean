/- Which words are numbers, and of what value. -/
import Frontend.Proofs.Lexer.Munch
import Frontend.Proofs.Lexer.Step
import Frontend.Proofs.Text.Numeral

namespace Frontend.Lexer

open Text (isIdentifierChar Denotes)

/-- The marks that numbers start with when their radix is not ten. -/
def radixMarks : List (List Char × Nat) := [(['0', 'x'], 16), (['0', 'b'], 2), (['0', 'o'], 8)]

/-- The word, of three characters or more, has the mark of a radix before these digits. -/
def Marked (word : List Char) (radix : Nat) (digits : List Char) : Prop :=
  3 ≤ word.length ∧ ∃ mark, (mark, radix) ∈ radixMarks ∧ word = mark ++ digits

def withoutUnderscores (digits : List Char) : List Char := digits.filter (· ≠ '_')

/-- The word is a number. With the mark of a radix it is one in that radix only, and without such a
mark it is one in radix ten. -/
inductive NumberWord (word : List Char) (n : Nat) : Prop where
  | marked {radix digits} (h : Marked word radix digits)
      (hn : Denotes radix (withoutUnderscores digits) n)
  | plain (h : ∀ radix digits, ¬ Marked word radix digits)
      (hn : Denotes 10 (withoutUnderscores word) n)

section
variable {word digits : List Char} {radix n : Nat} {v : UInt64}

theorem Marked.numberParts (h : Marked word radix digits) :
    numberParts word = (radix, digits) := by
  obtain ⟨hlength, mark, hmark, rfl⟩ := h
  simp only [radixMarks, List.mem_cons, Prod.mk.injEq, List.not_mem_nil, or_false] at hmark
  cases digits with
  | nil =>
      rcases hmark with ⟨rfl, _⟩ | ⟨rfl, _⟩ | ⟨rfl, _⟩ <;> exact absurd hlength (by decide)
  | cons c cs =>
      rcases hmark with ⟨rfl, rfl⟩ | ⟨rfl, rfl⟩ | ⟨rfl, rfl⟩ <;> rfl

theorem numberParts_of_not_marked (h : ∀ radix digits, ¬ Marked word radix digits) :
    numberParts word = (10, word) := by
  unfold numberParts
  split
  · exact absurd ⟨by simp, ['0', 'x'], by decide, rfl⟩ (h 16 _)
  · exact absurd ⟨by simp, ['0', 'b'], by decide, rfl⟩ (h 2 _)
  · exact absurd ⟨by simp, ['0', 'o'], by decide, rfl⟩ (h 8 _)
  · rfl

theorem numberWord_iff :
    NumberWord word n ↔
      Denotes (numberParts word).1 (withoutUnderscores (numberParts word).2) n := by
  by_cases hmarked : ∃ radix digits, Marked word radix digits
  · obtain ⟨radix, digits, h⟩ := hmarked
    rw [h.numberParts]
    constructor
    · rintro (⟨h', hn⟩ | ⟨hplain, _⟩)
      · obtain ⟨rfl, rfl⟩ := Prod.mk.inj (h.numberParts.symm.trans h'.numberParts)
        exact hn
      · exact absurd h (hplain radix digits)
    · exact .marked h
  · have hplain : ∀ radix digits, ¬ Marked word radix digits :=
      fun radix digits h => hmarked ⟨radix, digits, h⟩
    rw [numberParts_of_not_marked hplain]
    constructor
    · rintro (⟨h, _⟩ | ⟨_, hn⟩)
      · exact absurd h (hplain _ _)
      · exact hn
    · exact .plain hplain

theorem radix_numberParts_le (word : List Char) : (numberParts word).1 ≤ 16 := by
  unfold numberParts
  split <;> simp

/-- A word is read as a number of this value just if it is one. -/
theorem numberValue?_eq_some_iff : numberValue? word = some v ↔ NumberWord word v.toNat := by
  have hread : ∀ n, Text.readNumeral (numberParts word).1 UInt64.size
      ((numberParts word).2.filter (· ≠ '_')) = .ok n ↔ NumberWord word n ∧ n < UInt64.size := by
    intro n
    rw [numberWord_iff]
    exact Text.readNumeral_eq_ok_iff (radix_numberParts_le word) (by decide)
  unfold numberValue?
  dsimp only
  cases houtcome : Text.readNumeral (numberParts word).1 UInt64.size
      ((numberParts word).2.filter (· ≠ '_')) with
  | error e =>
      refine iff_of_false nofun ?_
      intro hword
      cases houtcome.symm.trans ((hread v.toNat).mpr ⟨hword, v.toNat_lt⟩)
  | ok value =>
      obtain ⟨hword, hlt⟩ := (hread value).mp houtcome
      rw [Option.some.injEq]
      constructor
      · rintro rfl
        rwa [UInt64.toNat_ofNat_of_lt' hlt]
      · intro h
        have hvalue := (hread v.toNat).mpr ⟨h, v.toNat_lt⟩
        rw [Except.ok.inj (houtcome.symm.trans hvalue), UInt64.ofNat_toNat]

theorem numberValue?_eq_none_iff :
    numberValue? word = none ↔ ∀ n, NumberWord word n → UInt64.size ≤ n := by
  rw [Option.eq_none_iff_forall_ne_some]
  constructor
  · intro h n hn
    refine Nat.le_of_not_lt fun hlt => h (UInt64.ofNat n) ?_
    rwa [numberValue?_eq_some_iff, UInt64.toNat_ofNat_of_lt' hlt]
  · intro h v hv
    exact Nat.not_le_of_lt v.toNat_lt (h v.toNat (numberValue?_eq_some_iff.mp hv))

end

section
variable {l : Lexer} {word next : List Char}

theorem readToken_of_word (hne : word ≠ []) (hword : ∀ c ∈ word, isIdentifierChar c = true)
    (hnext : ∀ c ∈ next.head?, isIdentifierChar c = false) :
    readToken (word ++ next) = .found (ofIdentifier word) word next := by
  cases word with
  | nil => exact absurd rfl hne
  | cons c cs =>
      obtain ⟨hc, hcs⟩ := List.forall_mem_cons.mp hword
      exact readToken_append (.word hc hcs hnext)

theorem ofWord_ne_number (s raw : String) (v : UInt64) : Token.ofWord s ≠ .number raw v := by
  unfold Token.ofWord
  split <;> exact nofun

theorem ofIdentifier_eq_number_iff {raw : String} {v : UInt64} :
    ofIdentifier word = .number raw v ↔ raw = String.ofList word ∧ NumberWord word v.toNat := by
  rw [← numberValue?_eq_some_iff]
  unfold ofIdentifier
  cases numberValue? word with
  | none => exact iff_of_false (ofWord_ne_number _ _ _) nofun
  | some value =>
      rw [Token.number.injEq, Option.some.injEq, eq_comm (a := raw)]

theorem isSeparator_ofIdentifier (word : List Char) : (ofIdentifier word).isSeparator = false := by
  unfold ofIdentifier
  split
  · rfl
  · unfold Token.ofWord
    split <;> rfl

/-- A run of identifier characters that does not go on is a number just if it is spelled as one of
64 bits, and its value is what it denotes. Every other run is a word. -/
theorem next_of_identifierRun (hrest : l.atToken.rest = word ++ next) (hne : word ≠ [])
    (hword : ∀ c ∈ word, isIdentifierChar c = true)
    (hnext : ∀ c ∈ next.head?, isIdentifierChar c = false) :
    l.next.next = l.atToken.moveOver word next ∧
      (∀ raw v, l.next.found = .ok (.number raw v) ↔
        raw = String.ofList word ∧ NumberWord word v.toNat) ∧
      ((∀ n, NumberWord word n → 2 ^ 64 ≤ n) →
        l.next.found = .ok (.ofWord (String.ofList word))) := by
  obtain ⟨c, cs, rfl⟩ := List.exists_cons_of_ne_nil hne
  have hslash : c ≠ '/' := by
    rintro rfl
    exact absurd (hword '/' List.mem_cons_self) (by decide)
  have hread := readToken_of_word hne hword hnext
  have hfound : l.next.found = .ok (ofIdentifier (c :: cs)) :=
    (found_of_head hrest hslash).trans (congrArg Reading.outcome hread)
  refine ⟨next_next_of_head hrest hslash hread (isSeparator_ofIdentifier _), ?_, ?_⟩
  · intro raw v
    rw [hfound, Except.ok.injEq, ofIdentifier_eq_number_iff]
  · intro h
    rw [hfound, ofIdentifier, numberValue?_eq_none_iff.mpr h]

end

/-- With a mark and underscores, the run denotes the largest number of 64 bits. -/
theorem next_of_identifierRun_marked :
    let word := "0xffff_ffff_FFFF_FFFF".toList
    let l := ofChars (word ++ ['+', '1'])
    l.atToken.rest = word ++ ['+', '1'] ∧ l.next.next.rest = ['+', '1'] ∧
      l.next.found = .ok (.number "0xffff_ffff_FFFF_FFFF" 18446744073709551615) := by
  intro word l
  have hrest : l.atToken.rest = word ++ ['+', '1'] := by decide +kernel
  have hword : word.all isIdentifierChar = true := by decide +kernel
  have hnext : ∀ c ∈ ['+', '1'].head?, isIdentifierChar c = false := by
    rintro c ⟨⟩
    decide
  obtain ⟨hbehind, hnumber, _⟩ :=
    next_of_identifierRun hrest (by decide) (List.all_eq_true.mp hword) hnext
  refine ⟨hrest, congrArg Lexer.rest hbehind, (hnumber _ _).mpr ⟨rfl, ?_⟩⟩
  have hmarked : Marked word 16 "ffff_ffff_FFFF_FFFF".toList :=
    ⟨by decide, ['0', 'x'], by decide, rfl⟩
  have hread : Text.readNumeral 16 UInt64.size (withoutUnderscores "ffff_ffff_FFFF_FFFF".toList) =
      .ok 18446744073709551615 := by decide +kernel
  exact .marked hmarked ((Text.readNumeral_eq_ok_iff (Nat.le_refl 16) (by decide)).mp hread).1

end Frontend.Lexer
