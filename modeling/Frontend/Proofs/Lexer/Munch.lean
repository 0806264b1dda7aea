/- The longest token at the start of a text, and what can follow it. -/
import Frontend.Proofs.Lexer.Lexeme

namespace Frontend.Lexer

open Text (isIdentifierChar)

/-- The characters that say at once what token they start. -/
def marks : List Char := ['\n', ';', '\'', '"', '#']

/-- The token is read from this text when `next` follows. Literals and single signs end where they
end; words and runs of operator characters go on as far as they can. -/
inductive TokenText : Token → List Char → List Char → Prop where
  | newline {next} : TokenText (.punctuation .newline) ['\n'] next
  | semicolon {next} : TokenText (.punctuation .semicolon) [';'] next
  | character {body value next} (hbody : CharText '\'' body value) :
      TokenText (.char (UInt8.ofNat value.toNat)) ('\'' :: (body ++ ['\''])) next
  | string {body values next} (hbody : StringText body values) :
      TokenText (.string (String.ofList values)) ('"' :: (body ++ ['"'])) next
  | ellipsis {next} : TokenText (.punctuation .ellipsis) ['.', '.', '.'] next
  | numberSign {word next} (hword : ∀ d ∈ word, isIdentifierChar d = true)
      (hnext : ∀ d ∈ next.head?, isIdentifierChar d = false) :
      TokenText (ofNumberSign word) ('#' :: word) next
  | word {c cs next} (hc : isIdentifierChar c = true) (hword : ∀ d ∈ cs, isIdentifierChar d = true)
      (hnext : ∀ d ∈ next.head?, isIdentifierChar d = false) :
      TokenText (ofIdentifier (c :: cs)) (c :: cs) next
  | operator {c cs next} (hc : isOperatorChar c = true) (hdots : ¬ ['.', '.', '.'] <+: c :: cs)
      (hrun : operatorRun (cs ++ next) = cs) :
      TokenText (.ofSign (String.ofList (c :: cs))) (c :: cs) next
  | sign {c next} (hmark : c ∉ marks) (hword : isIdentifierChar c = false)
      (hoperator : isOperatorChar c = false) (hcontrol : Text.isControl c = false) :
      TokenText (.ofSign (String.ofList [c])) [c] next

theorem operatorRun_append_self (c : Char) (cs : List Char) :
    operatorRun (operatorRun cs ++ (c :: cs).drop (c :: operatorRun cs).length) =
      operatorRun cs := by
  have hsplit := operatorRun_append_drop c cs
  rw [List.cons_append] at hsplit
  rw [List.cons.inj hsplit |>.2]

theorem operatorRun_dots (text : List Char) :
    operatorRun ('.' :: '.' :: text) = '.' :: '.' :: operatorRun text := rfl

/-- Where a run of operator characters starts with three dots, so does the text, and conversely. -/
theorem dots_prefix_iff {c : Char} {cs next : List Char} (hrun : operatorRun (cs ++ next) = cs) :
    ['.', '.', '.'] <+: c :: (cs ++ next) ↔ ['.', '.', '.'] <+: c :: cs := by
  constructor
  · rintro ⟨tail, htext⟩
    obtain ⟨rfl, hrest⟩ := List.cons.inj htext
    rw [← hrest, List.append_eq, List.cons_append, List.cons_append, operatorRun_dots] at hrun
    rw [← hrun]
    exact ⟨_, rfl⟩
  · intro hprefix
    exact hprefix.trans ⟨next, rfl⟩

/-- A token that starts with no mark of its own is told by the kind of its first character. -/
theorem readToken_cons {c : Char} {cs : List Char} (hmark : c ∉ marks)
    (hdots : ¬ ['.', '.', '.'] <+: c :: cs) :
    readToken (c :: cs) =
      if isIdentifierChar c then
        .found (ofIdentifier (c :: cs.takeWhile isIdentifierChar))
          (c :: cs.takeWhile isIdentifierChar) (cs.dropWhile isIdentifierChar)
      else if isOperatorChar c then
        .found (.ofSign (String.ofList (c :: operatorRun cs))) (c :: operatorRun cs)
          ((c :: cs).drop (c :: operatorRun cs).length)
      else if Text.isControl c then .failed (.invalidCharacter c) [c] cs
      else .found (.ofSign (String.ofList [c])) [c] cs := by
  simp only [marks, List.mem_cons, List.not_mem_nil, or_false, not_or] at hmark
  obtain ⟨hline, hsemicolon, hquote, hstring, hsign⟩ := hmark
  refine readToken.eq_8 c cs hline hsemicolon hquote hstring ?_ hsign
  rintro cs' rfl rfl
  exact hdots ⟨cs', rfl⟩

theorem not_mark_of_isIdentifierChar {c : Char} (hc : isIdentifierChar c = true) :
    c ∉ marks := by
  have hmarks : marks.all (!isIdentifierChar ·) = true := by decide
  intro hmem
  simpa [hc] using List.all_eq_true.mp hmarks c hmem

theorem not_mark_of_isOperatorChar {c : Char} (hc : isOperatorChar c = true) :
    c ∉ marks := by
  have hmarks : marks.all (!isOperatorChar ·) = true := by decide
  intro hmem
  simpa [hc] using List.all_eq_true.mp hmarks c hmem

theorem isIdentifierChar_of_isOperatorChar {c : Char} (hc : isOperatorChar c = true) :
    isIdentifierChar c = false := by
  have hall : operatorChars.all (!isIdentifierChar ·) = true := by decide
  simpa using List.all_eq_true.mp hall c (List.contains_iff_mem.mp hc)

/-- A token that is found is the longest one that the text starts with. -/
theorem tokenText_readToken {text : List Char} (hne : text ≠ []) :
    ∀ t, (readToken text).outcome = .ok t →
      TokenText t (readToken text).used (readToken text).rest := by
  fun_cases readToken text with
  | case1 => exact absurd rfl hne
  | case2 cs =>
      intro t ht
      cases ht
      exact .newline
  | case3 cs =>
      intro t ht
      cases ht
      exact .semicolon
  | case4 cs =>
      intro t ht
      obtain ⟨v, hread, rfl⟩ := Reading.of_map_outcome_eq_ok ht
      obtain ⟨body, value, hused, hbody, rfl⟩ := readCharacter_spec hread
      simp only [Reading.after, Reading.map, hused]
      exact .character hbody
  | case5 cs =>
      intro t ht
      obtain ⟨values, hread, rfl⟩ := Reading.of_map_outcome_eq_ok ht
      obtain ⟨body, hused, hbody⟩ := readString_spec hread
      simp only [Reading.after, Reading.map, hused]
      exact .string hbody
  | case6 cs =>
      intro t ht
      cases ht
      exact .ellipsis
  | case7 cs =>
      intro t ht
      cases ht
      exact .numberSign (fun d hd => List.mem_takeWhile_imp hd) (Text.head_dropWhile cs)
  | case8 c cs _ _ _ _ _ _ hc =>
      intro t ht
      cases ht
      exact .word hc (fun d hd => List.mem_takeWhile_imp hd) (Text.head_dropWhile cs)
  | case9 c cs _ _ _ _ hdots _ _ hc run =>
      intro t ht
      cases ht
      refine .operator hc ?_ (operatorRun_append_self c cs)
      intro hprefix
      obtain ⟨tail, htext⟩ := hprefix.trans ((List.prefix_cons_inj c).mpr (operatorRun_isPrefix cs))
      obtain ⟨rfl, hrest⟩ := List.cons.inj htext
      exact hdots tail rfl hrest.symm
  | case10 c cs =>
      intro t ht
      cases ht
  | case11 c cs hline hsemicolon hquote hstring _ hsign hword hoperator hcontrol =>
      intro t ht
      cases ht
      have hmark : c ∉ marks := by
        simp only [marks, List.mem_cons, List.not_mem_nil, or_false, not_or]
        exact ⟨hline, hsemicolon, hquote, hstring, hsign⟩
      exact .sign hmark (Bool.eq_false_iff.mpr hword) (Bool.eq_false_iff.mpr hoperator)
        (Bool.eq_false_iff.mpr hcontrol)

/-- The text of a token, before what can follow it, is read as this token. -/
theorem readToken_append {t : Token} {text next : List Char} (h : TokenText t text next) :
    readToken (text ++ next) = .found t text next := by
  cases h with
  | newline => rfl
  | semicolon => rfl
  | @character body value next hbody =>
      simp only [List.cons_append, List.append_assoc, List.nil_append, readToken,
        readCharacter_append hbody]
      rfl
  | @string body values next hbody =>
      simp only [List.cons_append, List.append_assoc, List.nil_append, readToken,
        readString_append hbody]
      rfl
  | ellipsis => rfl
  | @numberSign word next hword hnext =>
      simp only [List.cons_append, readToken, Text.takeWhile_append_of_head hword hnext,
        Text.dropWhile_append_of_head hword hnext]
  | @word c cs next hc hword hnext =>
      have hdots : ¬ ['.', '.', '.'] <+: c :: (cs ++ next) := by
        rintro ⟨tail, htext⟩
        obtain ⟨rfl, _⟩ := List.cons.inj htext
        exact absurd hc (by decide)
      rw [List.cons_append, readToken_cons (not_mark_of_isIdentifierChar hc) hdots, if_pos hc,
        Text.takeWhile_append_of_head hword hnext, Text.dropWhile_append_of_head hword hnext]
  | @operator c cs next hc hdots hrun =>
      have hword := Bool.eq_false_iff.mp (isIdentifierChar_of_isOperatorChar hc)
      rw [List.cons_append, readToken_cons (not_mark_of_isOperatorChar hc)
        (mt (dots_prefix_iff hrun).mp hdots), if_neg hword, if_pos hc, hrun, ← List.cons_append,
        List.drop_left]
  | @sign c next hmark hword hoperator hcontrol =>
      have hdots : ¬ ['.', '.', '.'] <+: c :: next := by
        rintro ⟨tail, htext⟩
        obtain ⟨rfl, _⟩ := List.cons.inj htext
        exact absurd hoperator (by decide)
      rw [List.singleton_append, readToken_cons hmark hdots,
        if_neg (Bool.eq_false_iff.mp hword), if_neg (Bool.eq_false_iff.mp hoperator),
        if_neg (Bool.eq_false_iff.mp hcontrol)]

end Frontend.Lexer
