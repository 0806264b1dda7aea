/- Tokens are read again from their texts with blanks between them. -/
import Frontend.Proofs.Lexer.Locality
import Frontend.Proofs.Lexer.Separators

namespace Frontend.Lexer

/-- The characters that the tokens of a run are read from, token by token. -/
def texts (l : Lexer) : List (List Char) :=
  match _h : l.next.token? with
  | none => []
  | some _ => (readGap l.rest).token.used :: l.next.next.texts
termination_by l.rest.length
decreasing_by
  obtain ⟨hok, hend⟩ := Step.token?_eq_some_iff.mp _h
  exact next_rest_length_lt (by simp only [Step.isEnd, hok, hend])

/-- Texts in a row with a blank between each two of them. -/
def spaced (texts : List (List Char)) : List Char := [' '].intercalate texts

section
variable {r : Registry} {id : FileId} {stop p : Nat} {l l' : Lexer}

theorem texts_of_none (h : l.next.token? = none) : l.texts = [] := by
  rw [texts]
  split
  · rfl
  · rename_i hsome
    cases h.symm.trans hsome

theorem texts_of_some {t : Spanned Token} (h : l.next.token? = some t) :
    l.texts = (readGap l.rest).token.used :: l.next.next.texts := by
  rw [texts]
  split
  · rename_i hnone
    cases h.symm.trans hnone
  · rfl

theorem texts_of_lexeme {gap text next : List Char} {t : Token}
    (hl : l.rest = gap ++ (text ++ next)) (hgap : Trivia gap (text ++ next))
    (h : Lexeme t text next) : l.texts = text :: l.next.next.texts := by
  rw [texts_of_some (next_of_lexeme hl hgap h).1, hl, (token_of_lexeme hgap h).2]
  rfl

/-- In a file, each text is what stands in the span of its token. -/
theorem slice?_eq_texts (l : Lexer) (h : StandsAt r id stop p l) :
    l.placedTokens.map (fun t => r.slice? t.span) = l.texts.map some := by
  induction l using run_induction generalizing p with
  | step l ih =>
      cases htoken : l.next.token? with
      | none =>
          rw [texts_of_none htoken, placedTokens_of_none htoken]
          rfl
      | some t =>
          obtain ⟨q, hq⟩ := h.next
          have hslice := h.atToken.slice
          rw [show l.atToken.rest = _ from (token_append l.rest).symm] at hslice
          rw [texts_of_some htoken, placedTokens_of_some htoken, List.map_cons, List.map_cons,
            ih t htoken hq, h.span_of_token htoken, Registry.slice?_append_left hslice]

theorem spaced_cons (text : List Char) (texts : List (List Char)) :
    spaced (text :: texts) = text ++ if texts = [] then [] else ' ' :: spaced texts := by
  cases texts with
  | nil => simp [spaced]
  | cons u us => simp [spaced, List.intercalate_cons_cons]

/-- A token that is no separator does not start like the trail of one. -/
theorem Lexeme.head_of_not_isSeparator {t : Token} {text next : List Char}
    (h : Lexeme t text next) (ht : t.isSeparator = false) :
    ∀ c ∈ (text ++ next).head?, isSeparatorTrail c = false := by
  intro c hc
  have hhead : c ∈ text.head? := by
    cases text with
    | nil => exact absurd rfl h.tokenText.ne_nil
    | cons d ds => exact hc
  have hplain : ¬ ('\n' ∈ text.head? ∨ ';' ∈ text.head?) := by
    intro hmark
    cases ht.symm.trans (h.tokenText.isSeparator_of_head hmark)
  have hblank := h.settled.blank c hc
  have hline : c ≠ '\n' := by
    rintro rfl
    exact hplain (.inl hhead)
  have hsemicolon : c ≠ ';' := by
    rintro rfl
    exact hplain (.inr hhead)
  simpa [isSeparatorTrail, isBlank, hline, hsemicolon] using hblank

/-- The texts of a run that starts with no separator do not start like the trail of one. -/
theorem head_spaced_texts (h : ∀ t ∈ l.tokens.head?, t.isSeparator = false) :
    ∀ c ∈ (spaced l.texts).head?, isSeparatorTrail c = false := by
  cases htoken : l.next.token? with
  | none =>
      rw [texts_of_none htoken]
      exact nofun
  | some t =>
      rw [head?_tokens, htoken] at h
      obtain ⟨gap, text, next, hl, hgap, hlexeme⟩ := exists_lexeme htoken
      rw [texts_of_lexeme hl hgap hlexeme, spaced_cons]
      refine (hlexeme.of_breaksAlike (.inl ?_)).head_of_not_isSeparator (h _ rfl)
      split
      · exact nofun
      · rintro c ⟨⟩
        rfl

/-- After the first token and its trail, the other spaced texts are left, perhaps after a blank. -/
theorem afterTrail_spaced {t : Token}
    (h : t.isSeparator = true → ∀ u ∈ l.tokens.head?, u.isSeparator = false) :
    ∃ gap, afterTrail t (if l.texts = [] then [] else ' ' :: spaced l.texts) =
      gap ++ spaced l.texts ∧ ∀ rest, Trivia gap rest := by
  by_cases hnil : l.texts = []
  · refine ⟨[], ?_, fun _ => .nil⟩
    rw [if_pos hnil, hnil, afterTrail, List.dropWhile_nil, ite_self]
    rfl
  · rw [if_neg hnil]
    by_cases ht : t.isSeparator = true
    · refine ⟨[], ?_, fun _ => .nil⟩
      rw [afterTrail, if_pos ht, List.dropWhile_cons_of_pos (by decide),
        Text.dropWhile_eq_self_of_head (head_spaced_texts (h ht)), List.nil_append]
    · refine ⟨[' '], ?_, fun _ => .blank (by decide) (by decide) .nil⟩
      rw [afterTrail, if_neg ht]
      rfl

/-- A lexer over the spaced texts of another one keeps up with it. Both belong to no file. -/
theorem run_eq_of_spaced {gap : List Char} (l l' : Lexer) (hl : l.position = .nowhere)
    (hl' : l'.position = .nowhere) (hok : ∀ s ∈ l.run, s.error? = none)
    (hcollapsed : Collapsed l.tokens) (hrest : l'.rest = gap ++ spaced l.texts)
    (hgap : ∀ rest, Trivia gap rest) : l'.run.map (·.outcome) = l.run.map (·.outcome) := by
  induction l using run_induction generalizing l' gap with
  | step l ih =>
      cases htoken : l.next.token? with
      | none =>
          have htrivia := trivia_of_none htoken (hok _ (by simp [run_of_none htoken]))
          have htrivia' : Trivia l'.rest [] := by
            rw [hrest, texts_of_none htoken, spaced, List.intercalate_nil, List.append_nil]
            exact hgap []
          rw [run_at_end htrivia, run_at_end htrivia', hl, hl']
          rfl
      | some t =>
          obtain ⟨_, text, next, hrestl, hgapl, hlexeme⟩ := exists_lexeme htoken
          obtain ⟨hnext, _, hposition⟩ := next_of_lexeme hrestl hgapl hlexeme
          rw [texts_of_lexeme hrestl hgapl hlexeme, spaced_cons] at hrest
          have hlexeme' : Lexeme t.value text
              (if l.next.next.texts = [] then [] else ' ' :: spaced l.next.next.texts) := by
            refine hlexeme.of_breaksAlike (.inl ?_)
            split
            · exact nofun
            · rintro c ⟨⟩
              rfl
          obtain ⟨hnext', hleft, hposition'⟩ := next_of_lexeme hrest (hgap _) hlexeme'
          rw [tokens_of_some htoken, Collapsed, List.isChain_cons] at hcollapsed
          rw [run_of_token htoken, List.forall_mem_cons] at hok
          have happart : t.value.isSeparator = true →
              ∀ u ∈ l.next.next.tokens.head?, u.isSeparator = false := by
            intro ht u hu
            exact Bool.eq_false_iff.mpr fun hsecond => hcollapsed.1 u hu ⟨ht, hsecond⟩
          obtain ⟨gap', hafter, hgap'⟩ := afterTrail_spaced happart
          have hlater := ih t htoken l'.next.next (by rw [hposition, hl]; rfl)
            (by rw [hposition', hl']; rfl) hok.2 hcollapsed.2 (hleft.trans hafter) hgap'
          have hsame : l'.next.outcome = l.next.outcome := by
            rw [(Step.token?_eq_some_iff.mp hnext).1, (Step.token?_eq_some_iff.mp hnext').1, hl,
              hl']
            rfl
          rw [run_of_token htoken, run_of_token hnext', List.map_cons, List.map_cons, hsame, hlater]

/-- The texts of the tokens, set apart by blanks, are read as the same tokens, when the tokens were
read without an error and no separator came right after another one. -/
theorem run_spaced_texts {chars : List Char} (hok : ∀ s ∈ (ofChars chars).run, s.error? = none)
    (hcollapsed : Collapsed (ofChars chars).tokens) :
    (ofChars (spaced (ofChars chars).texts)).run.map (·.outcome) =
      (ofChars chars).run.map (·.outcome) :=
  run_eq_of_spaced _ _ rfl rfl hok hcollapsed rfl fun _ => .nil

end

/-- Dots, an operator before a comment, a separator with a trail, and a sign before a word. -/
theorem run_spaced_texts_dots :
    (ofChars "... .+ \n #1".toList).run.map (·.outcome) =
      (ofChars "....+//c\n ;#1".toList).run.map (·.outcome) := by
  have htexts : spaced (ofChars "....+//c\n ;#1".toList).texts = "... .+ \n #1".toList := by
    decide +kernel
  rw [← htexts]
  exact run_spaced_texts (by decide +kernel) (by decide +kernel)

end Frontend.Lexer
