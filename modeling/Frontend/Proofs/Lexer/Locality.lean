/- A token stays the same when what follows it is cut off, set off by a blank, or cut later on. -/
import Frontend.Proofs.Lexer.Munch
import Frontend.Proofs.Lexer.Step
import Frontend.Proofs.Lexer.Trivia

namespace Frontend.Lexer

open Text (isIdentifierChar)

/-- A token that ends before the one text ends before the other: nothing is there or a blank stands
first, or it starts with the same character, and with a comment if the first text does. -/
def BreaksAlike (next next' : List Char) : Prop :=
  (∀ c ∈ next'.head?, c = ' ') ∨
    (next'.head? = next.head? ∧ startsComment next' = startsComment next)

section
variable {text gap next next' : List Char} {t : Token} {l : Lexer}

theorem startsComment_cons (c : Char) (cs : List Char) :
    startsComment (c :: cs) = (c == '/' && (cs.head? == some '/' || cs.head? == some '*')) := by
  by_cases hc : c = '/'
  · subst hc
    cases cs with
    | nil => rfl
    | cons d ds =>
        by_cases hline : d = '/'
        · subst hline
          rfl
        by_cases hblock : d = '*'
        · subst hblock
          rfl
        rw [startsComment.eq_3]
        · simp [hline, hblock]
        · rintro tail htext
          exact hline (List.cons.inj (List.cons.inj htext).2).1
        · rintro tail htext
          exact hblock (List.cons.inj (List.cons.inj htext).2).1
  · rw [startsComment.eq_3]
    · simp [hc]
    · rintro tail htext
      exact hc (List.cons.inj htext).1
    · rintro tail htext
      exact hc (List.cons.inj htext).1

theorem readComment_eq_absent_iff : readComment text = .absent ↔ startsComment text = false := by
  unfold readComment
  split
  · simp [startsComment]
  · split <;> simp [startsComment]
  · rename_i hline hblock
    simp [startsComment.eq_3 _ hline hblock]

theorem operatorRun_eq_nil_iff :
    operatorRun text = [] ↔
      (∀ c ∈ text.head?, isOperatorChar c = false) ∨ startsComment text = true := by
  cases text with
  | nil => simp [operatorRun]
  | cons c cs =>
      rw [operatorRun]
      cases hc : isOperatorChar c <;> cases startsComment (c :: cs) <;> simp [hc]

theorem BreaksAlike.head {p : Char → Bool} (h : BreaksAlike next next') (hblank : p ' ' = false)
    (hnext : ∀ c ∈ next.head?, p c = false) : ∀ c ∈ next'.head?, p c = false := by
  intro c hc
  rcases h with hcut | ⟨hhead, _⟩
  · rw [hcut c hc]
    exact hblank
  · exact hnext c (hhead ▸ hc)

theorem BreaksAlike.startsComment_cons {c : Char} (h : BreaksAlike next next')
    (hc : startsComment (c :: next) = false) : startsComment (c :: next') = false := by
  rw [Lexer.startsComment_cons] at hc ⊢
  rcases h with hcut | ⟨hhead, _⟩
  · cases hnext : next'.head? with
    | none => simp
    | some d => simp [hcut d hnext]
  · rw [hhead]
    exact hc

theorem BreaksAlike.startsComment_append (h : BreaksAlike next next') (hne : text ≠ [])
    (hc : startsComment (text ++ next) = false) : startsComment (text ++ next') = false := by
  match text with
  | [] => exact absurd rfl hne
  | [c] => exact h.startsComment_cons hc
  | c :: d :: ds =>
      rw [List.cons_append, Lexer.startsComment_cons] at hc ⊢
      exact hc

theorem BreaksAlike.operatorRun_eq_nil (h : BreaksAlike next next')
    (hnext : operatorRun next = []) : operatorRun next' = [] := by
  rw [operatorRun_eq_nil_iff] at hnext ⊢
  rcases hnext with hhead | hcomment
  · exact .inl (h.head (by decide) hhead)
  · rcases h with hcut | ⟨_, hsame⟩
    · refine .inl ?_
      intro c hc
      rw [hcut c hc]
      decide
    · exact .inr (hsame.trans hcomment)

/-- A run of operator characters ends at the same place. -/
theorem BreaksAlike.operatorRun_append (h : BreaksAlike next next') {run : List Char}
    (hrun : operatorRun (run ++ next) = run) : operatorRun (run ++ next') = run := by
  induction run with
  | nil => exact h.operatorRun_eq_nil hrun
  | cons c cs ih =>
      rw [List.cons_append, operatorRun] at hrun ⊢
      split at hrun
      · rename_i hgoes
        rw [Bool.and_eq_true, Bool.not_eq_true'] at hgoes
        have hcomment : startsComment (c :: cs ++ next') = false :=
          h.startsComment_append (List.cons_ne_nil c cs) hgoes.2
        rw [hgoes.1, ← List.cons_append, hcomment, ih (List.cons.inj hrun).2]
        rfl
      · cases hrun

theorem TokenText.of_breaksAlike (h : TokenText t text next) (hbreaks : BreaksAlike next next') :
    TokenText t text next' := by
  cases h with
  | newline => exact .newline
  | semicolon => exact .semicolon
  | character hbody => exact .character hbody
  | string hbody => exact .string hbody
  | ellipsis => exact .ellipsis
  | numberSign hword hnext => exact .numberSign hword (hbreaks.head (by decide) hnext)
  | word hc hword hnext => exact .word hc hword (hbreaks.head (by decide) hnext)
  | operator hc hdots hrun => exact .operator hc hdots (hbreaks.operatorRun_append hrun)
  | sign hmark hword hoperator hcontrol => exact .sign hmark hword hoperator hcontrol

theorem TokenText.ne_nil (h : TokenText t text next) : text ≠ [] := by
  cases h <;> exact List.cons_ne_nil _ _

theorem TokenText.isEndOfFile_eq_false (h : TokenText t text next) : t.isEndOfFile = false := by
  have hspelled := findsSpelled_readToken (text ++ next) t
  rw [readToken_append h] at hspelled
  exact (hspelled rfl).isEndOfFile_eq_false h.ne_nil

/-- A newline or a semicolon is the start of a separator only. -/
theorem TokenText.isSeparator_of_head (h : TokenText t text next)
    (hhead : '\n' ∈ text.head? ∨ ';' ∈ text.head?) : t.isSeparator = true := by
  have hmark : ∀ {c : Char} {cs : List Char}, c ∉ marks →
      ¬ ('\n' ∈ (c :: cs).head? ∨ ';' ∈ (c :: cs).head?) := by
    intro c cs hc hmem
    rw [List.head?_cons, Option.mem_some, Option.mem_some] at hmem
    rcases hmem with rfl | rfl
    · exact hc (by decide)
    · exact hc (by decide)
  cases h with
  | newline => rfl
  | semicolon => rfl
  | character => simp at hhead
  | string => simp at hhead
  | ellipsis => simp at hhead
  | numberSign => simp at hhead
  | word hc => exact absurd hhead (hmark (not_mark_of_isIdentifierChar hc))
  | operator hc => exact absurd hhead (hmark (not_mark_of_isOperatorChar hc))
  | sign hc => exact absurd hhead (hmark hc)

/-- A token stands at the front of the text, with nothing to skip before it. -/
structure Lexeme (t : Token) (text next : List Char) : Prop where
  settled : Settled (text ++ next)
  tokenText : TokenText t text next

theorem settled_readGap (h : (readGap text).unclosed = false) : Settled (readGap text).rest := by
  fun_induction readGap text with
  | case1 text hc => exact ⟨Text.head_dropWhile text, hc⟩
  | case2 => cases h
  | case3 text used rest hc ih => exact ih h

theorem unclosed_of_ok (h : (readGap text).token.outcome = .ok t) :
    (readGap text).unclosed = false := by
  cases hunclosed : (readGap text).unclosed with
  | false => rfl
  | true =>
      rw [Gap.token, hunclosed] at h
      cases h

/-- A token that a lexer gives is the longest one where the gap before it ends. -/
theorem lexeme_of_token (h : (readGap text).token.outcome = .ok t)
    (hrest : (readGap text).rest ≠ []) :
    Lexeme t (readGap text).token.used (readGap text).token.rest := by
  have hunclosed := unclosed_of_ok h
  refine ⟨?_, ?_⟩
  · rw [token_append]
    exact settled_readGap hunclosed
  · rw [Gap.token, hunclosed, if_neg Bool.false_ne_true] at h ⊢
    exact tokenText_readToken hrest t h

theorem Lexeme.of_breaksAlike (h : Lexeme t text next) (hbreaks : BreaksAlike next next') :
    Lexeme t text next' := by
  refine ⟨⟨?_, ?_⟩, h.tokenText.of_breaksAlike hbreaks⟩
  · intro c hc
    refine h.settled.blank c ?_
    cases text with
    | nil => exact absurd rfl h.tokenText.ne_nil
    | cons d ds => exact hc
  · have hcomment := readComment_eq_absent_iff.mp h.settled.comment
    exact readComment_eq_absent_iff.mpr (hbreaks.startsComment_append h.tokenText.ne_nil hcomment)

/-- The blanks and separators that a separator takes with it. -/
def trail (t : Token) (next : List Char) : List Char :=
  if t.isSeparator then next.takeWhile isSeparatorTrail else []

/-- What is left after a token and its trail. -/
def afterTrail (t : Token) (next : List Char) : List Char :=
  if t.isSeparator then next.dropWhile isSeparatorTrail else next

theorem trail_append (t : Token) (next : List Char) : trail t next ++ afterTrail t next = next := by
  unfold trail afterTrail
  split
  · exact List.takeWhile_append_dropWhile
  · rfl

/-- Where a token stands after blanks and comments, it is found, and nothing else. -/
theorem token_of_lexeme (hgap : Trivia gap (text ++ next)) (h : Lexeme t text next) :
    (readGap (gap ++ (text ++ next))).skipped = gap ∧
      (readGap (gap ++ (text ++ next))).token = .found t text next := by
  rw [readGap_of_trivia hgap h.settled]
  exact ⟨rfl, readToken_append h.tokenText⟩

theorem next_of_lexeme (hl : l.rest = gap ++ (text ++ next)) (hgap : Trivia gap (text ++ next))
    (h : Lexeme t text next) :
    l.next.token? = some ⟨.covering text.length (l.position.advance gap.length), t⟩ ∧
      l.next.next.rest = afterTrail t next ∧
      l.next.next.position =
        l.position.advance (gap.length + text.length + (trail t next).length) := by
  obtain ⟨hskipped, htoken⟩ := token_of_lexeme hgap h
  rw [← hl] at hskipped htoken
  have hok : (readGap l.rest).token.outcome = .ok t := congrArg Reading.outcome htoken
  have hnext := next_of_ok hok
  rw [Step.token?_eq_some_iff, hnext]
  refine ⟨⟨?_, h.tokenText.isEndOfFile_eq_false⟩, ?_, ?_⟩
  · simp only [htoken, atToken, moveOver, hskipped]
    rfl
  · dsimp only
    unfold afterTrail
    split
    · simp only [skipTrail, afterToken, moveOver, htoken]
      rfl
    · simp only [afterToken, moveOver, htoken]
      rfl
  · dsimp only
    unfold trail
    split
    · simp only [skipTrail, afterToken, atToken, moveOver, htoken, hskipped,
        Position.advance_advance]
      rfl
    · simp only [afterToken, atToken, moveOver, htoken, hskipped, Position.advance_advance]
      rfl

theorem lexeme_of_next {s : Spanned Token} (h : l.next.token? = some s) :
    Lexeme s.value (readGap l.rest).token.used (readGap l.rest).token.rest := by
  have hread := outcome_of_next (Step.token?_eq_some_iff.mp h).1
  have hrest : (readGap l.rest).rest ≠ [] := by
    rw [Ne, ← isEnd_iff, Step.isEnd_of_token h]
    exact Bool.false_ne_true
  exact lexeme_of_token hread hrest

/-- The next token of a lexer stands at the front of what is left, after blanks and comments. -/
theorem exists_lexeme {s : Spanned Token} (h : l.next.token? = some s) :
    ∃ gap text next, l.rest = gap ++ (text ++ next) ∧ Trivia gap (text ++ next) ∧
      Lexeme s.value text next := by
  refine ⟨(readGap l.rest).skipped, _, _, ?_, ?_, lexeme_of_next h⟩
  · rw [token_append, readGap_append]
  · rw [token_append]
    exact trivia_readGap l.rest

/-- Without a token and without an error, nothing but blanks and comments is left. -/
theorem trivia_of_none (h : l.next.token? = none) (herror : l.next.error? = none) :
    Trivia l.rest [] := by
  have hrest := isEnd_iff.mp (Step.isEnd_of_none h herror)
  have htrivia := trivia_readGap l.rest
  have hall := readGap_append l.rest
  rw [hrest, List.append_nil] at hall
  rwa [hrest, hall] at htrivia

/-- Where nothing but blanks and comments is left, a run is at its end. -/
theorem run_at_end (h : Trivia l.rest []) :
    l.run.map (·.outcome) =
      [.ok ⟨.covering 0 (l.position.advance l.rest.length), .endOfFile⟩] := by
  have hgap := readGap_of_trivia h ⟨nofun, rfl⟩
  rw [List.append_nil] at hgap
  have htoken : (readGap l.rest).token = .found .endOfFile [] [] := by
    rw [token_of_rest_nil]
    rw [hgap]
  have hok := congrArg Step.outcome (next_of_ok (congrArg Reading.outcome htoken))
  rw [htoken] at hok
  rw [run_of_end hok rfl, List.map_singleton, hok, atToken, moveOver, hgap]
  rfl

end

end Frontend.Lexer
