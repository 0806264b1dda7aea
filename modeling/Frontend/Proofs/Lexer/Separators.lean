/- Line separators in a row: when a lexer gives two of them one after the other. -/
import Frontend.Proofs.Lexer.Step
import Frontend.Proofs.Lexer.Trivia
import Mathlib.Data.List.Chain

namespace Frontend.Lexer

/-- The tokens of a run, without their places. -/
def tokens (l : Lexer) : List Token := l.run.filterMap fun s => s.token?.map (·.value)

/-- No separator stands right after another one. -/
def Collapsed (ts : List Token) : Prop :=
  ts.IsChain fun t u => ¬ (t.isSeparator = true ∧ u.isSeparator = true)

instance (ts : List Token) : Decidable (Collapsed ts) :=
  inferInstanceAs (Decidable (ts.IsChain _))

/-- Blanks and comments, and then a separator. -/
def SeparatorAhead (text : List Char) : Prop :=
  ∃ trivia c rest, text = trivia ++ c :: rest ∧ Trivia trivia (c :: rest) ∧ (c = '\n' ∨ c = ';')

/-- A comment, perhaps more comments and blanks, and then a separator. -/
def SeparatorPastComment (text : List Char) : Prop :=
  ∃ comment after, text = comment ++ after ∧ CommentText comment after ∧ SeparatorAhead after

theorem tokens_eq_map_placedTokens (l : Lexer) : l.tokens = l.placedTokens.map (·.value) := by
  rw [tokens, placedTokens, List.map_filterMap]

theorem tokens_of_none {l : Lexer} (h : l.next.token? = none) : l.tokens = [] := by
  rw [tokens_eq_map_placedTokens, placedTokens_of_none h]
  rfl

theorem tokens_of_some {l : Lexer} {t : Spanned Token} (h : l.next.token? = some t) :
    l.tokens = t.value :: l.next.next.tokens := by
  simp only [tokens_eq_map_placedTokens, placedTokens_of_some h, List.map_cons]

theorem head?_tokens (l : Lexer) : l.tokens.head? = l.next.token?.map (·.value) := by
  cases h : l.next.token? with
  | none => rw [tokens_of_none h]; rfl
  | some t => rw [tokens_of_some h]; rfl

theorem settled_of_separator {c : Char} (hc : c = '\n' ∨ c = ';') (rest : List Char) :
    Settled (c :: rest) := by
  refine ⟨?_, ?_⟩
  · intro d hd
    cases hd
    rcases hc with rfl | rfl
    · decide
    · decide
  · rcases hc with rfl | rfl
    · rfl
    · rfl

theorem isSeparator_iff {t : Token} : t.isSeparator = true ↔
    t = .punctuation .newline ∨ t = .punctuation .semicolon := by
  constructor
  · intro h
    unfold Token.isSeparator at h
    split at h
    · exact .inl rfl
    · exact .inr rfl
    · cases h
  · rintro (rfl | rfl)
    · rfl
    · rfl

theorem Spelled.eq_separator {t : Token} {text : List Char} (h : Spelled t text)
    (ht : t.isSeparator = true) : text = ['\n'] ∨ text = [';'] := by
  rcases isSeparator_iff.mp ht with rfl | rfl
  · cases h with
    | word hspelling => exact .inl (String.ofList_inj.mp (Option.some.inj hspelling).symm)
  · cases h with
    | word hspelling => exact .inr (String.ofList_inj.mp (Option.some.inj hspelling).symm)

/-- The next token is a separator if nothing but blanks and comments stands before one. -/
theorem separator_next_iff (l : Lexer) :
    (∃ t, l.next.token? = some t ∧ t.value.isSeparator = true) ↔ SeparatorAhead l.rest := by
  constructor
  · rintro ⟨t, ht, hseparator⟩
    obtain ⟨hok, _⟩ := Step.token?_eq_some_iff.mp ht
    have hread : (readGap l.rest).token.outcome = .ok t.value := outcome_of_next hok
    have hused := (findsSpelled_token l.rest t.value hread).eq_separator hseparator
    have hsplit := token_append l.rest
    have htrivia := trivia_readGap l.rest
    have hall := readGap_append l.rest
    rcases hused with hused | hused
    · rw [hused] at hsplit
      rw [← hsplit] at htrivia hall
      exact ⟨_, _, _, hall.symm, htrivia, .inl rfl⟩
    · rw [hused] at hsplit
      rw [← hsplit] at htrivia hall
      exact ⟨_, _, _, hall.symm, htrivia, .inr rfl⟩
  · rintro ⟨trivia, c, rest, hrest, htrivia, hc⟩
    have hgap := readGap_of_trivia htrivia (settled_of_separator hc rest)
    rw [← hrest] at hgap
    rcases hc with rfl | rfl
    · have hread : (readGap l.rest).token.outcome = .ok (.punctuation .newline) := by
        rw [hgap]
        rfl
      exact ⟨_, Step.token?_eq_some_iff.mpr ⟨congrArg Step.outcome (next_of_ok hread), rfl⟩, rfl⟩
    · have hread : (readGap l.rest).token.outcome = .ok (.punctuation .semicolon) := by
        rw [hgap]
        rfl
      exact ⟨_, Step.token?_eq_some_iff.mpr ⟨congrArg Step.outcome (next_of_ok hread), rfl⟩, rfl⟩

/-- What follows the trail of a separator is not part of the trail. -/
theorem head_rest_of_separator {l : Lexer} {t : Spanned Token} (h : l.next.token? = some t)
    (ht : t.value.isSeparator = true) :
    ∀ c ∈ l.next.next.rest.head?, isSeparatorTrail c = false := by
  obtain ⟨hok, _⟩ := Step.token?_eq_some_iff.mp h
  rw [next_of_ok (outcome_of_next hok)]
  dsimp only
  rw [if_pos ht]
  exact Text.head_dropWhile _

/-- After a separator the next token is another one just if a comment keeps them apart. -/
theorem separator_after_separator_iff {l : Lexer} {t : Spanned Token}
    (h : l.next.token? = some t) (ht : t.value.isSeparator = true) :
    (∃ u, l.next.next.next.token? = some u ∧ u.value.isSeparator = true) ↔
      SeparatorPastComment l.next.next.rest := by
  rw [separator_next_iff]
  have hhead := head_rest_of_separator h ht
  constructor
  · rintro ⟨trivia, c, rest, hrest, htrivia, hc⟩
    rw [hrest] at hhead
    cases htrivia with
    | nil =>
        have htrail := hhead c rfl
        rcases hc with rfl | rfl
        · exact absurd htrail (by decide)
        · exact absurd htrail (by decide)
    | blank hwhite hline htext =>
        have htrail := hhead _ rfl
        simp [isSeparatorTrail, hwhite] at htrail
    | comment hcomment htext =>
        rw [List.append_assoc] at hrest
        exact ⟨_, _, hrest, hcomment, _, _, _, rfl, htext, hc⟩
  · rintro ⟨comment, after, hrest, hcomment, trivia, c, rest, rfl, htrivia, hc⟩
    refine ⟨comment ++ trivia, c, rest, ?_, .comment hcomment htrivia, hc⟩
    rw [hrest, List.append_assoc]

/-- Separators are collapsed across blanks, newlines and semicolons, but not across comments. The
tokens of a text have no two separators in a row just if no separator is followed, after its trail,
by a comment before another separator. -/
theorem collapsed_iff (l : Lexer) :
    Collapsed l.tokens ↔
      ∀ s ∈ l.run, ∀ t, s.token? = some t → t.value.isSeparator = true →
        ¬ SeparatorPastComment s.next.rest := by
  induction l using run_induction with
  | step l ih =>
      cases htoken : l.next.token? with
      | none =>
          rw [tokens_of_none htoken, run_of_none htoken]
          refine ⟨?_, fun _ => .nil⟩
          intro _ s hs t ht
          rw [List.mem_singleton.mp hs, htoken] at ht
          cases ht
      | some t =>
          rw [tokens_of_some htoken, run_of_token htoken, Collapsed, List.isChain_cons,
            List.forall_mem_cons]
          refine and_congr ?_ (ih t htoken)
          constructor
          · intro hapart u hu hseparator hpast
            obtain rfl := Option.some.inj (htoken.symm.trans hu)
            obtain ⟨v, hv, hsecond⟩ := (separator_after_separator_iff htoken hseparator).mpr hpast
            refine hapart v.value ?_ ⟨hseparator, hsecond⟩
            rw [head?_tokens, hv]
            rfl
          · rintro hpast v hv ⟨hseparator, hsecond⟩
            rw [head?_tokens] at hv
            obtain ⟨w, hw, rfl⟩ := Option.map_eq_some_iff.mp hv
            exact hpast t htoken hseparator
              ((separator_after_separator_iff htoken hseparator).mp ⟨w, hw, hsecond⟩)

/-- A line with nothing but a comment stands between two newlines that are both tokens. -/
theorem not_collapsed_around_comment :
    ¬ ∀ chars : List Char, Collapsed (ofChars chars).tokens := by
  intro h
  exact absurd (h ['a', '\n', '/', '/', 'c', '\n', 'b']) (by decide +kernel)

end Frontend.Lexer
