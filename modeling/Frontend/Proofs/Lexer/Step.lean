/- One step of a lexer, the run of its steps, and where in a file it stands. -/
import Frontend.Lexer.Basic
import Frontend.Proofs.Lexer.Lexeme
import Frontend.Proofs.Lexer.Trivia
import Frontend.Proofs.Source.Slice
import Mathlib.Logic.Function.Iterate

namespace Frontend.Lexer

theorem Spelled.isEndOfFile_eq_false {t : Token} {text : List Char} (h : Spelled t text)
    (hne : text ≠ []) : t.isEndOfFile = false := by
  cases h with
  | char => rfl
  | string => rfl
  | word hspelling =>
      cases t with
      | endOfFile =>
          have htext : String.ofList text = String.ofList [] := (Option.some.inj hspelling).symm
          have hempty := String.ofList_inj.mp htext
          exact absurd hempty hne
      | _ => rfl

theorem token_append (text : List Char) :
    (readGap text).token.used ++ (readGap text).token.rest = (readGap text).rest :=
  Gap.splits_token _

theorem token_of_rest_nil {text : List Char} (h : (readGap text).rest = []) :
    (readGap text).token = .found .endOfFile [] [] := by
  have hclosed : (readGap text).unclosed = false := by
    cases hu : (readGap text).unclosed with
    | false => rfl
    | true => exact absurd h (rest_ne_nil_of_unclosed hu)
  rw [Gap.token, hclosed, h]
  rfl

theorem used_ne_nil_of_token {text : List Char} (h : (readGap text).rest ≠ []) :
    (readGap text).token.used ≠ [] := by
  unfold Gap.token
  split
  · exact h
  · exact used_ne_nil_of_readToken h

theorem findsSpelled_token (text : List Char) : FindsSpelled (readGap text).token := by
  unfold Gap.token
  split
  · exact nofun
  · exact findsSpelled_readToken _

/-- The lexer right after the token or the faulty characters that come next. -/
def afterToken (l : Lexer) : Lexer :=
  l.atToken.moveOver (readGap l.rest).token.used (readGap l.rest).token.rest

theorem next_of_ok {l : Lexer} {t : Token} (h : (readGap l.rest).token.outcome = .ok t) :
    l.next = ⟨.ok ⟨.covering (readGap l.rest).token.used.length l.atToken.position, t⟩,
      l.afterToken.location, if t.isSeparator then l.afterToken.skipTrail else l.afterToken⟩ := by
  unfold next
  simp only [h]
  rfl

theorem next_of_error {l : Lexer} {kind : LexErrorKind}
    (h : (readGap l.rest).token.outcome = .error kind) :
    l.next = ⟨.error ⟨kind, l.afterToken.location,
      .covering (readGap l.rest).token.used.length l.atToken.position⟩,
      l.afterToken.location, l.afterToken⟩ := by
  unfold next
  simp only [h]
  rfl

/-- What a step comes to, without its place: the token or the kind of the error. -/
def Step.found (s : Step) : Except LexErrorKind Token :=
  match s.outcome with
  | .ok t => .ok t.value
  | .error e => .error e.kind

theorem found_next (l : Lexer) : l.next.found = (readGap l.rest).token.outcome := by
  cases houtcome : (readGap l.rest).token.outcome with
  | error kind =>
      rw [next_of_error houtcome]
      rfl
  | ok t =>
      rw [next_of_ok houtcome]
      rfl

section
variable {l : Lexer} {c : Char} {cs : List Char}

/-- Only a slash may start something else than a token after a gap: a comment without end. -/
theorem token_of_head (h : l.atToken.rest = c :: cs) (hc : c ≠ '/') :
    (readGap l.rest).token = readToken (c :: cs) := by
  have hrest : (readGap l.rest).rest = c :: cs := h
  cases hunclosed : (readGap l.rest).unclosed with
  | true =>
      obtain ⟨body, hbody, _⟩ := exists_body_of_unclosed hunclosed
      rw [hrest] at hbody
      exact absurd (List.cons.inj hbody).1 hc
  | false =>
      rw [Gap.token, hunclosed, hrest]
      rfl

theorem found_of_head (h : l.atToken.rest = c :: cs) (hc : c ≠ '/') :
    l.next.found = (readToken (c :: cs)).outcome := by
  rw [found_next, token_of_head h hc]

/-- After a token that is no separator the lexer stands right behind it. -/
theorem next_next_of_head {t : Token} {used rest : List Char} (h : l.atToken.rest = c :: cs)
    (hc : c ≠ '/') (hread : readToken (c :: cs) = .found t used rest)
    (ht : t.isSeparator = false) : l.next.next = l.atToken.moveOver used rest := by
  have htoken : (readGap l.rest).token = .found t used rest := (token_of_head h hc).trans hread
  rw [next_of_ok (congrArg Reading.outcome htoken), if_neg (Bool.eq_false_iff.mp ht), afterToken,
    htoken]
  rfl

end

/-- After a token the lexer moves on over the trail only if the token is a separator. -/
theorem next_next_eq (l : Lexer) :
    l.next.next = l.afterToken ∨ l.next.next = l.afterToken.skipTrail := by
  cases houtcome : (readGap l.rest).token.outcome with
  | error kind =>
      rw [next_of_error houtcome]
      exact .inl rfl
  | ok t =>
      rw [next_of_ok houtcome]
      dsimp only
      split
      · exact .inr rfl
      · exact .inl rfl

/-- What each move of the cursor keeps is kept by the step to the next token. -/
theorem next_of_moveOver {motive : Nat → Lexer → Prop}
    (move : ∀ {p l used rest}, motive p l → used ++ rest = l.rest →
      motive (p + used.length) (l.moveOver used rest)) {p : Nat} {l : Lexer} (h : motive p l) :
    ∃ q, p + (readGap l.rest).skipped.length + (readGap l.rest).token.used.length ≤ q ∧
      motive q l.next.next := by
  have hafter : motive _ l.afterToken := move (move h (readGap_append l.rest)) (token_append l.rest)
  rcases next_next_eq l with heq | heq
  · rw [heq]
    exact ⟨_, Nat.le_refl _, hafter⟩
  · rw [heq]
    exact ⟨_, Nat.le_add_right _ _, move hafter List.takeWhile_append_dropWhile⟩

theorem iterate_of_moveOver {motive : Nat → Lexer → Prop}
    (move : ∀ {p l used rest}, motive p l → used ++ rest = l.rest →
      motive (p + used.length) (l.moveOver used rest)) {p : Nat} {l : Lexer} (h : motive p l)
    (n : Nat) : ∃ q, p ≤ q ∧ motive q ((fun l => l.next.next)^[n] l) := by
  induction n with
  | zero => exact ⟨p, Nat.le_refl p, h⟩
  | succ n ih =>
      obtain ⟨q, hq, hmotive⟩ := ih
      obtain ⟨q', hq', hnext⟩ := next_of_moveOver move hmotive
      rw [Function.iterate_succ_apply']
      exact ⟨q', by omega, hnext⟩

theorem outcome_of_next {l : Lexer} {t : Spanned Token} (h : l.next.outcome = .ok t) :
    (readGap l.rest).token.outcome = .ok t.value := by
  cases houtcome : (readGap l.rest).token.outcome with
  | error kind =>
      rw [next_of_error houtcome] at h
      cases h
  | ok u =>
      rw [next_of_ok houtcome] at h
      cases h
      rfl

theorem Step.token?_eq_some_iff {s : Step} {t : Spanned Token} :
    s.token? = some t ↔ s.outcome = .ok t ∧ t.value.isEndOfFile = false := by
  obtain ⟨outcome, reached, next⟩ := s
  cases outcome with
  | error e => simp [Step.token?]
  | ok u =>
      by_cases hend : u.value.isEndOfFile = true
      · have hne : u = t → t.value.isEndOfFile = true := by
          rintro rfl
          exact hend
        simpa [Step.token?, hend] using hne
      · simp only [Step.token?, hend, Bool.false_eq_true, if_false, Option.some.injEq,
          Except.ok.injEq]
        constructor
        · rintro rfl
          exact ⟨rfl, Bool.eq_false_iff.mpr hend⟩
        · exact And.left

/-- A token covers its characters, from where the gap before it ends. -/
theorem span_of_next {l : Lexer} {t : Spanned Token} (h : l.next.token? = some t) :
    t.span = .covering (readGap l.rest).token.used.length l.atToken.position := by
  obtain ⟨hok, _⟩ := Step.token?_eq_some_iff.mp h
  have hspan := congrArg Step.outcome (next_of_ok (outcome_of_next hok))
  rw [hok] at hspan
  rw [Except.ok.inj hspan]

/-- The end is given where no token and no unclosed comment comes after the gap. -/
theorem isEnd_iff {l : Lexer} : l.next.isEnd = true ↔ (readGap l.rest).rest = [] := by
  constructor
  · intro hend
    refine Classical.byContradiction fun hrest => ?_
    have hused := used_ne_nil_of_token hrest
    cases houtcome : (readGap l.rest).token.outcome with
    | error kind =>
        rw [next_of_error houtcome] at hend
        cases hend
    | ok t =>
        have hnot := (findsSpelled_token l.rest t houtcome).isEndOfFile_eq_false hused
        rw [next_of_ok houtcome] at hend
        exact Bool.false_ne_true (hnot.symm.trans hend)
  · intro hrest
    rw [next_of_ok (congrArg Reading.outcome (token_of_rest_nil hrest))]
    rfl

theorem Step.isEnd_of_token {s : Step} {t : Spanned Token} (h : s.token? = some t) :
    s.isEnd = false := by
  obtain ⟨hok, hend⟩ := Step.token?_eq_some_iff.mp h
  simp only [Step.isEnd, hok, hend]

theorem Step.isEnd_of_none {s : Step} (htoken : s.token? = none) (herror : s.error? = none) :
    s.isEnd = true := by
  obtain ⟨outcome, reached, next⟩ := s
  cases outcome with
  | error e => cases herror
  | ok t =>
      cases hend : t.value.isEndOfFile with
      | true => exact hend
      | false => cases htoken.symm.trans (Step.token?_eq_some_iff.mpr ⟨rfl, hend⟩)

theorem steps_of_isEnd {l : Lexer} (h : l.next.isEnd = true) : l.steps = [l.next] := by
  rw [steps.eq_def]
  split
  · rfl
  · rename_i hend
    rw [h] at hend
    cases hend

theorem steps_of_not_isEnd {l : Lexer} (h : l.next.isEnd = false) :
    l.steps = l.next :: l.next.next.steps := by
  rw [steps.eq_def]
  split
  · rename_i hend
    rw [h] at hend
    cases hend
  · rfl

theorem run_of_error {l : Lexer} {e : LexError} (h : l.next.outcome = .error e) :
    l.run = [l.next] := by
  have hend : l.next.isEnd = false := by simp only [Step.isEnd, h]
  have herror : l.next.error?.isSome = true := by simp only [Step.error?, h, Option.isSome_some]
  rw [run, steps_of_not_isEnd hend, untilError, if_pos herror]

theorem run_of_end {l : Lexer} {t : Spanned Token} (h : l.next.outcome = .ok t)
    (ht : t.value.isEndOfFile = true) : l.run = [l.next] := by
  have hend : l.next.isEnd = true := by simp only [Step.isEnd, h, ht]
  rw [run, steps_of_isEnd hend, untilError]
  split
  · rfl
  · rfl

theorem run_of_none {l : Lexer} (h : l.next.token? = none) : l.run = [l.next] := by
  cases houtcome : l.next.outcome with
  | error e => exact run_of_error houtcome
  | ok t =>
      refine run_of_end houtcome ?_
      cases hend : t.value.isEndOfFile with
      | true => rfl
      | false =>
          rw [Step.token?_eq_some_iff.mpr ⟨houtcome, hend⟩] at h
          cases h

theorem run_of_token {l : Lexer} {t : Spanned Token} (h : l.next.token? = some t) :
    l.run = l.next :: l.next.next.run := by
  have hok := (Step.token?_eq_some_iff.mp h).1
  have hend := Step.isEnd_of_token h
  have herror : l.next.error?.isSome = false := by simp only [Step.error?, hok, Option.isSome_none]
  rw [run, steps_of_not_isEnd hend, untilError, herror]
  rfl

/-- A run is followed from each token to the next one. -/
theorem run_induction {motive : Lexer → Prop}
    (step : ∀ l, (∀ t, l.next.token? = some t → motive l.next.next) → motive l) (l : Lexer) :
    motive l := by
  refine step l ?_
  intro t ht
  have hshorter := next_rest_length_lt (Step.isEnd_of_token ht)
  exact run_induction step l.next.next
termination_by l.rest.length

/-- The tokens of a run with their places, up to the end of the text or the first error. -/
def placedTokens (l : Lexer) : List (Spanned Token) := l.run.filterMap (·.token?)

theorem placedTokens_of_none {l : Lexer} (h : l.next.token? = none) : l.placedTokens = [] := by
  rw [placedTokens, run_of_none h]
  simp [h]

theorem placedTokens_of_some {l : Lexer} {t : Spanned Token} (h : l.next.token? = some t) :
    l.placedTokens = t :: l.next.next.placedTokens := by
  rw [placedTokens, run_of_token h, List.filterMap_cons, h]
  rfl

theorem placedTokens_eq_cons_iff {l : Lexer} {t : Spanned Token} {ts : List (Spanned Token)} :
    l.placedTokens = t :: ts ↔ l.next.token? = some t ∧ l.next.next.placedTokens = ts := by
  cases htoken : l.next.token? with
  | none => simp [placedTokens_of_none htoken]
  | some s => rw [placedTokens_of_some htoken, List.cons_eq_cons, Option.some_inj]

/-- The lexer is at the offset `p` of a file, and the characters from there to `stop` are left. -/
structure StandsAt (r : Registry) (id : FileId) (stop p : Nat) (l : Lexer) : Prop where
  position : l.position = .inFile id p
  slice : r.slice? (.within id p stop) = some l.rest

section
variable {r : Registry} {id : FileId} {stop p : Nat} {l : Lexer}

theorem standsAt_ofSpan {a b : Nat} {text : List Char}
    (h : r.slice? (.within id a b) = some text) :
    StandsAt r id b a (ofSpan r (.within id a b)) := by
  refine ⟨rfl, ?_⟩
  rw [ofSpan, h]
  rfl

theorem StandsAt.moveOver {used rest : List Char} (h : StandsAt r id stop p l)
    (hsplit : used ++ rest = l.rest) :
    StandsAt r id stop (p + used.length) (l.moveOver used rest) := by
  refine ⟨?_, ?_⟩
  · rw [Lexer.moveOver, h.position]
    rfl
  · have hslice := h.slice
    rw [← hsplit] at hslice
    exact Registry.slice?_append_right hslice

theorem StandsAt.covering (h : StandsAt r id stop p l) (n : Nat) :
    Span.covering n l.position = .within id p (p + n) := by
  rw [h.position]
  rfl

theorem StandsAt.le_stop (h : StandsAt r id stop p l) : p ≤ stop :=
  Registry.slice?_length h.slice ▸ Nat.le_add_right _ _

theorem StandsAt.eq_stop (h : StandsAt r id stop p l) (hrest : l.rest = []) : p = stop := by
  have hlength := Registry.slice?_length h.slice
  rwa [hrest] at hlength

theorem StandsAt.atToken (h : StandsAt r id stop p l) :
    StandsAt r id stop (p + (readGap l.rest).skipped.length) l.atToken :=
  h.moveOver (readGap_append l.rest)

theorem StandsAt.afterToken (h : StandsAt r id stop p l) :
    StandsAt r id stop
      (p + (readGap l.rest).skipped.length + (readGap l.rest).token.used.length) l.afterToken :=
  h.atToken.moveOver (token_append l.rest)

theorem StandsAt.skipTrail (h : StandsAt r id stop p l) :
    StandsAt r id stop (p + (l.rest.takeWhile isSeparatorTrail).length) l.skipTrail :=
  h.moveOver List.takeWhile_append_dropWhile

theorem StandsAt.next (h : StandsAt r id stop p l) : ∃ q, StandsAt r id stop q l.next.next := by
  obtain ⟨q, _, hq⟩ := next_of_moveOver (motive := StandsAt r id stop) StandsAt.moveOver h
  exact ⟨q, hq⟩

/-- In a file, a token lies where the gap before it ends. -/
theorem StandsAt.span_of_token {t : Spanned Token} (h : StandsAt r id stop p l)
    (ht : l.next.token? = some t) :
    t.span = .within id (p + (readGap l.rest).skipped.length)
      (p + (readGap l.rest).skipped.length + (readGap l.rest).token.used.length) := by
  rw [span_of_next ht, h.atToken.covering]

end

end Frontend.Lexer
