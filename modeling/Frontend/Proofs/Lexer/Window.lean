/- A part of a text that is cut at the ends of tokens is read into the tokens that lie in it. -/
import Frontend.Proofs.Lexer.Locality

namespace Frontend.Lexer

/-- Whoever reads this text alone, from the offset `p` of a file on, gives these tokens and then the
end of the text. -/
def ReadsAs (id : FileId) (p : Nat) (text : List Char) (ts : List (Spanned Token)) : Prop :=
  ∀ l : Lexer, l.position = .inFile id p → l.rest = text →
    l.run.map (·.outcome) =
      ts.map .ok ++ [.ok ⟨.within id (p + text.length) (p + text.length), .endOfFile⟩]

section
variable {r : Registry} {id : FileId} {stop p : Nat} {l : Lexer} {t : Token}
variable {text gap next next' rest rest' : List Char} {ts : List (Spanned Token)}

theorem CommentText.of_head {comment : List Char} (h : CommentText comment next)
    (hhead : next'.head? = next.head?) : CommentText comment next' := by
  cases h with
  | line hbody hnext => exact .line hbody (hhead ▸ hnext)
  | block hfirst => exact .block hfirst

/-- What can be skipped before a text depends on its first character only. -/
theorem Trivia.of_head (h : Trivia gap rest) (hhead : rest'.head? = rest.head?) :
    Trivia gap rest' := by
  induction h with
  | nil => exact .nil
  | blank hwhite hline h ih => exact .blank hwhite hline (ih hhead)
  | comment hcomment h ih =>
      refine .comment (hcomment.of_head ?_) (ih hhead)
      rw [List.head?_append, List.head?_append, hhead]

/-- Whether a text starts with a comment can be seen from what is skipped at its start. -/
theorem Trivia.startsComment_append (h : Trivia gap rest) (hne : gap ≠ [])
    (after after' : List Char) : startsComment (gap ++ after) = startsComment (gap ++ after') := by
  cases h with
  | nil => exact absurd rfl hne
  | @blank c text rest hwhite hline h =>
      have hc : (c == '/') = false := by
        refine beq_eq_false_iff_ne.mpr ?_
        rintro rfl
        exact absurd hwhite (by decide)
      rw [List.cons_append, List.cons_append, startsComment_cons, startsComment_cons, hc]
      rfl
  | comment hcomment h =>
      cases hcomment with
      | line => rfl
      | block => rfl

theorem Lexeme.startsComment_append (h : Lexeme t text next) (h' : Lexeme t text next')
    (hgap : Trivia gap (text ++ next)) :
    startsComment (gap ++ (text ++ next')) = startsComment (gap ++ (text ++ next)) := by
  by_cases hne : gap = []
  · rw [hne, List.nil_append, List.nil_append, readComment_eq_absent_iff.mp h.settled.comment,
      readComment_eq_absent_iff.mp h'.settled.comment]
  · exact hgap.startsComment_append hne _ _

theorem Lexeme.trivia (h : Lexeme t text next) (hgap : Trivia gap (text ++ next))
    (next' : List Char) : Trivia gap (text ++ next') := by
  refine hgap.of_head ?_
  cases text with
  | nil => exact absurd rfl h.tokenText.ne_nil
  | cons c cs => rfl

theorem readsAs_nil (id : FileId) (p : Nat) : ReadsAs id p [] [] := by
  intro l hposition hrest
  rw [run_at_end (hrest ▸ .nil), hposition, hrest]
  rfl

/-- A text is read token by token. -/
theorem readsAs_cons (hgap : Trivia gap (text ++ next)) (h : Lexeme t text next)
    (hts : ReadsAs id (p + (gap.length + text.length + (trail t next).length)) (afterTrail t next)
      ts) :
    ReadsAs id p (gap ++ (text ++ next))
      (⟨.within id (p + gap.length) (p + gap.length + text.length), t⟩ :: ts) := by
  intro l hposition hrest
  obtain ⟨hnext, hleft, hafter⟩ := next_of_lexeme hrest hgap h
  rw [hposition] at hnext hafter
  have hlength := congrArg List.length (trail_append t next)
  have hend : p + (gap.length + text.length + (trail t next).length) +
      (afterTrail t next).length = p + (gap ++ (text ++ next)).length := by
    simp only [List.length_append] at hlength ⊢
    omega
  rw [run_of_token hnext, List.map_cons, (Step.token?_eq_some_iff.mp hnext).1,
    hts l.next.next hafter hleft, hend]
  rfl

/-- A trail that is cut off behind its end is the same trail. -/
theorem trail_cut {before after : List Char} (h : afterTrail t next = before ++ after) :
    trail t (trail t next ++ before) = trail t next ∧
      afterTrail t (trail t next ++ before) = before := by
  unfold trail afterTrail at *
  split
  · rename_i ht
    rw [if_pos ht] at h
    have hrun : ∀ c ∈ next.takeWhile isSeparatorTrail, isSeparatorTrail c = true :=
      fun c hc => List.mem_takeWhile_imp hc
    have hbefore : ∀ c ∈ before.head?, isSeparatorTrail c = false := by
      intro c hc
      refine Text.head_dropWhile next c ?_
      rw [h, List.head?_append, Option.mem_def.mp hc]
      rfl
    exact ⟨Text.takeWhile_append_of_head hrun hbefore, Text.dropWhile_append_of_head hrun hbefore⟩
  · exact ⟨rfl, rfl⟩

/-- The text before a cut holds the next tokens of the whole text up to the end of the last of them,
and read alone it gives them. -/
structure Cut (id : FileId) (p : Nat) (text before after : List Char)
    (ts : List (Spanned Token)) : Prop where
  append : before ++ after = text
  ne_nil : before ≠ []
  comment : startsComment before = startsComment text
  stop : ∃ last, ts.getLast? = some last ∧ last.span.stop = .inFile id (p + before.length)
  reads : ReadsAs id p before ts

theorem isSeparatorTrail_of_mem_trail {c : Char} (h : c ∈ trail t next) :
    isSeparatorTrail c = true := by
  unfold trail at h
  split at h
  · exact List.mem_takeWhile_imp h
  · cases h

/-- A token ends at the same place before all that follows it and before the part up to a cut. -/
theorem Cut.breaksAlike {before after : List Char}
    (h : Cut id p (afterTrail t next) before after ts) :
    BreaksAlike next (trail t next ++ before) := by
  have hnext : next = trail t next ++ (before ++ after) := by
    rw [h.append, trail_append]
  refine .inr ⟨?_, ?_⟩
  · have hhead : (before ++ after).head? = before.head? := by
      cases hbefore : before with
      | nil => exact absurd hbefore h.ne_nil
      | cons c cs => rfl
    rw [List.head?_append]
    conv => rhs; rw [hnext, List.head?_append, hhead]
  · cases htrail : trail t next with
    | nil =>
        rw [htrail, List.nil_append] at hnext
        rw [List.nil_append, h.comment, ← h.append, ← hnext]
    | cons c cs =>
        have hc : (c == '/') = false := by
          refine beq_eq_false_iff_ne.mpr ?_
          rintro rfl
          have hmem : '/' ∈ trail t next := htrail ▸ List.mem_cons_self
          exact absurd (isSeparatorTrail_of_mem_trail hmem) (by decide)
        rw [htrail] at hnext
        rw [hnext, List.cons_append, List.cons_append, startsComment_cons, startsComment_cons, hc]
        rfl

/-- A cut in what follows a trail is a cut in what follows the token before the trail. -/
theorem Cut.behind_trail {before after : List Char}
    (h : Cut id p (afterTrail t next) before after ts) :
    ∃ next', next = next' ++ after ∧ BreaksAlike next next' ∧ trail t next' = trail t next ∧
      afterTrail t next' = before := by
  obtain ⟨htrail, hafter⟩ := trail_cut h.append.symm
  refine ⟨trail t next ++ before, ?_, h.breaksAlike, htrail, hafter⟩
  rw [List.append_assoc, h.append, trail_append]

/-- A cut behind a token, or behind later ones that stand in the part `next'` of what follows. -/
theorem cut_of_lexeme {after : List Char} (hgap : Trivia gap (text ++ (next' ++ after)))
    (h : Lexeme t text (next' ++ after)) (hbreaks : BreaksAlike (next' ++ after) next')
    (hreads : ReadsAs id (p + (gap.length + text.length + (trail t next').length))
      (afterTrail t next') ts)
    (hstop : ts = [] ∧ next' = [] ∨ ∃ last, ts.getLast? = some last ∧
      last.span.stop = .inFile id (p + (gap ++ (text ++ next')).length)) :
    Cut id p (gap ++ (text ++ (next' ++ after))) (gap ++ (text ++ next')) after
      (⟨.within id (p + gap.length) (p + gap.length + text.length), t⟩ :: ts) := by
  have h' := h.of_breaksAlike hbreaks
  refine ⟨?_, ?_, h.startsComment_append h' hgap, ?_, readsAs_cons (h.trivia hgap _) h' hreads⟩
  · simp only [List.append_assoc]
  · simp [h.tokenText.ne_nil]
  · rcases hstop with ⟨rfl, rfl⟩ | ⟨last, hlast, hstop⟩
    · have hlength : p + gap.length + text.length = p + (gap ++ (text ++ [])).length := by
        simp only [List.append_nil, List.length_append, Nat.add_assoc]
      exact ⟨_, rfl, congrArg (Position.inFile id) hlength⟩
    · refine ⟨last, ?_, hstop⟩
      rw [List.getLast?_cons, hlast]
      rfl

/-- The next token of a lexer in a file, with its place, and the lexer after it. -/
theorem exists_lexeme_of_prefix {t : Spanned Token} (hposition : l.position = .inFile id p)
    (h : t :: ts <+: l.placedTokens) :
    ∃ gap text next, l.rest = gap ++ (text ++ next) ∧ Trivia gap (text ++ next) ∧
      Lexeme t.value text next ∧
      t = ⟨.within id (p + gap.length) (p + gap.length + text.length), t.value⟩ ∧
      ts <+: l.next.next.placedTokens ∧ l.next.next.rest = afterTrail t.value next ∧
      l.next.next.position =
        .inFile id (p + (gap.length + text.length + (trail t.value next).length)) := by
  obtain ⟨later, hts⟩ := h
  obtain ⟨htoken, hafter⟩ := placedTokens_eq_cons_iff.mp hts.symm
  obtain ⟨gap, text, next, hrest, hgap, hlexeme⟩ := exists_lexeme htoken
  obtain ⟨hnext, hleft, hmoved⟩ := next_of_lexeme hrest hgap hlexeme
  rw [hposition] at hnext hmoved
  exact ⟨gap, text, next, hrest, hgap, hlexeme, Option.some.inj (htoken.symm.trans hnext),
    ⟨later, hafter.symm⟩, hleft, hmoved⟩

/-- What a lexer has left can be cut at the end of any token that it is going to give. -/
theorem exists_cut {t : Spanned Token} (hposition : l.position = .inFile id p)
    (h : t :: ts <+: l.placedTokens) : ∃ before after, Cut id p l.rest before after (t :: ts) := by
  induction ts generalizing l p t with
  | nil =>
      obtain ⟨gap, text, next, hrest, hgap, hlexeme, ht, _, _, _⟩ :=
        exists_lexeme_of_prefix hposition h
      have hbreaks : BreaksAlike next [] := .inl nofun
      have hnone : afterTrail t.value [] = [] := ite_self _
      have hreads : ReadsAs id (p + (gap.length + text.length + (trail t.value []).length))
          (afterTrail t.value []) [] := by
        rw [hnone]
        exact readsAs_nil id _
      rw [hrest, ht]
      exact ⟨_, _, cut_of_lexeme hgap hlexeme hbreaks hreads (.inl ⟨rfl, rfl⟩)⟩
  | cons u ts ih =>
      obtain ⟨gap, text, next, hrest, hgap, hlexeme, ht, hts, hleft, hafter⟩ :=
        exists_lexeme_of_prefix hposition h
      obtain ⟨before, after, hcut⟩ := ih hafter hts
      rw [hleft] at hcut
      obtain ⟨next', rfl, hbreaks, htrail, hkept⟩ := hcut.behind_trail
      obtain ⟨last, hlast, hstop⟩ := hcut.stop
      have hlength := congrArg List.length (trail_append t.value next')
      rw [hrest, ht]
      refine ⟨_, _, cut_of_lexeme hgap hlexeme hbreaks ?_ (.inr ⟨last, hlast, ?_⟩)⟩
      · rw [htrail, hkept]
        exact hcut.reads
      · rw [hstop]
        refine congrArg (Position.inFile id) ?_
        rw [htrail, hkept] at hlength
        simp only [List.length_append] at hlength ⊢
        omega

/-- After some of its tokens a lexer gives the others. -/
theorem exists_lexer_after {before after : List (Spanned Token)} (h : StandsAt r id stop p l)
    (hts : l.placedTokens = before ++ after) :
    ∃ l' q, StandsAt r id stop q l' ∧ l'.placedTokens = after := by
  induction before generalizing l p with
  | nil => exact ⟨l, p, h, hts⟩
  | cons t before ih =>
      obtain ⟨_, hts⟩ := placedTokens_eq_cons_iff.mp hts
      obtain ⟨q, hq⟩ := h.next
      exact ih hq hts

/-- Where the next token starts, the lexer goes on in the same way. -/
theorem next_atToken (h : (readGap l.rest).unclosed = false) : l.atToken.next = l.next := by
  have hgap : readGap l.atToken.rest = ⟨[], false, l.atToken.rest⟩ :=
    readGap_of_settled (settled_readGap h)
  have hstart : l.atToken.atToken = l.atToken := by
    rw [atToken, hgap, moveOver, List.length_nil, Position.advance_zero]
    rfl
  have htoken : (readGap l.atToken.rest).token = (readGap l.rest).token := by
    rw [hgap, Gap.token, Gap.token, h]
    rfl
  unfold next
  rw [hstart, htoken]

/-- A lexer in a file can start where its next token starts. -/
theorem exists_lexer_at_start {t : Spanned Token} (h : StandsAt r id stop p l)
    (ht : l.next.token? = some t) :
    ∃ l' q, StandsAt r id stop q l' ∧ l'.placedTokens = l.placedTokens ∧
      t.span.start = .inFile id q := by
  obtain ⟨hok, _⟩ := Step.token?_eq_some_iff.mp ht
  have hnext := next_atToken (unclosed_of_ok (outcome_of_next hok))
  refine ⟨l.atToken, _, h.atToken, ?_, ?_⟩
  · rw [placedTokens_of_some ht, placedTokens_of_some (hnext ▸ ht), hnext]
  · rw [h.span_of_token ht]
    rfl

/-- Only in a file, and within it, are there tokens. -/
theorem exists_standsAt_ofSpan {s : Span} {t : Spanned Token}
    (h : t ∈ (ofSpan r s).placedTokens) : ∃ id p stop, StandsAt r id stop p (ofSpan r s) := by
  cases hslice : r.slice? s with
  | none =>
      have hrest : (ofSpan r s).rest = [] := by
        rw [ofSpan, hslice]
        rfl
      obtain ⟨first, ts, hts⟩ := List.exists_cons_of_ne_nil (List.ne_nil_of_mem h)
      obtain ⟨gap, text, next, hsplit, _, hlexeme⟩ :=
        exists_lexeme (placedTokens_eq_cons_iff.mp hts).1
      rw [hrest, eq_comm, List.append_eq_nil_iff, List.append_eq_nil_iff] at hsplit
      exact absurd hsplit.2.1 hlexeme.tokenText.ne_nil
  | some text =>
      cases s with
      | nowhere => cases hslice
      | within id a b => exact ⟨id, a, b, standsAt_ofSpan hslice⟩

/-- Tokens that come one after the other are read again, at the same places and without an error,
from the part of the text that starts with the first of them and ends with the last one. -/
theorem run_part {s : Span} {first last : Spanned Token}
    (hpart : ts <:+: (ofSpan r s).placedTokens) (hfirst : ts.head? = some first)
    (hlast : ts.getLast? = some last) :
    ∃ part, Span.between first.span.start last.span.stop = .ok part ∧
      (ofSpan r part).run.map (·.outcome) =
        ts.map .ok ++ [.ok ⟨.point last.span.stop, .endOfFile⟩] := by
  obtain ⟨id, _, _, hspan⟩ := exists_standsAt_ofSpan (hpart.subset (List.mem_of_head? hfirst))
  obtain ⟨earlier, later, hts⟩ := hpart
  rw [List.append_assoc] at hts
  obtain ⟨l, p, hstands, hplaced⟩ := exists_lexer_after hspan hts.symm
  obtain ⟨ts', rfl⟩ : ∃ ts', ts = first :: ts' := List.head?_eq_some_iff.mp hfirst
  obtain ⟨htoken, _⟩ := placedTokens_eq_cons_iff.mp hplaced
  obtain ⟨l', q, hstands', hplaced', hstart⟩ := exists_lexer_at_start hstands htoken
  have hprefix : first :: ts' <+: l'.placedTokens := ⟨later, by rw [hplaced', hplaced]⟩
  obtain ⟨before, after, hcut⟩ := exists_cut hstands'.position hprefix
  obtain ⟨last', hlast', hstop⟩ := hcut.stop
  obtain rfl : last = last' := Option.some.inj (hlast.symm.trans hlast')
  have hslice := hstands'.slice
  rw [← hcut.append] at hslice
  have hbefore := Registry.slice?_append_left hslice
  refine ⟨.within id q (q + before.length), ?_, ?_⟩
  · rw [hstart, hstop, Span.between, if_pos rfl, Nat.min_eq_left (Nat.le_add_right _ _),
      Nat.max_eq_right (Nat.le_add_right _ _)]
  · have hrest : (ofSpan r (.within id q (q + before.length))).rest = before := by
      rw [ofSpan, hbefore]
      rfl
    rw [hcut.reads _ rfl hrest, hstop]
    rfl

end

/-- From `+` to the end of `..`, between an ellipsis and a comment, in a text that ends in an
error. -/
theorem run_part_before_error :
    let f : SourceFile := ⟨"broken", "...+/*/*/..//;\n'".toList, some ⟨0⟩⟩
    (ofSpan ⟨[f]⟩ (.within ⟨0⟩ 3 11)).run.map (·.outcome) =
      [.ok ⟨.within ⟨0⟩ 3 4, .operator .plus⟩, .ok ⟨.within ⟨0⟩ 9 11, .unknown ".."⟩,
        .ok ⟨.within ⟨0⟩ 11 11, .endOfFile⟩] := by
  intro f
  have hpart : [⟨.within ⟨0⟩ 3 4, .operator .plus⟩, ⟨.within ⟨0⟩ 9 11, .unknown ".."⟩] <:+:
      (ofSpan ⟨[f]⟩ (.within ⟨0⟩ 0 16)).placedTokens := by decide +kernel
  obtain ⟨part, hbetween, hrun⟩ := run_part hpart rfl rfl
  cases hbetween
  exact hrun

end Frontend.Lexer
