/- What the text between two tokens is made of, and that all of it is skipped. -/
import Frontend.Lexer.Trivia
import Frontend.Proofs.Text.Run
import Mathlib.Data.List.TakeWhile

namespace Frontend.Lexer

/-- A comment before the text `next`. A line comment goes up to a newline or the end, a block
comment up to the first closing mark after its opening mark. -/
inductive CommentText : List Char → List Char → Prop where
  | line {body next} (hbody : '\n' ∉ body) (hnext : ∀ c ∈ next.head?, c = '\n') :
      CommentText ('/' :: '/' :: body) next
  | block {body next} (hfirst : ¬ ['*', '/'] <:+: body ++ ['*']) :
      CommentText ('/' :: '*' :: (body ++ ['*', '/'])) next

/-- Blanks and comments, in any order and number, before the text `rest`. -/
inductive Trivia : List Char → List Char → Prop where
  | nil {rest} : Trivia [] rest
  | blank {c text rest} (hwhite : Text.isWhitespace c = true) (hline : c ≠ '\n')
      (h : Trivia text rest) : Trivia (c :: text) rest
  | comment {comment text rest} (hcomment : CommentText comment (text ++ rest))
      (h : Trivia text rest) : Trivia (comment ++ text) rest

theorem isBlank_iff {c : Char} : isBlank c = true ↔ Text.isWhitespace c = true ∧ c ≠ '\n' := by
  simp [isBlank]

theorem Trivia.blanks {blanks text rest : List Char} (hblanks : ∀ c ∈ blanks, isBlank c = true)
    (h : Trivia text rest) : Trivia (blanks ++ text) rest := by
  induction blanks with
  | nil => exact h
  | cons c cs ih =>
      obtain ⟨hwhite, hline⟩ := isBlank_iff.mp (hblanks c List.mem_cons_self)
      exact .blank hwhite hline (ih fun d hd => hblanks d (List.mem_cons_of_mem c hd))

/-- The closing mark that is found is the first one. -/
theorem commentBody?_spec {text found rest : List Char}
    (h : commentBody? text = some (found, rest)) :
    ∃ body, found = body ++ ['*', '/'] ∧ ¬ ['*', '/'] <:+: body ++ ['*'] := by
  fun_induction commentBody? text generalizing found rest with
  | case1 => cases h
  | case2 cs =>
      cases h
      exact ⟨[], rfl, by decide⟩
  | case3 c cs hopen ih =>
      obtain ⟨⟨found', rest'⟩, hfound, hpair⟩ := Option.map_eq_some_iff.mp h
      cases hpair
      obtain ⟨body, rfl, hfirst⟩ := ih hfound
      refine ⟨c :: body, rfl, ?_⟩
      intro hmark
      rcases List.infix_cons_iff.mp hmark with hprefix | hlater
      · -- The mark would have been found right here.
        have htext := append_of_commentBody? hfound
        cases body with
        | nil =>
            obtain ⟨_, hslash⟩ := List.cons_prefix_cons.mp hprefix
            exact absurd hslash (by decide)
        | cons d body =>
            obtain ⟨rfl, hslash⟩ := List.cons_prefix_cons.mp hprefix
            obtain ⟨rfl, _⟩ := List.cons_prefix_cons.mp hslash
            exact hopen _ rfl htext.symm
      · exact hfirst hlater

theorem commentBody?_of_first {body : List Char} (hfirst : ¬ ['*', '/'] <:+: body ++ ['*'])
    (rest : List Char) :
    commentBody? (body ++ '*' :: '/' :: rest) = some (body ++ ['*', '/'], rest) := by
  induction body with
  | nil => rfl
  | cons c body ih =>
      have hbody := ih fun hmark => hfirst (hmark.trans (List.suffix_cons _ _).isInfix)
      have hopen : ∀ cs, c = '*' → body ++ '*' :: '/' :: rest = '/' :: cs → False := by
        rintro cs rfl hslash
        cases body with
        | nil => cases hslash
        | cons d body =>
            cases hslash
            exact hfirst ⟨[], body ++ ['*'], rfl⟩
      rw [List.cons_append, commentBody?.eq_3 _ _ hopen, hbody]
      rfl

theorem readComment_spec {text used rest : List Char} (h : readComment text = .closed used rest) :
    CommentText used rest := by
  unfold readComment at h
  split at h
  · rename_i cs
    cases h
    refine .line ?_ ?_
    · intro hmem
      simpa using List.mem_takeWhile_imp hmem
    · intro c hc
      simpa using Text.head_dropWhile cs c hc
  · rename_i cs
    split at h
    · rename_i found rest' hfound
      cases h
      obtain ⟨body, rfl, hfirst⟩ := commentBody?_spec hfound
      exact .block hfirst
    · cases h
  · cases h

theorem readComment_of_commentText {comment next : List Char} (h : CommentText comment next) :
    readComment (comment ++ next) = .closed comment next := by
  cases h with
  | @line body _ hbody hnext =>
      have hinside : ∀ c ∈ body, decide (c ≠ '\n') = true := by
        intro c hc
        refine decide_eq_true ?_
        rintro rfl
        exact hbody hc
      have hafter : ∀ c ∈ next.head?, decide (c ≠ '\n') = false := by
        intro c hc
        simp [hnext c hc]
      simp only [List.cons_append, readComment, Text.takeWhile_append_of_head hinside hafter,
        Text.dropWhile_append_of_head hinside hafter]
  | @block body _ hfirst =>
      simp only [List.cons_append, List.append_assoc, List.nil_append, readComment,
        commentBody?_of_first hfirst]

theorem not_close_of_commentBody? {text : List Char} (h : commentBody? text = none) :
    ¬ ['*', '/'] <:+: text := by
  fun_induction commentBody? text with
  | case1 => simp
  | case2 cs => cases h
  | case3 c cs hopen ih =>
      intro hclose
      rcases List.infix_cons_iff.mp hclose with hprefix | hlater
      · obtain ⟨rfl, rest, rfl⟩ := List.cons_prefix_cons.mp hprefix
        exact hopen rest rfl rfl
      · exact ih (Option.map_eq_none_iff.mp h) hlater

theorem exists_body_of_readComment {text : List Char} (h : readComment text = .unclosed) :
    ∃ body, text = '/' :: '*' :: body ∧ ¬ ['*', '/'] <:+: body := by
  unfold readComment at h
  split at h
  · cases h
  · split at h
    · cases h
    · rename_i hbody
      exact ⟨_, rfl, not_close_of_commentBody? hbody⟩
  · cases h

/-- A block comment without end is what reading stops at. -/
theorem exists_body_of_unclosed {text : List Char} (h : (readGap text).unclosed = true) :
    ∃ body, (readGap text).rest = '/' :: '*' :: body ∧ ¬ ['*', '/'] <:+: body := by
  fun_induction readGap text with
  | case1 => cases h
  | case2 text hc => exact exists_body_of_readComment hc
  | case3 text used rest hc ih => exact ih h

/-- What a gap skips is blanks and comments. -/
theorem trivia_readGap (text : List Char) : Trivia (readGap text).skipped (readGap text).rest := by
  fun_induction readGap text with
  | case1 text _ =>
      simpa using Trivia.blanks (fun c hc => List.mem_takeWhile_imp hc) .nil
  | case2 text _ =>
      simpa using Trivia.blanks (fun c hc => List.mem_takeWhile_imp hc) .nil
  | case3 text used rest h ih =>
      have hcomment := readComment_spec h
      rw [← readGap_append rest] at hcomment
      rw [Gap.after, List.append_assoc]
      exact Trivia.blanks (fun c hc => List.mem_takeWhile_imp hc) (.comment hcomment ih)

/-- Nothing can be skipped before this text. -/
structure Settled (text : List Char) : Prop where
  blank : ∀ c ∈ text.head?, isBlank c = false
  comment : readComment text = .absent

theorem readGap_eq (text : List Char) :
    readGap text =
      match readComment (text.dropWhile isBlank) with
      | .absent => ⟨text.takeWhile isBlank, false, text.dropWhile isBlank⟩
      | .unclosed => ⟨text.takeWhile isBlank, true, text.dropWhile isBlank⟩
      | .closed used rest => (readGap rest).after (text.takeWhile isBlank ++ used) := by
  rw [readGap]
  split
  · rename_i h
    rw [h]
  · rename_i h
    rw [h]
  · rename_i h
    rw [h]

theorem readGap_of_settled {text : List Char} (h : Settled text) :
    readGap text = ⟨[], false, text⟩ := by
  rw [readGap_eq, Text.dropWhile_eq_self_of_head h.blank, h.comment,
    Text.takeWhile_eq_nil_of_head h.blank]

theorem readGap_cons_of_isBlank {c : Char} (hc : isBlank c = true) (text : List Char) :
    readGap (c :: text) = (readGap text).after [c] := by
  rw [readGap_eq, readGap_eq text, List.dropWhile_cons_of_pos hc, List.takeWhile_cons_of_pos hc]
  split
  · rfl
  · rfl
  · rfl

theorem readGap_commentText {comment next : List Char} (h : CommentText comment next) :
    readGap (comment ++ next) = (readGap next).after comment := by
  have hslash : ∀ c ∈ (comment ++ next).head?, isBlank c = false := by
    intro c hc
    cases h with
    | line => cases hc; rfl
    | block => cases hc; rfl
  rw [readGap_eq, Text.dropWhile_eq_self_of_head hslash, readComment_of_commentText h,
    Text.takeWhile_eq_nil_of_head hslash]
  rfl

/-- There is one way only to skip up to a text in front of which nothing can be skipped. -/
theorem readGap_of_trivia {text rest : List Char} (h : Trivia text rest) (hrest : Settled rest) :
    readGap (text ++ rest) = ⟨text, false, rest⟩ := by
  induction h with
  | nil => exact readGap_of_settled hrest
  | @blank c text rest hwhite hline h ih =>
      rw [List.cons_append, readGap_cons_of_isBlank (isBlank_iff.mpr ⟨hwhite, hline⟩), ih hrest]
      rfl
  | comment hcomment h ih =>
      rw [List.append_assoc, readGap_commentText hcomment, ih hrest]
      rfl

/-- A newline or a semicolon that is skipped stands in a comment. -/
theorem Trivia.separator_in_comment {text rest before after : List Char} {c : Char}
    (h : Trivia text rest) (htext : text = before ++ c :: after) (hc : c = '\n' ∨ c = ';') :
    ∃ left comment right, text = left ++ comment ++ right ∧ CommentText comment (right ++ rest) ∧
      left.length ≤ before.length ∧ before.length < left.length + comment.length := by
  induction h generalizing before with
  | nil => simp at htext
  | @blank d text rest hwhite hline h ih =>
      cases before with
      | nil =>
          cases htext
          rcases hc with rfl | rfl
          · exact absurd rfl hline
          · exact absurd hwhite (by decide)
      | cons e before =>
          cases htext
          obtain ⟨left, comment, right, hsplit, hcomment, hstart, hstop⟩ := ih rfl
          refine ⟨d :: left, comment, right, congrArg (List.cons d) hsplit, hcomment, ?_, ?_⟩
          · exact Nat.succ_le_succ hstart
          · rw [List.length_cons, List.length_cons]
            omega
  | @comment comment text rest hcomment h ih =>
      by_cases hinside : before.length < comment.length
      · exact ⟨[], comment, text, rfl, hcomment, Nat.zero_le _, by simpa using hinside⟩
      · obtain ⟨later, rfl⟩ : comment <+: before :=
          List.prefix_of_prefix_length_le ⟨text, htext⟩ ⟨c :: after, rfl⟩ (by omega)
        rw [List.append_assoc] at htext
        obtain ⟨left, comment', right, hsplit, hcomment', hstart, hstop⟩ :=
          ih (List.append_cancel_left htext)
        rw [List.length_append]
        refine ⟨comment ++ left, comment', right, ?_, hcomment', ?_, ?_⟩
        · rw [hsplit]
          simp only [List.append_assoc]
        · rw [List.length_append]
          omega
        · rw [List.length_append]
          omega

end Frontend.Lexer
