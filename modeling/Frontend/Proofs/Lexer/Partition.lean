/- The tokens of a span and what is skipped around them make up its text. -/
import Frontend.Proofs.Lexer.Step
import Frontend.Proofs.Lexer.Trivia

namespace Frontend.Lexer

/-- What is skipped up to the text `rest`. Right after a separator this starts with all the blanks,
newlines and semicolons that follow it; the rest of it is blanks and comments. -/
def Skipped (afterSeparator : Bool) (text rest : List Char) : Prop :=
  ∃ trail trivia, text = trail ++ trivia ∧ Trivia trivia rest ∧
    trail = if afterSeparator then (text ++ rest).takeWhile isSeparatorTrail else []

/-- From the offset `a` on these tokens follow each other, with nothing but skipped text before
each of them and after the last one up to the offset `z`. The lexer sees the text up to `stop`. -/
inductive Tiling (r : Registry) (id : FileId) (stop : Nat) :
    Bool → Nat → List (Spanned Token) → Nat → Prop where
  | last {afterSeparator a z gap rest} (hgap : r.slice? (.within id a z) = some gap)
      (hrest : r.slice? (.within id z stop) = some rest)
      (hskipped : Skipped afterSeparator gap rest) : Tiling r id stop afterSeparator a [] z
  | token {afterSeparator a b c z gap text rest t ts}
      (hgap : r.slice? (.within id a b) = some gap)
      (htext : r.slice? (.within id b c) = some text)
      (hrest : r.slice? (.within id c stop) = some rest)
      (hskipped : Skipped afterSeparator gap (text ++ rest)) (hne : text ≠ [])
      (hspelled : Spelled t text) (hts : Tiling r id stop t.isSeparator c ts z) :
      Tiling r id stop afterSeparator a (⟨.within id b c, t⟩ :: ts) z

/-- What comes after the last token: the end of the text, or an error from `z` on. -/
inductive EndsAt (id : FileId) (stop : Nat) : Nat → Except LexError (Spanned Token) → Prop where
  | endOfFile : EndsAt id stop stop (.ok ⟨.within id stop stop, .endOfFile⟩)
  | error {e z c} (hspan : e.span = .within id z c) (hne : z < c) (hstop : c ≤ stop) :
      EndsAt id stop z (.error e)

/-- A lexer that stands after `trail`, with no token read yet since the offset `a`. -/
structure Resumes (r : Registry) (id : FileId) (stop : Nat) (afterSeparator : Bool) (a : Nat)
    (trail : List Char) (l : Lexer) : Prop where
  stands : StandsAt r id stop (a + trail.length) l
  slice : r.slice? (.within id a (a + trail.length)) = some trail
  eq_trail : trail = if afterSeparator then (trail ++ l.rest).takeWhile isSeparatorTrail else []

section
variable {r : Registry} {id : FileId} {stop : Nat} {afterSeparator : Bool} {a z p : Nat}
variable {trail : List Char} {l : Lexer} {ts : List (Spanned Token)}

theorem Resumes.skipped (h : Resumes r id stop afterSeparator a trail l) :
    Skipped afterSeparator (trail ++ (readGap l.rest).skipped) (readGap l.rest).rest := by
  refine ⟨trail, (readGap l.rest).skipped, rfl, trivia_readGap l.rest, ?_⟩
  rw [List.append_assoc, readGap_append]
  exact h.eq_trail

theorem Resumes.gap (h : Resumes r id stop afterSeparator a trail l) :
    r.slice? (.within id a (a + trail.length + (readGap l.rest).skipped.length)) =
      some (trail ++ (readGap l.rest).skipped) := by
  have hslice := h.stands.slice
  rw [← readGap_append l.rest] at hslice
  exact Registry.slice?_append h.slice (Registry.slice?_append_left hslice)

theorem Resumes.token {t : Token} (h : Resumes r id stop afterSeparator a trail l)
    (ht : (readGap l.rest).token.outcome = .ok t) (hused : (readGap l.rest).token.used ≠ [])
    (hts : Tiling r id stop t.isSeparator (a + trail.length + (readGap l.rest).skipped.length +
      (readGap l.rest).token.used.length) ts z) :
    Tiling r id stop afterSeparator a
      (⟨.within id (a + trail.length + (readGap l.rest).skipped.length)
        (a + trail.length + (readGap l.rest).skipped.length +
          (readGap l.rest).token.used.length), t⟩ :: ts) z := by
  have hslice := h.stands.atToken.slice
  have hskipped := h.skipped
  rw [← token_append l.rest] at hskipped
  rw [show l.atToken.rest = _ from (token_append l.rest).symm] at hslice
  exact .token h.gap (Registry.slice?_append_left hslice) h.stands.afterToken.slice hskipped hused
    (findsSpelled_token l.rest t ht) hts

/-- After a token the lexer resumes where the token ends. -/
theorem resumes_next {t : Token} (h : StandsAt r id stop p l)
    (ht : (readGap l.rest).token.outcome = .ok t) :
    ∃ trail, Resumes r id stop t.isSeparator
      (p + (readGap l.rest).skipped.length + (readGap l.rest).token.used.length) trail
      l.next.next := by
  rw [next_of_ok ht]
  dsimp only
  cases t.isSeparator with
  | false =>
      have hempty := Registry.slice?_append_left (u := []) h.afterToken.slice
      exact ⟨[], h.afterToken, hempty, rfl⟩
  | true =>
      have htrail : l.afterToken.rest.takeWhile isSeparatorTrail ++ l.afterToken.skipTrail.rest =
          l.afterToken.rest := List.takeWhile_append_dropWhile
      refine ⟨l.afterToken.rest.takeWhile isSeparatorTrail, h.afterToken.skipTrail, ?_, ?_⟩
      · have hslice := h.afterToken.slice
        rw [← htrail] at hslice
        exact Registry.slice?_append_left hslice
      · rw [if_pos rfl, if_pos rfl, htrail]

theorem tiling_run (l : Lexer) (h : Resumes r id stop afterSeparator a trail l) :
    ∃ ts last z, l.run.map (·.outcome) = ts.map .ok ++ [last] ∧ EndsAt id stop z last ∧
      Tiling r id stop afterSeparator a ts z := by
  induction l using run_induction generalizing afterSeparator a trail with
  | step l ih =>
      have hat := h.stands.atToken
      have hafter := h.stands.afterToken
      have hspan := hat.covering (readGap l.rest).token.used.length
      cases houtcome : (readGap l.rest).token.outcome with
      | error kind =>
          have hrest : (readGap l.rest).rest ≠ [] := by
            intro hnil
            rw [token_of_rest_nil hnil] at houtcome
            cases houtcome
          have hused := List.length_pos_iff.mpr (used_ne_nil_of_token hrest)
          have hlast := congrArg Step.outcome (next_of_error houtcome)
          refine ⟨[], l.next.outcome, _, ?_, ?_, .last h.gap hat.slice h.skipped⟩
          · rw [run_of_error hlast]
            rfl
          · rw [hlast]
            exact .error hspan (by omega) hafter.le_stop
      | ok t =>
          have hok := congrArg Step.outcome (next_of_ok houtcome)
          rw [hspan] at hok
          by_cases hrest : (readGap l.rest).rest = []
          · have hend : t = .endOfFile ∧ (readGap l.rest).token.used = [] := by
              rw [token_of_rest_nil hrest] at houtcome ⊢
              cases houtcome
              exact ⟨rfl, rfl⟩
            obtain ⟨rfl, hused⟩ := hend
            have hstop := hat.eq_stop hrest
            refine ⟨[], l.next.outcome, _, ?_, ?_, .last h.gap hat.slice h.skipped⟩
            · rw [run_of_end hok rfl]
              rfl
            · rw [hok, hused, hstop]
              exact .endOfFile
          · have hused := used_ne_nil_of_token hrest
            have htoken := Step.token?_eq_some_iff.mpr
              ⟨hok, (findsSpelled_token l.rest t houtcome).isEndOfFile_eq_false hused⟩
            obtain ⟨trail', hresumes⟩ := resumes_next h.stands houtcome
            obtain ⟨ts, last, z, hrun, hends, htiling⟩ := ih _ htoken hresumes
            refine ⟨_, last, z, ?_, hends, h.token houtcome hused htiling⟩
            rw [run_of_token htoken, List.map_cons, hrun, hok]
            rfl

theorem Tiling.le (h : Tiling r id stop afterSeparator a ts z) : a ≤ z := by
  induction h with
  | last hgap hrest hskipped =>
      have hlength := Registry.slice?_length hgap
      omega
  | token hgap htext hrest hskipped hne hspelled hts ih =>
      have hgapLength := Registry.slice?_length hgap
      have htextLength := Registry.slice?_length htext
      omega

/-- Each token has a span of its own within the stretch, and its spelling stands there. -/
theorem Tiling.of_mem (h : Tiling r id stop afterSeparator a ts z) {t : Spanned Token}
    (ht : t ∈ ts) :
    ∃ b c text, t.span = .within id b c ∧ a ≤ b ∧ b < c ∧ c ≤ z ∧
      r.slice? t.span = some text ∧ Spelled t.value text := by
  induction h with
  | last hgap hrest hskipped => cases ht
  | @token _ a b c z gap text rest u ts hgap htext hrest hskipped hne hspelled hts ih =>
      have hgapLength := Registry.slice?_length hgap
      have htextLength := Registry.slice?_length htext
      have hpos := List.length_pos_iff.mpr hne
      rcases List.mem_cons.mp ht with rfl | ht
      · exact ⟨b, c, text, rfl, by omega, by omega, hts.le, htext, hspelled⟩
      · obtain ⟨b', c', text', hspan, hstart, hlt, hstop, hslice, hspelled'⟩ := ih ht
        exact ⟨b', c', text', hspan, by omega, hlt, hstop, hslice, hspelled'⟩

theorem Tiling.pairwise (h : Tiling r id stop afterSeparator a ts z) :
    ts.Pairwise fun t u => t.span.stop.offset ≤ u.span.start.offset := by
  induction h with
  | last hgap hrest hskipped => exact .nil
  | token hgap htext hrest hskipped hne hspelled hts ih =>
      refine .cons ?_ ih
      intro u hu
      obtain ⟨b', c', text', hspan, hstart, _⟩ := hts.of_mem hu
      rw [hspan]
      exact hstart

/-- All that stands from the offset `a` up to and with the offset `p` are blanks and separators. -/
def InTrail (r : Registry) (id : FileId) (a p : Nat) : Prop :=
  a ≤ p ∧ ∃ run, r.slice? (.within id a (p + 1)) = some run ∧ ∀ c ∈ run, isSeparatorTrail c = true

/-- A comment that lies between the offsets `a` and `z` covers the offset `p`. -/
def InComment (r : Registry) (id : FileId) (stop a z p : Nat) : Prop :=
  ∃ b e comment next, a ≤ b ∧ b ≤ p ∧ p < e ∧ e ≤ z ∧
    r.slice? (.within id b e) = some comment ∧ r.slice? (.within id e stop) = some next ∧
      CommentText comment next

/-- What becomes of a newline or a semicolon at the offset `p`, for the tokens from the offset `a`
on: it lies in a token, or is skipped in the trail of a separator or in a comment. -/
inductive Accounted (r : Registry) (id : FileId) (stop a : Nat) (ts : List (Spanned Token))
    (p : Nat) : Prop where
  | token {t} (ht : t ∈ ts) (hstart : t.span.start.offset ≤ p) (hstop : p < t.span.stop.offset)
  | trail {t} (ht : t ∈ ts) (hseparator : t.value.isSeparator = true)
      (htrail : InTrail r id t.span.stop.offset p)
  | comment {x y} (hfrom : a ≤ x) (hcomment : InComment r id stop x y p)
      (hapart : ∀ t ∈ ts, t.span.stop.offset ≤ x ∨ y ≤ t.span.start.offset)

theorem Accounted.cons {b d : Nat} {t : Token} (h : Accounted r id stop d ts p) (hab : a ≤ b)
    (hbd : b ≤ d) : Accounted r id stop a (⟨.within id b d, t⟩ :: ts) p := by
  cases h with
  | token ht hstart hstop => exact .token (List.mem_cons_of_mem _ ht) hstart hstop
  | trail ht hseparator htrail => exact .trail (List.mem_cons_of_mem _ ht) hseparator htrail
  | comment hfrom hcomment hapart =>
      refine .comment (Nat.le_trans hab (Nat.le_trans hbd hfrom)) hcomment ?_
      intro u hu
      rcases List.mem_cons.mp hu with rfl | hu
      · exact .inl hfrom
      · exact hapart u hu

/-- A newline or a semicolon that is skipped belongs to a trail, or it stands in a comment. -/
theorem Skipped.trail_or_comment {before after rest : List Char} {c : Char}
    (h : Skipped afterSeparator (before ++ c :: after) rest) (hc : c = '\n' ∨ c = ';') :
    (afterSeparator = true ∧ ∀ d ∈ before ++ [c], isSeparatorTrail d = true) ∨
      ∃ left comment right, before ++ c :: after = left ++ comment ++ right ∧
        CommentText comment (right ++ rest) ∧ left.length ≤ before.length ∧
        before.length < left.length + comment.length := by
  obtain ⟨trail, trivia, htext, htrivia, htrail⟩ := h
  by_cases hlt : before.length < trail.length
  · -- Only what follows a separator has a trail.
    cases afterSeparator with
    | false =>
        rw [htrail] at hlt
        exact absurd hlt (Nat.not_lt_zero _)
    | true =>
        have hprefix : before ++ [c] <+: trail := by
          refine List.prefix_of_prefix_length_le ⟨after, ?_⟩ ⟨trivia, htext.symm⟩ ?_
          · simp only [List.append_assoc, List.singleton_append]
          · rw [List.length_append]
            exact hlt
        refine .inl ⟨rfl, ?_⟩
        intro d hd
        have hmem := hprefix.subset hd
        rw [htrail, if_pos rfl] at hmem
        exact List.mem_takeWhile_imp hmem
  · obtain ⟨later, rfl⟩ : trail <+: before :=
      List.prefix_of_prefix_length_le ⟨trivia, htext.symm⟩ ⟨c :: after, rfl⟩ (by omega)
    rw [List.append_assoc] at htext
    obtain ⟨left, comment, right, hsplit, hcomment, hle, hgt⟩ :=
      htrivia.separator_in_comment (List.append_cancel_left htext).symm hc
    refine .inr ⟨trail ++ left, comment, right, ?_, hcomment, ?_, ?_⟩
    · simp only [List.append_assoc, htext, hsplit]
    · simp only [List.length_append]
      omega
    · simp only [List.length_append]
      omega

theorem Skipped.separator {gap rest : List Char} {c : Char}
    (h : Skipped afterSeparator gap rest) (hgap : r.slice? (.within id a z) = some gap)
    (hrest : r.slice? (.within id z stop) = some rest) (hstart : a ≤ p) (hstop : p < z)
    (hp : r.slice? (.within id p (p + 1)) = some [c]) (hc : c = '\n' ∨ c = ';') :
    (afterSeparator = true ∧ InTrail r id a p) ∨ InComment r id stop a z p := by
  obtain ⟨before, after, rfl, hbefore, hleft, hright⟩ :=
    Registry.slice?_split hgap hstart (Nat.le_of_lt hstop)
  obtain ⟨char, after, rfl, _, hchar, hafter⟩ :=
    Registry.slice?_split hright (Nat.le_succ p) hstop
  obtain rfl : char = [c] := Option.some.inj (hchar.symm.trans hp)
  rw [List.singleton_append] at h hgap
  rcases h.trail_or_comment hc with htrail | hcomment
  · obtain ⟨hseparator, hall⟩ := htrail
    exact .inl ⟨hseparator, hstart, _, Registry.slice?_append hleft hchar, hall⟩
  · obtain ⟨left, comment, right, hsplit, hcomment, hle, hgt⟩ := hcomment
    rw [hsplit, List.append_assoc] at hgap
    have hpiece := Registry.slice?_append_right hgap
    have hpieceLength := Registry.slice?_length hpiece
    have hright := Registry.slice?_append_right hpiece
    rw [List.length_append] at hpieceLength
    exact .inr ⟨_, _, comment, right ++ rest, Nat.le_add_right _ _, by omega, by omega, by omega,
      Registry.slice?_append_left hpiece, Registry.slice?_append hright hrest, hcomment⟩

theorem Tiling.accounted {c : Char} (h : Tiling r id stop afterSeparator a ts z)
    (hstart : a ≤ p) (hstop : p < z)
    (hp : r.slice? (.within id p (p + 1)) = some [c]) (hc : c = '\n' ∨ c = ';') :
    (afterSeparator = true ∧ InTrail r id a p) ∨ Accounted r id stop a ts p := by
  induction h with
  | last hgap hrest hskipped =>
      rcases hskipped.separator hgap hrest hstart hstop hp hc with htrail | hcomment
      · exact .inl htrail
      · exact .inr (.comment (Nat.le_refl _) hcomment nofun)
  | @token _ a b d z gap text rest t ts hgap htext hrest hskipped hne hspelled hts ih =>
      have hmem : (⟨.within id b d, t⟩ : Spanned Token) ∈ ⟨.within id b d, t⟩ :: ts :=
        List.mem_cons_self
      have htextLength := Registry.slice?_length htext
      by_cases hbefore : p < b
      · have hnext := Registry.slice?_append htext hrest
        rcases hskipped.separator hgap hnext hstart hbefore hp hc with htrail | hcomment
        · exact .inl htrail
        · refine .inr (.comment (Nat.le_refl a) hcomment ?_)
          intro u hu
          refine .inr ?_
          rcases List.mem_cons.mp hu with rfl | hu
          · exact Nat.le_refl _
          · obtain ⟨x, y, _, hspan, hx, _⟩ := hts.of_mem hu
            rw [hspan]
            exact Nat.le_trans (htextLength ▸ Nat.le_add_right b _) hx
      · by_cases hinside : p < d
        · exact .inr (.token hmem (Nat.not_lt.mp hbefore) hinside)
        · rcases ih (Nat.not_lt.mp hinside) hstop with ⟨hseparator, htrail⟩ | hlater
          · exact .inr (.trail hmem hseparator htrail)
          · have hgapLength := Registry.slice?_length hgap
            exact .inr (hlater.cons (by omega) (by omega))

/-- Lexing loses nothing. The lexer gives tokens up to the end of the text or the first error. Their
spans are not empty, lie in order within the span that is read, and hold what the tokens are spelled
with; before each of them and after the last one stands nothing but what is skipped there. In
particular every newline and every semicolon outside of comments is, or follows, a separator, or it
lies in a literal. -/
theorem run_partition {f : SourceFile} {a b : Nat} (h : r.Encloses f id a b) :
    ∃ ts last z, (ofSpan r (.within id a b)).run.map (·.outcome) = ts.map .ok ++ [last] ∧
      EndsAt id b z last ∧ Tiling r id b false a ts z ∧
      (∀ t ∈ ts, ∃ x y text, t.span = .within id x y ∧ a ≤ x ∧ x < y ∧ y ≤ z ∧ z ≤ b ∧
        r.slice? t.span = some text ∧ Spelled t.value text) ∧
      (ts.Pairwise fun t u => t.span.stop.offset ≤ u.span.start.offset) ∧
      ∀ p c, a ≤ p → p < z → r.slice? (.within id p (p + 1)) = some [c] → (c = '\n' ∨ c = ';') →
        Accounted r id b a ts p := by
  obtain ⟨text, htext⟩ := h.slice?
  have hresumes : Resumes r id b false a [] (ofSpan r (.within id a b)) :=
    ⟨standsAt_ofSpan htext, Registry.slice?_append_left (u := []) htext, rfl⟩
  obtain ⟨ts, last, z, hrun, hends, htiling⟩ := tiling_run _ hresumes
  have hz : z ≤ b := by
    cases hends with
    | endOfFile => exact Nat.le_refl _
    | error hspan hne hstop => omega
  refine ⟨ts, last, z, hrun, hends, htiling, ?_, htiling.pairwise, ?_⟩
  · intro t ht
    obtain ⟨x, y, text, hspan, hx, hxy, hy, hslice, hspelled⟩ := htiling.of_mem ht
    exact ⟨x, y, text, hspan, hx, hxy, hy, hz, hslice, hspelled⟩
  · intro p c hstart hstop hp hc
    rcases htiling.accounted hstart hstop hp hc with ⟨hfalse, _⟩ | haccounted
    · cases hfalse
    · exact haccounted

end

/-- The semicolon of a comment after a byte order mark is accounted for. -/
theorem run_partition_past_mark :
    let f : SourceFile := ⟨"marked", ['\ufeff', 'a', '\n', '/', '/', ';', '\n', 'b'], some ⟨0⟩⟩
    ∃ ts, (ofSpan ⟨[f]⟩ (.within ⟨0⟩ 1 8)).run.map (·.outcome) =
        ts.map .ok ++ [.ok ⟨.within ⟨0⟩ 8 8, .endOfFile⟩] ∧
      Tiling ⟨[f]⟩ ⟨0⟩ 8 false 1 ts 8 ∧ Accounted ⟨[f]⟩ ⟨0⟩ 8 1 ts 5 := by
  intro f
  have h : Registry.Encloses ⟨[f]⟩ f ⟨0⟩ 1 8 := ⟨rfl, by decide, by decide, by decide⟩
  obtain ⟨ts, last, z, hrun, hends, htiling, _, _, haccounted⟩ := run_partition h
  have hlast : ((ofSpan ⟨[f]⟩ (.within ⟨0⟩ 1 8)).run.map (·.outcome)).getLast? =
      some (.ok ⟨.within ⟨0⟩ 8 8, .endOfFile⟩) := by decide +kernel
  rw [hrun, List.getLast?_concat] at hlast
  obtain rfl := Option.some.inj hlast
  cases hends with
  | endOfFile =>
      refine ⟨ts, hrun, htiling, ?_⟩
      exact haccounted 5 ';' (by decide) (by decide) (by decide) (.inr rfl)

end Frontend.Lexer
