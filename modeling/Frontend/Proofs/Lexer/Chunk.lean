/- A span is read into all of its tokens, or a single fatal report says where reading failed. -/
import Frontend.Lexer.Chunk
import Frontend.Proofs.Lexer.Cursor
import Frontend.Proofs.Lexer.Partition

namespace Frontend

namespace TokenStream

/-- What a stream gives when it is asked once more after `n` times. -/
def item (s : TokenStream) (n : Nat) : Option (Except LexError (Spanned Token)) :=
  ((fun s => s.next?.2)^[n] s).next?.1

theorem item_zero (s : TokenStream) : s.item 0 = s.next?.1 := rfl

theorem item_succ (s : TokenStream) (n : Nat) : s.item (n + 1) = s.next?.2.item n := by
  rw [item, Function.iterate_succ_apply]
  rfl

theorem item_of_finished (l : Lexer) (n : Nat) : (⟨l, true⟩ : TokenStream).item n = none := by
  induction n with
  | zero => rfl
  | succ n ih =>
      rw [item_succ]
      exact ih

end TokenStream

namespace Lexer

/-- Asked for the next token again and again, a lexer gives these tokens up to the end of the text
or up to an error, and is left as the second lexer. -/
inductive Gives : Lexer → List (Spanned Token) → Option LexError → Lexer → Prop where
  | ended {l t} (hok : l.next.outcome = .ok t) (hend : t.value.isEndOfFile = true) :
      Gives l [] none l.next.next
  | failed {l e} (herror : l.next.outcome = .error e) : Gives l [] (some e) l.next.next
  | token {l t ts e? last} (hok : l.next.outcome = .ok t) (hend : t.value.isEndOfFile = false)
      (h : Gives l.next.next ts e? last) : Gives l (t :: ts) e? last

/-- What no token can be read from, before the text `rest`: a block comment that is not closed, a
character or string literal, or a control character. -/
inductive Faulty : LexErrorKind → List Char → List Char → Prop where
  | comment {body} (hopen : ¬ ['*', '/'] <:+: body) :
      Faulty .unexpectedEndOfFile ('/' :: '*' :: body) []
  | literal {kind quote body rest} (hquote : quote = '\'' ∨ quote = '"') :
      Faulty kind (quote :: body) rest
  | control {c rest} (hcontrol : Text.isControl c = true) : Faulty (.invalidCharacter c) [c] rest

theorem faulty_of_unclosed {text : List Char} (h : (readGap text).unclosed = true) :
    Faulty .unexpectedEndOfFile (readGap text).rest [] := by
  obtain ⟨body, hbody, hopen⟩ := exists_body_of_unclosed h
  rw [hbody]
  exact .comment hopen

theorem faulty_readToken {text : List Char} {kind : LexErrorKind}
    (h : (readToken text).outcome = .error kind) :
    Faulty kind (readToken text).used (readToken text).rest := by
  revert h
  unfold readToken
  split
  · exact nofun
  · exact nofun
  · exact nofun
  · exact fun _ => .literal (.inl rfl)
  · exact fun _ => .literal (.inr rfl)
  · exact nofun
  · exact nofun
  · split
    · exact nofun
    · split
      · exact nofun
      · split
        · rename_i hcontrol
          rintro ⟨⟩
          exact .control hcontrol
        · exact nofun

theorem faulty_token {text : List Char} {kind : LexErrorKind}
    (h : (readGap text).token.outcome = .error kind) :
    Faulty kind (readGap text).token.used (readGap text).token.rest := by
  unfold Gap.token at h ⊢
  split
  · rename_i hunclosed
    rw [if_pos hunclosed] at h
    cases h
    exact faulty_of_unclosed hunclosed
  · rename_i hclosed
    rw [if_neg hclosed] at h
    exact faulty_readToken h

section
variable {l last : Lexer} {ts : List (Spanned Token)} {e? : Option LexError} {e : LexError}
variable {r : Registry} {id : FileId} {stop p : Nat}

theorem exists_gives (l : Lexer) : ∃ ts e? last, Gives l ts e? last := by
  induction l using run_induction with
  | step l ih =>
      cases houtcome : l.next.outcome with
      | error e => exact ⟨_, _, _, .failed houtcome⟩
      | ok t =>
          cases hend : t.value.isEndOfFile with
          | true => exact ⟨_, _, _, .ended houtcome hend⟩
          | false =>
              obtain ⟨ts, e?, last, h⟩ := ih t (Step.token?_eq_some_iff.mpr ⟨houtcome, hend⟩)
              exact ⟨_, _, _, .token houtcome hend h⟩

theorem Gives.placedTokens_eq (h : Gives l ts e? last) : l.placedTokens = ts := by
  induction h with
  | ended hok hend => exact placedTokens_of_none (by simp [Step.token?, hok, hend])
  | failed herror => exact placedTokens_of_none (by simp [Step.token?, herror])
  | token hok hend h ih =>
      rw [placedTokens_of_some (Step.token?_eq_some_iff.mpr ⟨hok, hend⟩), ih]

theorem Gives.findSome?_eq (h : Gives l ts e? last) : l.run.findSome? (·.error?) = e? := by
  induction h with
  | ended hok hend => simp [run_of_end hok hend, Step.error?, hok]
  | failed herror => simp [run_of_error herror, Step.error?, herror]
  | token hok hend h ih =>
      rw [run_of_token (Step.token?_eq_some_iff.mpr ⟨hok, hend⟩), List.findSome?_cons, ih]
      simp [Step.error?, hok]

/-- The run of a lexer that fails ends with the error. -/
theorem Gives.outcomes_eq (h : Gives l ts (some e) last) :
    l.run.map (·.outcome) = ts.map .ok ++ [.error e] := by
  generalize he : some e = e? at h
  induction h with
  | ended => cases he
  | failed herror =>
      cases he
      rw [run_of_error herror, List.map_singleton, herror]
      rfl
  | token hok hend h ih =>
      rw [run_of_token (Step.token?_eq_some_iff.mpr ⟨hok, hend⟩), List.map_cons, ih he, hok]
      rfl

/-- In a file, the error lies over the characters that no token can be read from, and the lexer is
left right after them. -/
theorem Gives.exists_faulty (h : Gives l ts (some e) last) (hl : StandsAt r id stop p l) :
    ∃ z c text rest, e.span = .within id z c ∧ r.slice? (.within id z c) = some text ∧
      r.slice? (.within id c stop) = some rest ∧ Faulty e.kind text rest ∧
      last.position = .inFile id c ∧ last.location = e.location := by
  generalize he : some e = e? at h
  induction h generalizing p with
  | ended => cases he
  | @failed l e herror =>
      cases he
      cases houtcome : (readGap l.rest).token.outcome with
      | ok t =>
          rw [next_of_ok houtcome] at herror
          cases herror
      | error kind =>
          rw [next_of_error houtcome] at herror ⊢
          cases herror
          have hslice := hl.atToken.slice
          rw [show l.atToken.rest = _ from (token_append l.rest).symm] at hslice
          exact ⟨_, _, _, _, hl.atToken.covering _, Registry.slice?_append_left hslice,
            hl.afterToken.slice, faulty_token houtcome, hl.afterToken.position, rfl⟩
  | token hok hend h ih =>
      obtain ⟨q, hq⟩ := hl.next
      exact ih hq he

/-- The stream of a lexer gives its tokens and then the error, if any, and nothing ever after. -/
theorem Gives.item_eq (h : Gives l ts e? last) (n : Nat) :
    (⟨l, false⟩ : TokenStream).item n = (ts.map .ok ++ (e?.map .error).toList)[n]? := by
  induction h generalizing n with
  | @ended l t hok hend =>
      have hnext : (⟨l, false⟩ : TokenStream).next? = (none, ⟨l.next.next, true⟩) := by
        simp [TokenStream.next?, Step.isEnd, hok, hend]
      cases n with
      | zero => rw [TokenStream.item_zero, hnext]; rfl
      | succ n => rw [TokenStream.item_succ, hnext, TokenStream.item_of_finished]; rfl
  | @failed l e herror =>
      have hnext : (⟨l, false⟩ : TokenStream).next? = (some (.error e), ⟨l.next.next, true⟩) := by
        simp [TokenStream.next?, Step.isEnd, Step.error?, herror]
      cases n with
      | zero => rw [TokenStream.item_zero, hnext]; rfl
      | succ n => rw [TokenStream.item_succ, hnext, TokenStream.item_of_finished]; rfl
  | @token l t ts e? last hok hend h ih =>
      have hnext : (⟨l, false⟩ : TokenStream).next? = (some (.ok t), ⟨l.next.next, false⟩) := by
        simp [TokenStream.next?, Step.isEnd, Step.error?, hok, hend]
      cases n with
      | zero => rw [TokenStream.item_zero, hnext]; rfl
      | succ n =>
          rw [TokenStream.item_succ, hnext, ih]
          rfl

end

end Lexer

/-- These are the tokens of a chunk, and nothing was reported. -/
def Chunk.Yields {σ : Type} (chunk : Chunk σ) (sink : σ) (ts : List (Spanned Token)) : Prop :=
  chunk.outcome = .tokens ts ∧ chunk.sink = sink

/-- A chunk has no tokens, and one fatal report was added to those there were. -/
def Chunk.Stops (chunk : Chunk Collected) (sink : Collected) (span : Span) (msg : Message) : Prop :=
  chunk.outcome = .stopped ∧ chunk.sink =
    { sink with reports := sink.reports ++ [⟨.fatal, span, msg.inLocale sink.locale⟩] }

namespace Registry

variable {r : Registry} {span : Span} {sink : Collected} {ts : List (Spanned Token)}
variable {e? : Option LexError} {e : LexError} {last : Lexer} {text : List Char}

theorem lexChunk_of_none (h : r.slice? span = none) :
    (r.lexChunk span sink).Stops sink span noFileMessage := by
  rw [lexChunk, h]
  exact ⟨rfl, rfl⟩

theorem lexChunk_of_tokens (htext : r.slice? span = some text)
    (h : (Lexer.ofSpan r span).Gives ts none last) : (r.lexChunk span sink).Yields sink ts := by
  rw [lexChunk, htext]
  dsimp only
  rw [h.findSome?_eq]
  exact ⟨congrArg _ h.placedTokens_eq, rfl⟩

theorem lexChunk_of_error (htext : r.slice? span = some text)
    (h : (Lexer.ofSpan r span).Gives ts (some e) last) :
    (r.lexChunk span sink).Stops sink e.span e.kind.message := by
  rw [lexChunk, htext]
  dsimp only
  rw [h.findSome?_eq]
  exact ⟨rfl, rfl⟩

/-- Within a file the first error stands behind the tokens, where a comment, a literal or a control
character starts, and the lexer is left at its end. -/
theorem exists_place_of_error {f : SourceFile} {id : FileId} {a b : Nat}
    (hencloses : r.Encloses f id a b) (hid : f.id? = some id)
    (h : (Lexer.ofSpan r (.within id a b)).Gives ts (some e) last) :
    ∃ z c text rest, e.span = .within id z c ∧ a ≤ z ∧ z < c ∧ c ≤ b ∧
      Lexer.Tiling r id b false a ts z ∧
      r.slice? (.within id z c) = some text ∧ r.slice? (.within id c b) = some rest ∧
      Lexer.Faulty e.kind text rest ∧ last.position = .inFile id c ∧
      last.location = e.location ∧ (f.linesOf? e.span).isSome = true := by
  obtain ⟨whole, hwhole⟩ := hencloses.slice?
  obtain ⟨z, c, text, rest, hspan, htext, hrest, hfaulty, hposition, hlocation⟩ :=
    h.exists_faulty (Lexer.standsAt_ofSpan hwhole)
  obtain ⟨ts', final, z', hrun, hends, htiling, _⟩ := Lexer.run_partition hencloses
  rw [h.outcomes_eq] at hrun
  obtain ⟨htokens, hfinal⟩ := List.append_inj' hrun rfl
  obtain rfl : ts = ts' := (List.map_inj_right fun _ _ => Except.ok.inj).mp htokens
  cases hfinal
  cases hends with
  | error hspan' hne hstop =>
      obtain ⟨_, rfl, rfl⟩ := Span.within.inj (hspan.symm.trans hspan')
      have hz := htiling.le
      have hstart := hencloses.start_le
      have hend := hencloses.le_stop
      have hends := SourceFile.lineEnds?_within hid (Nat.le_trans hstart hz) (Nat.le_of_lt hne)
        (Nat.le_trans hstop hend)
      refine ⟨z, c, text, rest, hspan, hz, hne, hstop, htiling, htext, hrest, hfaulty, hposition,
        hlocation, ?_⟩
      rw [hspan, SourceFile.linesOf?_of_lineEnds? hends]
      rfl

/-- A span is read as a whole or not at all. Without an error its tokens are given and nothing is
reported; otherwise there are no tokens, and one fatal report is added, at the first error or, where
the span has no text, at the span. The stream of tokens gives the same tokens and the same error,
and nothing after that. Within a file an error covers the characters from the start of the comment,
the literal or the control character at fault up to the cursor, and the lines that it touches are
known. -/
theorem lexChunk_whole (files : List SourceFile) (span : Span) (sink : Collected) :
    let r := ofFiles files
    ∃ ts e? last, (Lexer.ofSpan r span).Gives ts e? last ∧
      (r.slice? span = none → (r.lexChunk span sink).Stops sink span noFileMessage) ∧
      (∀ text, r.slice? span = some text →
        (e? = none → (r.lexChunk span sink).Yields sink ts) ∧
          ∀ e, e? = some e → (r.lexChunk span sink).Stops sink e.span e.kind.message) ∧
      (∀ n, (⟨Lexer.ofSpan r span, false⟩ : TokenStream).item n =
        (ts.map .ok ++ (e?.map .error).toList)[n]?) ∧
      ∀ f id a b e, span = .within id a b → r.Encloses f id a b → e? = some e →
        ∃ z c text rest, e.span = .within id z c ∧ a ≤ z ∧ z < c ∧ c ≤ b ∧
          Lexer.Tiling r id b false a ts z ∧
          r.slice? (.within id z c) = some text ∧ r.slice? (.within id c b) = some rest ∧
          Lexer.Faulty e.kind text rest ∧ last.position = .inFile id c ∧
          last.location = e.location ∧ (f.linesOf? e.span).isSome = true := by
  intro r
  obtain ⟨ts, e?, last, hgives⟩ := Lexer.exists_gives (Lexer.ofSpan r span)
  refine ⟨ts, e?, last, hgives, lexChunk_of_none, ?_, hgives.item_eq, ?_⟩
  · intro text htext
    refine ⟨?_, ?_⟩
    · rintro rfl
      exact lexChunk_of_tokens htext hgives
    · rintro e rfl
      exact lexChunk_of_error htext hgives
  · rintro f id a b e rfl hencloses rfl
    exact exists_place_of_error hencloses (numbered_ofFiles files id f hencloses.file) hgives

/-- A string that is not closed, in the second file and after a byte order mark. -/
theorem lexChunk_whole_in_string :
    let f : SourceFile := ⟨"marked", ['\ufeff', 'a', ' ', '"', 'x'], some ⟨1⟩⟩
    let r := ofFiles [⟨"empty", [], none⟩, f]
    let sink : Collected := ⟨.unknown, [⟨.note, .nowhere, "earlier"⟩]⟩
    ∃ msg, (r.lexChunk (.within ⟨1⟩ 1 5) sink).Stops sink (.within ⟨1⟩ 3 5) msg ∧
      (f.linesOf? (.within ⟨1⟩ 3 5)).isSome = true := by
  intro f r sink
  obtain ⟨ts, e?, last, hgives, _, hchunk, _, hplace⟩ :=
    lexChunk_whole [⟨"empty", [], none⟩, f] (.within ⟨1⟩ 1 5) sink
  have hspan : ((Lexer.ofSpan r (.within ⟨1⟩ 1 5)).run.findSome? (·.error?)).map (·.span) =
      some (.within ⟨1⟩ 3 5) := by decide +kernel
  rw [hgives.findSome?_eq] at hspan
  obtain ⟨e, he, hspan⟩ := Option.map_eq_some_iff.mp hspan
  have hencloses : r.Encloses f ⟨1⟩ 1 5 := ⟨rfl, by decide, by decide, by decide⟩
  obtain ⟨_, _, _, _, _, _, _, _, _, _, _, _, _, _, hlines⟩ := hplace f ⟨1⟩ 1 5 e rfl hencloses he
  have hstops := (hchunk ['a', ' ', '"', 'x'] rfl).2 e he
  rw [hspan] at hstops hlines
  exact ⟨_, hstops, hlines⟩

end Registry

end Frontend
