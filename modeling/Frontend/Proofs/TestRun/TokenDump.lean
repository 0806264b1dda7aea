/- The output for a text that is read into tokens: how far it tells which tokens these are. -/
import Frontend.Proofs.Lexer.OperatorRun
import Frontend.Proofs.Source.Registration
import Frontend.Proofs.TestRun.SpanMark
import Frontend.Proofs.Token.Debug

namespace Frontend

open SpanMark (Occurs erase isMarkChar)

section
variable {text : List Char}

theorem not_occurs_of_not_mem (h : '@' ∉ text) : ¬ Occurs text := by
  rintro ⟨before, c, after, rfl, _⟩
  exact h (List.mem_append_right before List.mem_cons_self)

theorem at_not_mem_of_forall {p : Char → Bool} (hat : p '@' = false)
    (h : ∀ c ∈ text, p c = true) : '@' ∉ text := by
  intro hmem
  exact Bool.false_ne_true (hat.symm.trans (h '@' hmem))

end

/-- Nothing in the spelling of the token looks like a place. -/
def Token.Unmarked (t : Token) : Prop :=
  ∀ text, t.spelling? = some text → ¬ Occurs text.toList

namespace Lexer

variable {t : Token} {text next : List Char}

/-- An `@` is a token of its own, so only a string literal has one with something after it. -/
theorem TokenText.not_occurs (h : TokenText t text next) (hspelling : t.spelling?.isSome = true) :
    ¬ Occurs text := by
  cases h with
  | newline => exact not_occurs_of_not_mem (by decide)
  | semicolon => exact not_occurs_of_not_mem (by decide)
  | ellipsis => exact not_occurs_of_not_mem (by decide)
  | character => cases hspelling
  | string => cases hspelling
  | numberSign hword =>
      have hat := at_not_mem_of_forall (by decide) hword
      exact not_occurs_of_not_mem fun hmem => by simp [hat] at hmem
  | word hc hword =>
      exact not_occurs_of_not_mem
        (at_not_mem_of_forall (by decide) (List.forall_mem_cons.mpr ⟨hc, hword⟩))
  | operator hc _ hrun =>
      have hoperators := (operatorRun_of_scan hrun).operators
      exact not_occurs_of_not_mem
        (at_not_mem_of_forall (by decide) (List.forall_mem_cons.mpr ⟨hc, hoperators⟩))
  | sign =>
      rintro ⟨before, c, after, htext, _⟩
      have hlength := congrArg List.length htext
      simp only [List.length_cons, List.length_append, List.length_nil] at hlength
      omega

theorem TokenText.unmarked (h : TokenText t text next) : t.Unmarked := by
  have hspelled := findsSpelled_readToken (text ++ next) t
  rw [readToken_append h] at hspelled
  intro spelling hspelling
  have hoccurs := h.not_occurs (Option.isSome_of_eq_some hspelling)
  cases hspelled rfl with
  | char => cases hspelling
  | string => cases hspelling
  | word hword =>
      cases hword.symm.trans hspelling
      rwa [String.toList_ofList]

theorem unmarked_of_mem_placedTokens (l : Lexer) : ∀ t ∈ l.placedTokens, t.value.Unmarked := by
  induction l using run_induction with
  | step l ih =>
      cases htoken : l.next.token? with
      | none => simp [placedTokens_of_none htoken]
      | some t =>
          rw [placedTokens_of_some htoken]
          exact List.forall_mem_cons.mpr ⟨(lexeme_of_next htoken).tokenText.unmarked, ih t htoken⟩

end Lexer

/-- Wherever the text stands, `left` is left of it. -/
def ErasesTo (text left : String) : Prop :=
  ∀ next, erase (text.toList ++ next) = left.toList ++ erase next

/-- A string literal without everything in it that looks like a place; any other token as it is. -/
def Token.withoutMarks : Token → Token
  | string s => string (String.ofList (erase s.toList))
  | t => t

/-- A string literal has something in it that looks like a place. -/
def Token.Marked (t : Token) : Prop := ∃ s, t = string s ∧ Occurs s.toList

section
variable {word text left text' left' : String} {t : Token}

theorem ErasesTo.append (h : ErasesTo text left) (h' : ErasesTo text' left') :
    ErasesTo (text ++ text') (left ++ left') := by
  intro next
  rw [String.toList_append, List.append_assoc, h, h', String.toList_append, List.append_assoc]

theorem erasesTo_self (h : '@' ∉ text.toList) : ErasesTo text text :=
  SpanMark.erase_append h

theorem erasesTo_quoteText (s : String) :
    ErasesTo (Text.quoteText s) (Text.quoteText (String.ofList (erase s.toList))) :=
  SpanMark.erase_quoteText s

theorem erasesTo_quoteText_self (h : ¬ Occurs text.toList) :
    ErasesTo (Text.quoteText text) (Text.quoteText text) := by
  have hquoted := erasesTo_quoteText text
  rwa [SpanMark.erase_eq_self_iff.mpr h, String.ofList_toList] at hquoted

theorem erasesTo_toString (n : Nat) : ErasesTo (toString n) (toString n) := by
  refine erasesTo_self (at_not_mem_of_forall (p := Char.isDigit) (by decide) ?_)
  rw [Text.toList_toString]
  exact fun c hc => Text.isDigit_of_mem_toDigits hc

theorem Named.erasesTo {α : Type} {all : List α} {name : α → String} (h : Named all name) (a : α) :
    ErasesTo (name a) (name a) :=
  erasesTo_self (at_not_mem_of_forall (by decide) (h.letters a))

theorem ErasesTo.enclosed (hword : '@' ∉ word.toList) (h : ErasesTo text left) :
    ErasesTo (word ++ text ++ ")") (word ++ left ++ ")") :=
  ((erasesTo_self hword).append h).append (erasesTo_self (by decide))

/-- In the text of a token only a string literal can lose something. -/
theorem erasesTo_debug (h : t.Unmarked) : ErasesTo t.debug t.withoutMarks.debug := by
  cases t with
  | number raw value =>
      refine .append (.append (.append (.append ?_ ?_) ?_) ?_) ?_
      · exact erasesTo_self (by decide)
      · exact erasesTo_quoteText_self (h raw rfl)
      · exact erasesTo_self (by decide)
      · exact erasesTo_toString value.toNat
      · exact erasesTo_self (by decide)
  | name text => exact .enclosed (by decide) (erasesTo_quoteText_self (h text rfl))
  | unknown text => exact .enclosed (by decide) (erasesTo_quoteText_self (h text rfl))
  | char value => exact .enclosed (by decide) (erasesTo_toString value.toNat)
  | string text => exact .enclosed (by decide) (erasesTo_quoteText text)
  | operator op => exact .enclosed (by decide) (Operator.named.erasesTo op)
  | punctuation p => exact .enclosed (by decide) (Punctuation.named.erasesTo p)
  | keyword k => exact .enclosed (by decide) (Keyword.named.erasesTo k)
  | directive d => exact .enclosed (by decide) (Directive.named.erasesTo d)
  | endOfFile => exact erasesTo_self (by decide)

theorem Token.withoutMarks_eq_self_iff : t.withoutMarks = t ↔ ¬ t.Marked := by
  cases t with
  | string s =>
      have hiff : String.ofList (erase s.toList) = s ↔ ¬ Occurs s.toList := by
        rw [← SpanMark.erase_eq_self_iff, ← String.toList_inj, String.toList_ofList]
      simpa [withoutMarks, Marked] using hiff
  | _ => simp [withoutMarks, Marked]

end

section
variable {a : Spanned Token} {ts : List (Spanned Token)} {next : List Char}

theorem erase_tokenText (h : a.value.Unmarked)
    (hnext : ∀ c ∈ next.head?, isMarkChar c = false) :
    erase ((tokenText a).toList ++ next) = a.value.withoutMarks.debug.toList ++ erase next := by
  rw [tokenText, Spanned.text, String.toList_append, List.append_assoc, erasesTo_debug h,
    SpanMark.erase_of_skip? (SpanMark.skip?_span a.span hnext)]

/-- After a token there is a comma or a bracket, so its place ends there. -/
theorem erase_intercalate (h : ∀ a ∈ ts, a.value.Unmarked) :
    erase ([',', ' '].intercalate (ts.map fun a => (tokenText a).toList) ++ [']']) =
      [',', ' '].intercalate (ts.map fun a => a.value.withoutMarks.debug.toList) ++ [']'] := by
  have hclose : erase [']'] = [']'] := by
    rw [SpanMark.erase_cons_of_ne (by decide), SpanMark.erase_nil]
  have hbracket : ∀ c ∈ [']'].head?, isMarkChar c = false := by
    rintro _ ⟨⟩
    decide
  have hcomma : ∀ rest, ∀ c ∈ ([',', ' '] ++ rest).head?, isMarkChar c = false := by
    rintro rest _ ⟨⟩
    decide
  induction ts with
  | nil => exact hclose
  | cons a ts ih =>
      obtain ⟨ha, hts⟩ := List.forall_mem_cons.mp h
      rw [Text.intercalate_cons_append, Text.intercalate_cons_append]
      cases ts with
      | nil =>
          rw [Text.afterEntry, erase_tokenText ha hbracket, hclose]
          rfl
      | cons b ts =>
          rw [Text.afterEntry, erase_tokenText ha (hcomma _),
            SpanMark.erase_append (by decide), ih hts]
          rfl

theorem erase_dumpTokens (h : ∀ a ∈ ts, a.value.Unmarked) :
    erase (dumpTokens ts).toList = (listing (ts.map (·.value.withoutMarks))).toList := by
  have hdump : (dumpTokens ts).toList =
      '[' :: ([',', ' '].intercalate (ts.map fun a => (tokenText a).toList) ++ [']']) := by
    simp [dumpTokens, String.toList_intercalate, Function.comp_def]
  rw [hdump, SpanMark.erase_cons_of_ne (by decide), erase_intercalate h, toList_listing,
    List.map_map]
  rfl

end

section
variable {r r' : Registry} {span span' : Span} {sink sink' : Collected}
variable {ts us : List (Spanned Token)}

theorem eq_placedTokens_of_lexChunk (h : (r.lexChunk span sink).outcome = .tokens ts) :
    ts = (Lexer.ofSpan r span).placedTokens := by
  unfold Registry.lexChunk at h
  split at h
  · cases h
  · dsimp only at h
    split at h
    · cases h
      rfl
    · cases h

/-- Without places, a run outputs the tokens, except for what looks like a place in a string. -/
theorem output_eq (i : Nat) (h : (r.lexChunk span sink).outcome = .tokens ts) :
    (tokenSubject false i r span sink).2.2 =
      .ok (.output (listing (ts.map (·.value.withoutMarks)))) := by
  have hunmarked : ∀ a ∈ ts, a.value.Unmarked := by
    rw [eq_placedTokens_of_lexChunk h]
    exact Lexer.unmarked_of_mem_placedTokens _
  simp only [tokenSubject, h, Bool.false_eq_true, if_false, erase_dumpTokens hunmarked,
    String.ofList_toList]

theorem output_inj {ts us : List Token} :
    (Except.ok (RunEnd.output (listing ts)) : Except Loan RunEnd) = .ok (.output (listing us)) ↔
      ts = us := by
  constructor
  · intro h
    exact listing_inj (RunEnd.output.inj (Except.ok.inj h))
  · rintro rfl
    rfl

theorem map_withoutMarks_eq_iff :
    ts.map (·.value.withoutMarks) = ts.map (·.value) ↔ ∀ t ∈ ts, ¬ t.value.Marked := by
  rw [List.map_inj_left]
  exact forall₂_congr fun t _ => Token.withoutMarks_eq_self_iff

/-- The output for a text that is read into tokens is their listing, where the strings have lost
what looks like a place. It is the listing itself just if no string has anything like it, and two
outputs are the same just if the tokens are, apart from that. -/
theorem output_tells_tokens (i j : Nat) (h : (r.lexChunk span sink).outcome = .tokens ts)
    (h' : (r'.lexChunk span' sink').outcome = .tokens us) :
    (tokenSubject false i r span sink).2.2 =
        .ok (.output (listing (ts.map (·.value.withoutMarks)))) ∧
      ((tokenSubject false i r span sink).2.2 = .ok (.output (listing (ts.map (·.value)))) ↔
        ∀ t ∈ ts, ¬ t.value.Marked) ∧
      ((tokenSubject false i r span sink).2.2 = (tokenSubject false j r' span' sink').2.2 ↔
        ts.map (·.value.withoutMarks) = us.map (·.value.withoutMarks)) := by
  rw [output_eq i h, output_eq j h']
  exact ⟨rfl, output_inj.trans map_withoutMarks_eq_iff, output_inj⟩

/-- A string with an `@` in it, in the second file, and a string without. -/
theorem output_tells_tokens_at_sign :
    let r := Registry.ofFiles [⟨"plain", ['"', '1', '"'], none⟩, ⟨"at", ['"', '@', '"'], none⟩]
    let output := fun span => (tokenSubject false 0 r span ⟨.unknown, []⟩).2.2
    output (.within ⟨1⟩ 0 3) = .ok (.output (listing [.string "@"])) ∧
      output (.within ⟨1⟩ 0 3) ≠ output (.within ⟨0⟩ 0 3) := by
  intro r output
  have hplain : (r.lexChunk (.within ⟨0⟩ 0 3) (⟨.unknown, []⟩ : Collected)).outcome =
      .tokens [⟨.within ⟨0⟩ 0 3, .string "1"⟩] := by decide +kernel
  have hat : (r.lexChunk (.within ⟨1⟩ 0 3) (⟨.unknown, []⟩ : Collected)).outcome =
      .tokens [⟨.within ⟨1⟩ 0 3, .string "@"⟩] := by decide +kernel
  have heraseAt : erase ['@'] = ['@'] :=
    (SpanMark.erase_cons rfl).trans (congrArg _ SpanMark.erase_nil)
  have herasePlain : erase ['1'] = ['1'] :=
    (SpanMark.erase_cons rfl).trans (congrArg _ SpanMark.erase_nil)
  obtain ⟨_, hlisting, hsame⟩ := output_tells_tokens 0 0 hat hplain
  refine ⟨hlisting.mpr ?_, mt hsame.mp ?_⟩
  · simp [← Token.withoutMarks_eq_self_iff, Token.withoutMarks, heraseAt]
  · simp [Token.withoutMarks, heraseAt, herasePlain]

theorem output_string {i : Nat} {s : String} {rest : List Char}
    (h : (r.lexChunk span sink).outcome = .tokens [⟨span, .string s⟩])
    (hrest : erase s.toList = rest) :
    (tokenSubject false i r span sink).2.2 =
      .ok (.output (listing [.string (String.ofList rest)])) := by
  rw [output_eq i h, ← hrest]
  rfl

/-- A string that looks like a place is taken for one, so it has the output of an empty string. -/
theorem output_confuses_strings :
    let r := Registry.ofFiles
      [⟨"empty", ['"', '"'], none⟩, ⟨"place", ['"', '@', '1', '/', '2', '"'], none⟩]
    let chunk := fun span => (r.lexChunk span (⟨.unknown, []⟩ : Collected)).outcome
    let output := fun span => (tokenSubject false 0 r span ⟨.unknown, []⟩).2.2
    chunk (.within ⟨0⟩ 0 2) = .tokens [⟨.within ⟨0⟩ 0 2, .string ""⟩] ∧
      chunk (.within ⟨1⟩ 0 6) = .tokens [⟨.within ⟨1⟩ 0 6, .string "@1/2"⟩] ∧
      output (.within ⟨1⟩ 0 6) ≠ .ok (.output (listing [.string "@1/2"])) ∧
      output (.within ⟨1⟩ 0 6) = output (.within ⟨0⟩ 0 2) := by
  intro r chunk output
  have hempty : chunk (.within ⟨0⟩ 0 2) = .tokens [⟨.within ⟨0⟩ 0 2, .string ""⟩] := by
    decide +kernel
  have hplace : chunk (.within ⟨1⟩ 0 6) = .tokens [⟨.within ⟨1⟩ 0 6, .string "@1/2"⟩] := by
    decide +kernel
  have herase : erase "@1/2".toList = [] :=
    (SpanMark.erase_of_skip? (by decide +kernel)).trans SpanMark.erase_nil
  have houtput : output (.within ⟨1⟩ 0 6) = .ok (.output (listing [.string ""])) :=
    output_string hplace herase
  refine ⟨hempty, hplace, ?_, ?_⟩
  · rw [houtput, Ne, output_inj]
    decide
  · exact houtput.trans (output_string hempty SpanMark.erase_nil).symm

end

end Frontend
