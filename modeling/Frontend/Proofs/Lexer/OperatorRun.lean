/- How far words and runs of operator characters go, and that they take in no comment. -/
import Frontend.Proofs.Lexer.Locality

namespace Frontend

/-- The tokens that are made of identifier characters, perhaps after a number sign. -/
def Token.IsWord : Token → Prop
  | number .. | name _ | keyword _ | directive _ => True
  | _ => False

namespace Lexer

open Text (isIdentifierChar)

/-- The text is a run of operator characters before the text `next`. No comment starts in it, and it
goes on as far as it can. -/
structure OperatorRun (text next : List Char) : Prop where
  operators : ∀ c ∈ text, isOperatorChar c = true
  apart : ∀ before after, text = before ++ '/' :: after →
    ∀ c ∈ (after ++ next).head?, c ≠ '/' ∧ c ≠ '*'
  stops : ∀ c ∈ next.head?, isOperatorChar c = true →
    ['/', '/'] <+: next ∨ ['/', '*'] <+: next

/-- The token of this text, before the text `next`, is as long as it can be. -/
structure Munched (t : Token) (text next : List Char) : Prop where
  word : t.IsWord → ∀ c ∈ next.head?, isIdentifierChar c = false
  ellipsis : (∃ c ∈ text.head?, isOperatorChar c = true) →
    (t = .punctuation .ellipsis ↔ ['.', '.', '.'] <+: text ++ next)
  operators : (∃ c ∈ text.head?, isOperatorChar c = true) → t ≠ .punctuation .ellipsis →
    text ≠ [] ∧ OperatorRun text next

section
variable {text next : List Char} {t : Token} {l : Lexer}

theorem startsComment_iff :
    startsComment text = true ↔ ['/', '/'] <+: text ∨ ['/', '*'] <+: text := by
  constructor
  · intro h
    unfold startsComment at h
    split at h
    · exact .inl ⟨_, rfl⟩
    · exact .inr ⟨_, rfl⟩
    · cases h
  · rintro (⟨rest, rfl⟩ | ⟨rest, rfl⟩)
    · rfl
    · rfl

theorem head_of_startsComment_slash (h : startsComment ('/' :: text) = false) :
    ∀ c ∈ text.head?, c ≠ '/' ∧ c ≠ '*' := by
  intro c hc
  rw [startsComment_cons, Option.mem_def.mp hc] at h
  simpa using h

/-- The scan for operator characters takes a run of them, and all of it. -/
theorem operatorRun_of_scan (h : operatorRun (text ++ next) = text) : OperatorRun text next := by
  induction text with
  | nil =>
      refine ⟨List.forall_mem_nil _, by simp, ?_⟩
      intro c hc hoperator
      rcases operatorRun_eq_nil_iff.mp h with hhead | hcomment
      · cases hoperator.symm.trans (hhead c hc)
      · exact startsComment_iff.mp hcomment
  | cons c cs ih =>
      rw [List.cons_append, operatorRun] at h
      split at h
      · rename_i hgoes
        rw [Bool.and_eq_true, Bool.not_eq_true'] at hgoes
        obtain ⟨hoperator, hcomment⟩ := hgoes
        have hrun := ih (List.cons.inj h).2
        refine ⟨List.forall_mem_cons.mpr ⟨hoperator, hrun.operators⟩, ?_, hrun.stops⟩
        intro before after hsplit
        cases before with
        | nil =>
            obtain ⟨rfl, rfl⟩ := List.cons.inj hsplit
            exact head_of_startsComment_slash hcomment
        | cons d before => exact hrun.apart before after (List.cons.inj hsplit).2
      · cases h

theorem not_isWord_ofSign (s : String) : ¬ (Token.ofSign s).IsWord := by
  unfold Token.ofSign
  split <;> exact id

/-- Three dots in a row are not left to the other signs. -/
theorem eq_dots_of_ofSign (h : Token.ofSign (String.ofList text) = .punctuation .ellipsis) :
    text = ['.', '.', '.'] := by
  have hspelling := Token.spelling?_ofSign (String.ofList text)
  rw [h] at hspelling
  exact String.ofList_inj.mp (Option.some.inj hspelling).symm

theorem munched_of_other {c : Char} {cs : List Char} (hc : isOperatorChar c = false)
    (hword : t.IsWord → ∀ c ∈ next.head?, isIdentifierChar c = false) :
    Munched t (c :: cs) next := by
  have hother : ¬ ∃ d ∈ (c :: cs).head?, isOperatorChar d = true := by
    rintro ⟨d, ⟨⟩, hd⟩
    cases hd.symm.trans hc
  exact ⟨hword, fun h => absurd h hother, fun h => absurd h hother⟩

theorem Lexeme.munched (h : Lexeme t text next) : Munched t text next := by
  have hstart : startsComment (text ++ next) = false :=
    readComment_eq_absent_iff.mp h.settled.comment
  cases h.tokenText with
  | newline => exact munched_of_other (by decide) False.elim
  | semicolon => exact munched_of_other (by decide) False.elim
  | character hbody => exact munched_of_other (by decide) False.elim
  | string hbody => exact munched_of_other (by decide) False.elim
  | numberSign hword hnext => exact munched_of_other (by decide) fun _ => hnext
  | word hc hword hnext =>
      refine munched_of_other (Bool.eq_false_iff.mpr ?_) fun _ => hnext
      intro hoperator
      cases hc.symm.trans (isIdentifierChar_of_isOperatorChar hoperator)
  | sign hmark hword hoperator hcontrol =>
      exact munched_of_other hoperator fun h => absurd h (not_isWord_ofSign _)
  | ellipsis => exact ⟨False.elim, fun _ => iff_of_true rfl ⟨next, rfl⟩, fun _ h => absurd rfl h⟩
  | @operator c cs next hc hdots hrun =>
      have hscan : operatorRun (c :: cs ++ next) = c :: cs := by
        rw [List.cons_append] at hstart ⊢
        rw [operatorRun, hc, hstart, hrun]
        rfl
      refine ⟨fun h => absurd h (not_isWord_ofSign _), fun _ => iff_of_false ?_ ?_, fun _ _ => ?_⟩
      · intro hellipsis
        exact hdots (eq_dots_of_ofSign hellipsis ▸ List.prefix_refl _)
      · exact mt (dots_prefix_iff hrun).mp hdots
      · exact ⟨List.cons_ne_nil c cs, operatorRun_of_scan hscan⟩

/-- Every token that a lexer gives takes in all that belongs to it. Words go up to a character that
is in no identifier; three dots are one token; and operator characters go up to the next comment or
to a character of another kind. -/
theorem munched_of_token {s : Spanned Token} (h : l.next.token? = some s) : ∃ text next,
    l.atToken.rest = text ++ next ∧ s.span = .covering text.length l.atToken.position ∧
      (s.value.isSeparator = false → l.next.next = l.atToken.moveOver text next) ∧
      Munched s.value text next := by
  refine ⟨_, _, (token_append l.rest).symm, span_of_next h, ?_, (lexeme_of_next h).munched⟩
  intro hseparator
  have hread := outcome_of_next (Step.token?_eq_some_iff.mp h).1
  rw [next_of_ok hread, if_neg (Bool.eq_false_iff.mp hseparator), afterToken]

/-- An operator in front of a comment, with dots in it that make no ellipsis. -/
theorem munched_before_comment :
    let l := ofChars " .+/=..// c".toList
    l.next.token? = some ⟨.nowhere, .unknown ".+/=.."⟩ ∧ ∃ text next,
      ".+/=..// c".toList = text ++ next ∧ l.next.next = l.atToken.moveOver text next ∧
        Munched (.unknown ".+/=..") text next := by
  intro l
  have htoken : l.next.token? = some ⟨.nowhere, .unknown ".+/=.."⟩ := by decide +kernel
  have hrest : l.atToken.rest = ".+/=..// c".toList := by decide +kernel
  obtain ⟨text, next, hsplit, _, hnext, hmunched⟩ := munched_of_token htoken
  exact ⟨htoken, text, next, hrest.symm.trans hsplit, hnext rfl, hmunched⟩

end

end Lexer

end Frontend
