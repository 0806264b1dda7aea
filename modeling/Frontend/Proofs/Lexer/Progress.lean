/- A lexer gets on with every token and every error, and comes to the end of its text. -/
import Frontend.Proofs.Lexer.Step
import Frontend.Proofs.Lexer.Trivia

namespace Frontend

/-- Where a text is said to end too early, all of it has been used. -/
def Reading.EndsWithText {α : Type} (r : Reading α) : Prop :=
  r.outcome = .error .unexpectedEndOfFile → r.rest = []

namespace Lexer

open Reading

section
variable {α β : Type} {r : Reading α}

theorem endsWithText_map (h : r.EndsWithText) (f : α → β) : (r.map f).EndsWithText := by
  intro houtcome
  refine h ?_
  cases hr : r.outcome with
  | ok value =>
      rw [Reading.map, hr] at houtcome
      cases houtcome
  | error kind =>
      rw [Reading.map, hr] at houtcome
      cases houtcome
      rfl

theorem endsWithText_closeHexEscape (digits text : List Char) :
    (closeHexEscape digits text).EndsWithText := by
  unfold closeHexEscape
  split
  · exact fun _ => rfl
  · split
    · exact nofun
    · exact nofun
  · exact nofun

theorem endsWithText_readHexEscape (text : List Char) : (readHexEscape text).EndsWithText := by
  unfold readHexEscape
  split
  · exact fun _ => rfl
  · exact endsWithText_closeHexEscape _ _
  · exact nofun

theorem endsWithText_readEscape (text : List Char) : (readEscape text).EndsWithText := by
  unfold readEscape
  split
  · exact fun _ => rfl
  · exact endsWithText_readHexEscape _
  · split
    · exact nofun
    · exact nofun

theorem endsWithText_closeCharacter (value : Char) (text : List Char) :
    (closeCharacter value text).EndsWithText := by
  unfold closeCharacter
  split
  · exact fun _ => rfl
  · exact nofun
  · exact nofun

/-- Whatever goes wrong in an escape goes wrong in the literal at the same place. -/
theorem endsWithText_of_escape {text used : List Char} {kind : LexErrorKind}
    (h : (readEscape text).outcome = .error kind) :
    (failed kind used (readEscape text).rest : Reading α).EndsWithText := by
  rintro ⟨⟩
  exact endsWithText_readEscape text h

theorem endsWithText_readCharacter (text : List Char) : (readCharacter text).EndsWithText := by
  unfold readCharacter
  split
  · exact fun _ => rfl
  · exact nofun
  · dsimp only
    split
    · rename_i kind hkind
      exact endsWithText_of_escape hkind
    · exact endsWithText_closeCharacter _ _
  · exact endsWithText_closeCharacter _ _

theorem endsWithText_readString (text : List Char) : (readString text).EndsWithText := by
  fun_induction readString text with
  | case1 => exact fun _ => rfl
  | case2 cs =>
      intro h
      cases h
  | case3 cs kind hkind => exact endsWithText_of_escape hkind
  | case4 cs value hvalue ih => exact endsWithText_map ih (value :: ·)
  | case5 c cs hquote hslash ih => exact endsWithText_map ih (c :: ·)

theorem endsWithText_readToken (text : List Char) : (readToken text).EndsWithText := by
  unfold readToken
  split
  · exact nofun
  · exact nofun
  · exact nofun
  · exact endsWithText_map (endsWithText_readCharacter _) Token.char
  · exact endsWithText_map (endsWithText_readString _) fun s => Token.string (String.ofList s)
  · exact nofun
  · exact nofun
  · split
    · exact nofun
    · split
      · exact nofun
      · split
        · exact nofun
        · exact nofun

theorem endsWithText_token (text : List Char) : (readGap text).token.EndsWithText := by
  unfold Gap.token
  split
  · exact fun _ => rfl
  · exact endsWithText_readToken _

end

/-- From one text to another in `n` rounds, each of which skips blanks and one comment; before the
last text no comment can be skipped any more. -/
inductive Rounds : List Char → Nat → List Char → Prop where
  | settled {text} (h : ∀ used rest, readComment (text.dropWhile isBlank) ≠ .closed used rest) :
      Rounds text 0 (text.dropWhile isBlank)
  | comment {text used rest n last} (h : readComment (text.dropWhile isBlank) = .closed used rest)
      (hrest : Rounds rest n last) : Rounds text (n + 1) last

theorem two_le_length_of_readComment {text used rest : List Char}
    (h : readComment text = .closed used rest) : 2 ≤ used.length := by
  cases readComment_spec h with
  | line => exact Nat.le_add_left 2 _
  | block => exact Nat.le_add_left 2 _

/-- A gap is skipped in rounds, and each of them uses up the two characters that open a comment. -/
theorem exists_rounds (text : List Char) :
    ∃ n, Rounds text n (readGap text).rest ∧ 2 * n ≤ (readGap text).skipped.length := by
  fun_induction readGap text with
  | case1 text h => exact ⟨0, .settled (by simp [h]), Nat.zero_le _⟩
  | case2 text h => exact ⟨0, .settled (by simp [h]), Nat.zero_le _⟩
  | case3 text used rest h ih =>
      obtain ⟨n, hrounds, hn⟩ := ih
      have htwo := two_le_length_of_readComment h
      refine ⟨n + 1, .comment h hrounds, ?_⟩
      simp only [Gap.after, List.length_append]
      omega

/-- The lexer `l` is `start` with `k` characters of its text read. -/
structure HasRead (start : Lexer) (k : Nat) (l : Lexer) : Prop where
  le : k ≤ start.rest.length
  rest : l.rest = start.rest.drop k
  position : l.position = start.position.advance k
  offset : l.location.offset = start.location.offset + k

section
variable {start l : Lexer} {k : Nat}

theorem hasRead_zero (start : Lexer) : HasRead start 0 start :=
  ⟨Nat.zero_le _, rfl, (Position.advance_zero _).symm, rfl⟩

theorem HasRead.moveOver {used rest : List Char} (h : HasRead start k l)
    (hsplit : used ++ rest = l.rest) :
    HasRead start (k + used.length) (l.moveOver used rest) := by
  have hdrop : start.rest.drop k = used ++ rest := h.rest.symm.trans hsplit.symm
  refine ⟨?_, ?_, ?_, ?_⟩
  · have hlength := congrArg List.length hdrop
    have hle := h.le
    rw [List.length_drop, List.length_append] at hlength
    omega
  · rw [← List.drop_drop, hdrop, List.drop_left]
    rfl
  · rw [Lexer.moveOver, h.position]
    exact Position.advance_advance _ _ _
  · rw [Lexer.moveOver]
    dsimp only
    rw [Location.advance_offset, h.offset, Nat.add_assoc]

theorem HasRead.eq_length (h : HasRead start k l) (hrest : l.rest = []) :
    k = start.rest.length := by
  have hle := h.le
  have hdrop := List.drop_eq_nil_iff.mp (h.rest.symm.trans hrest)
  omega

/-- At the end of its text a lexer gives the end, and is left as it was. -/
theorem next_of_nil (h : l.rest = []) :
    l.next = ⟨.ok ⟨.covering 0 l.position, .endOfFile⟩, l.location, l⟩ := by
  obtain ⟨rest, position, location⟩ := l
  cases h
  have hgap : readGap [] = ⟨[], false, []⟩ := readGap_of_settled ⟨nofun, rfl⟩
  have htoken : (readGap []).token = .found .endOfFile [] [] := by rw [hgap]; rfl
  have hat : atToken ⟨[], position, location⟩ = ⟨[], position, location⟩ := by
    rw [atToken, hgap, moveOver]
    simp [Location.advance]
  have hafter : afterToken ⟨[], position, location⟩ = ⟨[], position, location⟩ := by
    rw [afterToken, hat, htoken, moveOver]
    simp [Reading.found, Location.advance]
  rw [next_of_ok (congrArg Reading.outcome htoken), hat, hafter, htoken]
  rfl

theorem next_rest_of_isEnd (h : l.next.isEnd = true) : l.next.next.rest = [] := by
  have htoken := token_of_rest_nil (isEnd_iff.mp h)
  rw [next_of_ok (congrArg Reading.outcome htoken)]
  exact congrArg Reading.rest htoken

/-- The end of the text is given again, and at the same place. -/
theorem next_next_of_isEnd (h : l.next.isEnd = true) : l.next.next.next = l.next := by
  have htoken := token_of_rest_nil (isEnd_iff.mp h)
  have hposition : l.afterToken.position = l.atToken.position := by
    rw [afterToken, htoken]
    exact Position.advance_zero _
  have hfirst := next_of_ok (congrArg Reading.outcome htoken)
  have hnext : l.next.next = l.afterToken := congrArg Step.next hfirst
  rw [next_of_nil (next_rest_of_isEnd h), hnext, hfirst, hposition, htoken]
  rfl

/-- One call for the next token, to a lexer that has read `k` characters: in rounds, of which there
are no more than fit, it skips blanks and comments up to `z`, and in the end it has read `q`. -/
structure Advances (start l : Lexer) (k z q : Nat) : Prop where
  before : HasRead start k l
  rounds : ∃ n, Rounds l.rest n (start.rest.drop z) ∧ k + 2 * n ≤ z
  le : z ≤ q
  after : HasRead start q l.next.next
  further : l.next.isEnd = false → z < q
  ended : l.next.isEnd = true → q = start.rest.length
  cutOff : ∀ e, l.next.outcome = .error e → e.kind = .unexpectedEndOfFile →
    q = start.rest.length

theorem next_rest_of_unexpectedEnd {e : LexError} (h : l.next.outcome = .error e)
    (hkind : e.kind = .unexpectedEndOfFile) : l.next.next.rest = [] := by
  cases houtcome : (readGap l.rest).token.outcome with
  | ok t =>
      rw [next_of_ok houtcome] at h
      cases h
  | error kind =>
      rw [next_of_error houtcome] at h ⊢
      cases h
      exact endsWithText_token l.rest (hkind ▸ houtcome)

theorem HasRead.advances (h : HasRead start k l) : ∃ z q, Advances start l k z q := by
  obtain ⟨n, hrounds, hn⟩ := exists_rounds l.rest
  obtain ⟨q, hq, hnext⟩ := next_of_moveOver (motive := HasRead start) HasRead.moveOver h
  have hgap : (readGap l.rest).rest = start.rest.drop (k + (readGap l.rest).skipped.length) :=
    (h.moveOver (readGap_append l.rest)).rest
  rw [hgap] at hrounds
  refine ⟨k + (readGap l.rest).skipped.length, q, h, ⟨n, hrounds, Nat.add_le_add_left hn k⟩,
    Nat.le_of_add_right_le hq, hnext, ?_, ?_, ?_⟩
  · intro hend
    have hrest : (readGap l.rest).rest ≠ [] := by
      rw [Ne, ← isEnd_iff, hend]
      exact Bool.false_ne_true
    have hused := List.length_pos_iff.mpr (used_ne_nil_of_token hrest)
    omega
  · intro hend
    exact hnext.eq_length (next_rest_of_isEnd hend)
  · intro e herror hkind
    exact hnext.eq_length (next_rest_of_unexpectedEnd herror hkind)

/-- The lexer after the next token was asked for `n` times, whatever came of it. -/
def afterCalls (l : Lexer) (n : Nat) : Lexer := (fun l => l.next.next)^[n] l

theorem afterCalls_succ (l : Lexer) (n : Nat) :
    l.afterCalls (n + 1) = (l.afterCalls n).next.next := Function.iterate_succ_apply' _ _ _

theorem exists_hasRead (start : Lexer) (n : Nat) : ∃ k, HasRead start k (start.afterCalls n) := by
  obtain ⟨k, _, hk⟩ :=
    iterate_of_moveOver (motive := HasRead start) HasRead.moveOver (hasRead_zero start) n
  exact ⟨k, hk⟩

/-- Every call before the one that gives the end leaves less of the text. -/
theorem exists_isEnd (l : Lexer) :
    ∃ n ≤ l.rest.length, (l.afterCalls n).next.isEnd = true ∧
      ∀ i < n, (l.afterCalls i).next.isEnd = false := by
  cases hend : l.next.isEnd with
  | true => exact ⟨0, Nat.zero_le _, hend, fun i hi => absurd hi (Nat.not_lt_zero i)⟩
  | false =>
      have hshorter := next_rest_length_lt hend
      obtain ⟨n, hle, hn, hbefore⟩ := exists_isEnd l.next.next
      refine ⟨n + 1, by omega, hn, ?_⟩
      intro i hi
      cases i with
      | zero => exact hend
      | succ i => exact hbefore i (Nat.lt_of_succ_lt_succ hi)
termination_by l.rest.length

theorem next_afterCalls_add {n : Nat} (h : (start.afterCalls n).next.isEnd = true) (i : Nat) :
    (start.afterCalls (n + i)).next = (start.afterCalls n).next := by
  induction i with
  | zero => rfl
  | succ i ih =>
      rw [← Nat.add_assoc, afterCalls_succ, ih]
      exact next_next_of_isEnd h

/-- Every call for the next token comes to an end, over errors too. A token or an error before the
end of the text leaves the cursor further on, and never behind the text; the end of the text and an
error that says so leave it at the end. The end is given for good, and as many calls as there are
characters are enough to come to it. -/
theorem calls_reach_end (start : Lexer) :
    (∀ n, ∃ k z q, Advances start (start.afterCalls n) k z q) ∧
      (∀ n, (start.afterCalls n).next.isEnd = true →
        ∀ i, (start.afterCalls (n + i)).next = (start.afterCalls n).next) ∧
      ∃ n ≤ start.rest.length, (start.afterCalls n).next.isEnd = true ∧
        ∀ i < n, (start.afterCalls i).next.isEnd = false := by
  refine ⟨?_, fun n hend => next_afterCalls_add hend, exists_isEnd start⟩
  intro n
  obtain ⟨k, hk⟩ := exists_hasRead start n
  exact ⟨k, hk.advances⟩

end

end Lexer

end Frontend
