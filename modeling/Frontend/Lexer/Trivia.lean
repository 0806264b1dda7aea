/- What stands between tokens: blanks other than newlines, and comments. -/
import Frontend.Text.CodeRange

namespace Frontend.Lexer

/-- Newlines are tokens, so they are no blanks. -/
def isBlank (c : Char) : Bool := Text.isWhitespace c && c != '\n'

/-- The body of a block comment, after its opening mark, up to and with the first closing mark. -/
def commentBody? : List Char → Option (List Char × List Char)
  | [] => none
  | '*' :: '/' :: cs => some (['*', '/'], cs)
  | c :: cs => (commentBody? cs).map fun (body, rest) => (c :: body, rest)

theorem append_of_commentBody? {text body rest : List Char}
    (h : commentBody? text = some (body, rest)) : body ++ rest = text := by
  fun_induction commentBody? text generalizing body rest with
  | case1 => cases h
  | case2 cs => cases h; rfl
  | case3 c cs hne ih =>
    obtain ⟨⟨body', rest'⟩, hbody, hpair⟩ := Option.map_eq_some_iff.mp h
    cases hpair
    exact congrArg (List.cons c) (ih hbody)

inductive Comment where
  | absent
  | closed (used rest : List Char)
  | unclosed
  deriving DecidableEq, Repr

/-- A line comment leaves its newline; a block comment ends at the first closing mark. -/
def readComment : List Char → Comment
  | '/' :: '/' :: cs =>
    .closed ('/' :: '/' :: cs.takeWhile (· ≠ '\n')) (cs.dropWhile (· ≠ '\n'))
  | '/' :: '*' :: cs =>
    match commentBody? cs with
    | some (body, rest) => .closed ('/' :: '*' :: body) rest
    | none => .unclosed
  | _ => .absent

theorem append_of_readComment {text used rest : List Char}
    (h : readComment text = .closed used rest) : used ++ rest = text := by
  unfold readComment at h
  split at h
  · cases h
    simp
  · split at h
    · rename_i hbody
      cases h
      exact congrArg ('/' :: '*' :: ·) (append_of_commentBody? hbody)
    · cases h
  · cases h

theorem rest_length_lt_of_readComment {text used rest : List Char}
    (h : readComment text = .closed used rest) : rest.length < text.length := by
  have hused : used ≠ [] := by
    unfold readComment at h
    split at h
    · cases h; exact List.cons_ne_nil _ _
    · split at h <;> cases h; exact List.cons_ne_nil _ _
    · cases h
  rw [← append_of_readComment h, List.length_append]
  exact Nat.lt_add_of_pos_left (List.length_pos_iff.mpr hused)

theorem ne_nil_of_readComment_unclosed {text : List Char} (h : readComment text = .unclosed) :
    text ≠ [] := by
  rintro rfl
  cases h

/-- The text skipped before a token; `unclosed` says that a comment without end comes after it. -/
structure Gap where
  skipped : List Char
  unclosed : Bool
  rest : List Char
  deriving DecidableEq, Repr

def Gap.after (earlier : List Char) (g : Gap) : Gap := { g with skipped := earlier ++ g.skipped }

/-- Skips blanks and comments, in any order and number. -/
def readGap (text : List Char) : Gap :=
  match _h : readComment (text.dropWhile isBlank) with
  | .absent => ⟨text.takeWhile isBlank, false, text.dropWhile isBlank⟩
  | .unclosed => ⟨text.takeWhile isBlank, true, text.dropWhile isBlank⟩
  | .closed used rest => (readGap rest).after (text.takeWhile isBlank ++ used)
termination_by text.length
decreasing_by
  exact Nat.lt_of_lt_of_le (rest_length_lt_of_readComment _h)
    (List.dropWhile_sublist isBlank).length_le

theorem readGap_append (text : List Char) :
    (readGap text).skipped ++ (readGap text).rest = text := by
  fun_induction readGap text with
  | case1 text _ => exact List.takeWhile_append_dropWhile
  | case2 text _ => exact List.takeWhile_append_dropWhile
  | case3 text used rest h ih =>
    simp only [Gap.after, List.append_assoc, ih, append_of_readComment h,
      List.takeWhile_append_dropWhile]

theorem rest_ne_nil_of_unclosed {text : List Char} (h : (readGap text).unclosed = true) :
    (readGap text).rest ≠ [] := by
  fun_induction readGap text with
  | case1 text _ => cases h
  | case2 text hc => exact ne_nil_of_readComment_unclosed hc
  | case3 text used rest hc ih => exact ih h

end Frontend.Lexer
