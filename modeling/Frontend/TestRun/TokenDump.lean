/- The tokens of a test in brackets, with or without their places. -/
import Frontend.Lexer.Chunk
import Frontend.TestRun.Outcome
import Frontend.Text.Word

namespace Frontend

namespace SpanMark

def skipPart? (separator : Char) : List Char → Option (List Char)
  | [] => none
  | [_] => none
  | c :: d :: cs =>
    if c = separator ∧ Text.isDecimalDigit d then some (cs.dropWhile Text.isDecimalDigit)
    else none

/-- What follows a place in a text, such as `@_`, `@1`, `@1/2` and `@1/2-3`. -/
def skip? (text : List Char) : Option (List Char) :=
  match text with
  | '@' :: '_' :: cs => some cs
  | _ =>
    (skipPart? '@' text).map fun rest =>
      match skipPart? '/' rest with
      | none => rest
      | some rest => (skipPart? '-' rest).getD rest

theorem skipPart?_length_lt {separator : Char} {text rest : List Char}
    (h : skipPart? separator text = some rest) : rest.length < text.length := by
  unfold skipPart? at h
  split at h
  · cases h
  · cases h
  · rename_i c d cs
    split at h
    · cases h
      have := (List.dropWhile_sublist Text.isDecimalDigit (l := cs)).length_le
      simp only [List.length_cons]
      omega
    · cases h

theorem skip?_length_lt {text rest : List Char} (h : skip? text = some rest) :
    rest.length < text.length := by
  unfold skip? at h
  split at h
  · cases h; simp only [List.length_cons]; omega
  · obtain ⟨after, hafter, hrest⟩ := Option.map_eq_some_iff.mp h
    have hlt := skipPart?_length_lt hafter
    split at hrest
    · cases hrest; exact hlt
    · rename_i unit hunit
      have hlt' := skipPart?_length_lt hunit
      cases hdash : skipPart? '-' unit with
      | none => rw [hdash] at hrest; cases hrest; exact Nat.lt_trans hlt' hlt
      | some last =>
        rw [hdash] at hrest
        cases hrest
        exact Nat.lt_trans (skipPart?_length_lt hdash) (Nat.lt_trans hlt' hlt)

def erase (text : List Char) : List Char :=
  match _h : skip? text with
  | some rest => erase rest
  | none =>
    match text with
    | [] => []
    | c :: cs => c :: erase cs
termination_by text.length
decreasing_by
  · exact skip?_length_lt _h
  · exact Nat.lt_succ_self _

end SpanMark

def dumpTokens (ts : List (Spanned Token)) : String :=
  "[" ++ String.intercalate ", " (ts.map tokenText) ++ "]"

/-- Reads the text of a test into tokens and shows them, without their places unless asked to keep
them. -/
def tokenSubject (keepSpans : Bool) : Subject := fun _ registry span sink =>
  let chunk := registry.lexChunk span sink
  ([], chunk.sink,
    match chunk.outcome with
    | .tokens ts =>
      let dump := dumpTokens ts
      .ok (.output (if keepSpans then dump else String.ofList (SpanMark.erase dump.toList)))
    | .stopped => .ok (.output "error")
    | .broken e => .ok (.panicked (some e.message)))

end Frontend
