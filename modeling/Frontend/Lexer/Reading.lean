/- One step of reading a text: what was found, the characters used for it, and those left. -/
import Frontend.Lexer.Error

namespace Frontend

structure Reading (α : Type) where
  outcome : Except LexErrorKind α
  used : List Char
  rest : List Char

namespace Reading

variable {α β : Type}

def found (value : α) (used rest : List Char) : Reading α := ⟨.ok value, used, rest⟩

def failed (kind : LexErrorKind) (used rest : List Char) : Reading α := ⟨.error kind, used, rest⟩

/-- Counts characters that were used before the step began. -/
def after (earlier : List Char) (r : Reading α) : Reading α := { r with used := earlier ++ r.used }

def map (f : α → β) (r : Reading α) : Reading β := ⟨r.outcome.map f, r.used, r.rest⟩

/-- Nothing is lost: the characters used and those left make up the text. -/
def Splits (r : Reading α) (text : List Char) : Prop := r.used ++ r.rest = text

theorem Splits.after {r : Reading α} {text : List Char} (h : r.Splits text)
    (earlier : List Char) : (r.after earlier).Splits (earlier ++ text) := by
  unfold Splits at h ⊢
  rw [← h]
  exact List.append_assoc _ _ _

theorem Splits.map {r : Reading α} {text : List Char} (h : r.Splits text) (f : α → β) :
    (r.map f).Splits text := h

theorem of_map_outcome_eq_ok {f : α → β} {r : Reading α} {b : β}
    (h : (r.map f).outcome = .ok b) : ∃ a, r.outcome = .ok a ∧ f a = b := by
  obtain ⟨outcome, used, rest⟩ := r
  cases outcome with
  | error kind => cases h
  | ok a =>
      cases h
      exact ⟨a, rfl, rfl⟩

theorem Splits.length_le {r : Reading α} {text : List Char} (h : r.Splits text) :
    r.rest.length ≤ text.length := by
  rw [← h, List.length_append]
  exact Nat.le_add_left _ _

end Reading

end Frontend
