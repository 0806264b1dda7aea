/- Line and column of a place in a text, as a reader counts them. -/
namespace Frontend

/-- Lines and columns count from one, offsets from zero; a tab is one column. -/
structure Location where
  line : Nat
  column : Nat
  offset : Nat
  deriving DecidableEq, Repr

namespace Location

def start : Location := ⟨1, 1, 0⟩

/-- Steps over `c`, before the character `next?`. A line ends at `\n`, or at a `\r` that no `\n`
follows. -/
def step (loc : Location) (c : Char) (next? : Option Char) : Location :=
  if c = '\r' ∧ next? = some '\n' then ⟨loc.line, loc.column, loc.offset + 1⟩
  else if c = '\r' ∨ c = '\n' then ⟨loc.line + 1, 1, loc.offset + 1⟩
  else ⟨loc.line, loc.column + 1, loc.offset + 1⟩

/-- Steps over `text`, before the characters `rest`. -/
def advance (loc : Location) : List Char → List Char → Location
  | [], _ => loc
  | c :: cs, rest => (loc.step c (cs.head?.or rest.head?)).advance cs rest

def compare (a b : Location) : Ordering :=
  (Ord.compare a.line b.line).then
    ((Ord.compare a.column b.column).then (Ord.compare a.offset b.offset))

def display (loc : Location) : String := toString loc.line ++ ":" ++ toString loc.column

/-- With the offset added. -/
def text (loc : Location) : String := loc.display ++ "(+" ++ toString loc.offset ++ ")"

@[simp] theorem step_offset (loc : Location) (c : Char) (next? : Option Char) :
    (loc.step c next?).offset = loc.offset + 1 := by
  unfold step
  split
  · rfl
  · split <;> rfl

theorem step_of_lineEnd {loc : Location} {c : Char} {next? : Option Char}
    (h : c = '\n' ∨ (c = '\r' ∧ next? ≠ some '\n')) :
    loc.step c next? = ⟨loc.line + 1, 1, loc.offset + 1⟩ := by
  rcases h with rfl | ⟨rfl, hnext⟩
  · rfl
  · rw [step, if_neg fun h => hnext h.2, if_pos (.inl rfl)]

theorem step_of_inLine {loc : Location} {c : Char} {next? : Option Char} (hreturn : c ≠ '\r')
    (hline : c ≠ '\n') : loc.step c next? = ⟨loc.line, loc.column + 1, loc.offset + 1⟩ := by
  rw [step, if_neg fun h => hreturn h.1, if_neg fun h => h.elim hreturn hline]

theorem advance_offset (loc : Location) (text rest : List Char) :
    (loc.advance text rest).offset = loc.offset + text.length := by
  induction text generalizing loc with
  | nil => rfl
  | cons c cs ih => rw [advance, ih, step_offset, List.length_cons, Nat.add_assoc, Nat.add_comm 1]

end Location

end Frontend
