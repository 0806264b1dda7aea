/- What an excerpt marks of a line: a range of its characters, in columns with tabs expanded. -/
import Frontend.Diagnostic.Excerpt
import Frontend.Proofs.Source.Tiling
import Frontend.Proofs.Text.Run

namespace Frontend

def advanceColumn (column : Nat) (c : Char) : Nat :=
  if c = '\t' then nextTabStop column else column + Text.columnWidth c

/-- The column after a text that starts at a column. -/
def columnAfter (column : Nat) (text : List Char) : Nat := text.foldl advanceColumn column

theorem columnAfter_append (column : Nat) (text more : List Char) :
    columnAfter column (text ++ more) = columnAfter (columnAfter column text) more :=
  List.foldl_append

theorem expandTabs_snd (column : Nat) (text : List Char) :
    (expandTabs column text).2 = columnAfter column text := by
  induction text generalizing column with
  | nil => rfl
  | cons c cs ih =>
      rw [expandTabs, columnAfter, List.foldl_cons, advanceColumn]
      split
      · exact ih (nextTabStop column)
      · exact ih (column + Text.columnWidth c)

theorem isLineEnd_eq_true_iff {c : Char} :
    Excerpt.isLineEnd c = true ↔ c = '\r' ∨ c = '\n' := by
  simp [Excerpt.isLineEnd]

theorem IsTerminator.isLineEnd {terminator rest : List Char} (h : IsTerminator terminator rest) :
    ∀ c ∈ terminator, Excerpt.isLineEnd c = true := by
  cases h <;> simp [Excerpt.isLineEnd]

theorem LineWithin.isLineEnd {text before content terminator after : List Char}
    (h : LineWithin text before content terminator after) :
    ∀ c ∈ terminator, Excerpt.isLineEnd c = true := by
  rcases h.ends with hends | ⟨rfl, _⟩
  · exact hends.isLineEnd
  · exact fun _ hc => absurd hc List.not_mem_nil

theorem trimEnd_line {content terminator : List Char} (h : IsLine content)
    (hends : ∀ c ∈ terminator, Excerpt.isLineEnd c = true) :
    Text.trimEnd Excerpt.isLineEnd (content ++ terminator) = content := by
  refine Text.trimEnd_eq_iff.mpr ⟨terminator, rfl, hends, ?_⟩
  intro c hc
  have hmem : c ∈ content := List.mem_of_getLast? hc
  rw [Bool.eq_false_iff, Ne, isLineEnd_eq_true_iff]
  rintro (rfl | rfl)
  · exact h.2 hmem
  · exact h.1 hmem

namespace Excerpt

/-- An excerpt shows a text with its characters from `first` to `last` marked, as far as the text
has them. -/
structure Marks (e : Excerpt) (text : List Char) (first last : Nat) : Prop where
  column : e.column = columnAfter 0 (text.take first)
  before : e.before = String.ofList (expandTabs 0 (text.take first)).1
  marked : e.marked = String.ofList (expandTabs e.column ((text.take last).drop first)).1
  after : e.after =
    String.ofList (expandTabs (columnAfter 0 (text.take last)) (text.drop last)).1
  marker : e.marker = markerLine e.column (columnAfter 0 (text.take last) - e.column)

theorem marks_trimEnd (line : List Char) {first last : Nat} (hle : first ≤ last) :
    (ofLine line first last).Marks (Text.trimEnd isLineEnd line) first last := by
  generalize hcontent : Text.trimEnd isLineEnd line = content
  have hfirst : content.take (min first (min last content.length)) = content.take first := by
    rw [List.take_eq_take_iff]
    omega
  have hlast : content.drop (min last content.length) = content.drop last := by
    rw [List.drop_eq_drop_iff]
    omega
  have hmarked : (content.drop (min first (min last content.length))).take
      (min last content.length - min first (min last content.length)) =
        (content.take last).drop first := by
    have htake : content.take (min last content.length) = content.take last := by
      rw [List.take_eq_take_iff]
      omega
    rw [← List.drop_take, htake, List.drop_eq_drop_iff, List.length_take]
    omega
  have hcolumn : columnAfter (columnAfter 0 (content.take first)) ((content.take last).drop first) =
      columnAfter 0 (content.take last) := by
    have hsplit := List.take_append_drop first (content.take last)
    rw [List.take_take, Nat.min_eq_left hle] at hsplit
    rw [← columnAfter_append, hsplit]
  constructor <;> simp only [ofLine, hcontent, hfirst, hlast, hmarked, expandTabs_snd, hcolumn]

/-- The terminator of a line is not shown, and a range that goes into it ends before it. -/
theorem marks_ofLine {content terminator : List Char} {first last : Nat} (h : IsLine content)
    (hends : ∀ c ∈ terminator, isLineEnd c = true) (hle : first ≤ last) :
    (ofLine (content ++ terminator) first last).Marks content first last := by
  have hmarks := marks_trimEnd (content ++ terminator) hle
  rwa [trimEnd_line h hends] at hmarks

end Excerpt

end Frontend
