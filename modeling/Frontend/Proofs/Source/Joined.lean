/- A file whose text is made of lines with line feeds between them has just these lines. -/
import Frontend.Proofs.Source.LineTable
import Frontend.Proofs.Source.Slice
import Frontend.Text.Cut
import Mathlib.Algebra.GroupWithZero.Nat

namespace Frontend

/-- A text without line terminators. -/
def IsLine (text : List Char) : Prop := '\n' ∉ text ∧ '\r' ∉ text

instance (text : List Char) : Decidable (IsLine text) :=
  inferInstanceAs (Decidable (_ ∧ _))

/-- Where an entry starts in the joined text; a line feed follows each entry before it. -/
def entryStart (entries : List (List Char)) (k : Nat) : Nat :=
  ((entries.take k).map (·.length + 1)).sum

section
variable {entries : List (List Char)} {entry : List Char} {k offset : Nat}

theorem entryStart_cons_succ (entry : List Char) (entries : List (List Char)) (k : Nat) :
    entryStart (entry :: entries) (k + 1) = entry.length + 1 + entryStart entries k := by
  simp [entryStart]

theorem entryStart_succ (h : entries[k]? = some entry) :
    entryStart entries (k + 1) = entryStart entries k + entry.length + 1 := by
  rw [entryStart, List.take_add_one, h]
  simp [entryStart, Nat.add_assoc]

theorem joinLines_cons_cons (e e' : List Char) (es : List (List Char)) :
    Text.joinLines (e :: e' :: es) = e ++ '\n' :: Text.joinLines (e' :: es) := by
  simp [Text.joinLines, List.intercalate_cons_cons]

theorem IsLine.not_endsLine_zero {c : Char} {cs rest : List Char} (h : IsLine (c :: cs)) :
    ¬ EndsLine (c :: cs ++ rest) 0 := by
  rw [List.cons_append, endsLine_zero]
  rintro (rfl | ⟨rfl, _⟩)
  · exact h.1 List.mem_cons_self
  · exact h.2 List.mem_cons_self

theorem IsLine.tail {c : Char} {cs : List Char} (h : IsLine (c :: cs)) : IsLine cs :=
  ⟨fun hmem => h.1 (List.mem_cons_of_mem _ hmem), fun hmem => h.2 (List.mem_cons_of_mem _ hmem)⟩

/-- No line starts within a text without line terminators. -/
theorem lineStartsAfter_append (h : IsLine entry) (offset : Nat) (rest : List Char) :
    lineStartsAfter offset (entry ++ rest) = lineStartsAfter (offset + entry.length) rest := by
  induction entry generalizing offset with
  | nil => rfl
  | cons c cs ih =>
      have hfirst : ¬ EndsLine (c :: (cs ++ rest)) 0 := h.not_endsLine_zero
      rw [List.cons_append]
      rw [lineStartsAfter_cons, if_neg hfirst, ih h.tail, List.length_cons, Nat.add_right_comm,
        Nat.add_assoc]

/-- After the first line, a line starts where an entry does. -/
theorem getElem?_lineStartsAfter_joinLines (h : ∀ entry ∈ entries, IsLine entry)
    (offset k : Nat) : (lineStartsAfter offset (Text.joinLines entries))[k]? =
      if k + 1 < entries.length then some (offset + entryStart entries (k + 1)) else none := by
  induction entries generalizing offset k with
  | nil => rfl
  | cons e es ih =>
      cases es with
      | nil =>
          have hstarts := lineStartsAfter_append (h e List.mem_cons_self) offset []
          rw [List.append_nil] at hstarts
          have hjoin : Text.joinLines [e] = e := List.intercalate_singleton
          rw [hjoin, hstarts]
          simp [lineStartsAfter]
      | cons e' es =>
          have hlater := ih fun entry hentry => h entry (List.mem_cons_of_mem _ hentry)
          rw [joinLines_cons_cons, lineStartsAfter_append (h e List.mem_cons_self),
            lineStartsAfter_cons, if_pos (endsLine_zero.mpr (.inl rfl))]
          cases k with
          | zero => simp [entryStart, Nat.add_assoc]
          | succ k =>
              rw [List.getElem?_cons_succ, hlater, entryStart_cons_succ e (e' :: es)]
              simp only [List.length_cons, Nat.add_lt_add_iff_right, Nat.add_assoc]

theorem exists_joinLines_eq (h : entries[k]? = some entry) :
    ∃ before after, Text.joinLines entries = before ++ entry ++ after ∧
      before.length = entryStart entries k := by
  induction entries generalizing k with
  | nil => cases h
  | cons e es ih =>
      cases k with
      | zero =>
          cases h
          cases es with
          | nil => exact ⟨[], [], by simp [Text.joinLines], rfl⟩
          | cons e' es =>
              refine ⟨[], '\n' :: Text.joinLines (e' :: es), ?_, rfl⟩
              rw [joinLines_cons_cons]
              rfl
      | succ k =>
          have h : es[k]? = some entry := h
          obtain ⟨before, after, hjoin, hlength⟩ := ih h
          cases es with
          | nil => cases h
          | cons e' es =>
              refine ⟨e ++ '\n' :: before, after, ?_, ?_⟩
              · rw [joinLines_cons_cons, hjoin]
                simp
              · rw [entryStart_cons_succ, ← hlength, List.length_append, List.length_cons]
                omega

end

namespace SourceFile

variable {f : SourceFile} {entries : List (List Char)} {entry : List Char} {k p : Nat}

/-- A byte order mark ends no line. -/
theorem starts_eq (f : SourceFile) :
    f.lines.starts = f.bodyStart :: lineStartsAfter 0 f.chars := by
  have hbody : lineStartsAfter f.bodyStart f.body = lineStartsAfter 0 f.chars := by
    unfold body bodyStart
    split
    · rename_i hmark
      cases hchars : f.chars with
      | nil => rfl
      | cons c cs =>
          rw [hchars, List.head?_cons, Option.some.injEq] at hmark
          subst hmark
          rw [lineStartsAfter_cons, if_neg (by simp [endsLine_zero])]
          rfl
    · rfl
  rw [← hbody]
  rfl

theorem getElem?_starts_of_joinLines (hchars : f.chars = Text.joinLines entries)
    (h : ∀ entry ∈ entries, IsLine entry) (k : Nat) : f.lines.starts[k + 1]? =
      if k + 1 < entries.length then some (entryStart entries (k + 1)) else none := by
  rw [starts_eq, List.getElem?_cons_succ, hchars, getElem?_lineStartsAfter_joinLines h]
  simp only [Nat.zero_add]

theorem startCount_of_joinLines (hchars : f.chars = Text.joinLines entries)
    (h : ∀ entry ∈ entries, IsLine entry) (hk : entries[k]? = some entry)
    (hbody : f.bodyStart ≤ p) (hstart : entryStart entries k ≤ p)
    (hstop : p ≤ entryStart entries k + entry.length) : f.lines.startCount p = k + 1 := by
  have hlt : k < entries.length := (List.getElem?_eq_some_iff.mp hk).1
  -- line `k` starts up to `p`; line `k + 1` starts after the line feed that follows the entry
  have hlower : k < f.lines.startCount p := by
    cases k with
    | zero => exact startCount_pos hbody
    | succ k =>
        have hget := getElem?_starts_of_joinLines hchars h k
        rw [if_pos hlt] at hget
        exact (le_iff_lt_countP f.pairwise_starts hget).mp hstart
  have hupper : ¬ k + 1 < f.lines.startCount p := by
    have hget := getElem?_starts_of_joinLines hchars h k
    split at hget
    · rw [LineTable.startCount, ← le_iff_lt_countP f.pairwise_starts hget, entryStart_succ hk]
      omega
    · have hcount : f.lines.startCount p ≤ f.lines.starts.length := List.countP_le_length
      have hlength := List.getElem?_eq_none_iff.mp hget
      omega
  omega

/-- The line of a position is the number of the entry that it lies in. -/
theorem lineAt?_of_joinLines {id : FileId} (hid : f.id? = some id)
    (hchars : f.chars = Text.joinLines entries) (h : ∀ entry ∈ entries, IsLine entry)
    (hk : entries[k]? = some entry) (hbody : f.bodyStart ≤ p)
    (hstart : entryStart entries k ≤ p) (hstop : p ≤ entryStart entries k + entry.length) :
    f.lineAt? (.inFile id p) = some k := by
  have hend : p ≤ f.lines.stop := by
    obtain ⟨before, after, hjoin, hbefore⟩ := exists_joinLines_eq hk
    rw [f.lines_stop, hchars, hjoin, List.length_append, List.length_append]
    omega
  rw [lineAt?, if_pos hid, LineTable.lineAt?_eq f.pairwise_starts (startCount_pos hbody) hend,
    startCount_of_joinLines hchars h hk hbody hstart hstop]
  rfl

end SourceFile

end Frontend
