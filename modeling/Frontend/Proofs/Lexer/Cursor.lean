/- The cursor of a lexer counts lines and columns as the table of its file does. -/
import Frontend.Proofs.Lexer.Step
import Frontend.Proofs.Source.LineTable
import Frontend.Proofs.Source.Registration

namespace Frontend

/-- The offset `p` lies between a `\r` and the `\n` right after it. -/
def SourceFile.SplitsBreak (f : SourceFile) (p : Nat) : Prop :=
  ∃ q, p = q + 1 ∧ f.chars[q]? = some '\r' ∧ f.chars[q + 1]? = some '\n'

/-- The location is that of the offset `p` in a file that is read up to `stop`. Inside of a line
break the column is left open, and the line too where the reader does not see the `\n`. -/
structure Location.Agrees (f : SourceFile) (stop p : Nat) (loc : Location) : Prop where
  offset : loc.offset = p
  line : ¬ (f.SplitsBreak p ∧ p = stop) → loc.line = f.lines.startCount p
  column : ¬ f.SplitsBreak p → loc.column = p - f.lines.lastStart p + 1

namespace Location.Agrees

variable {f : SourceFile} {stop p : Nat} {loc : Location}

theorem step_lineEnd {c : Char} {next? : Option Char} (h : loc.Agrees f stop p)
    (hp : f.bodyStart ≤ p) (hstop : p < stop) (hend : EndsLine f.chars p)
    (hseen : c = '\n' ∨ (c = '\r' ∧ next? ≠ some '\n')) :
    (loc.step c next?).Agrees f stop (p + 1) := by
  have hstarts := f.pairwise_starts
  have hmem : p + 1 ∈ f.lines.starts := (SourceFile.succ_mem_starts_iff hp).mpr hend
  have hline := h.line fun hsplit => Nat.ne_of_lt hstop hsplit.2
  have hcount := LineTable.startCount_succ hstarts p
  have hlast := LineTable.lastStart_succ_of_mem hstarts hmem
  rw [if_pos hmem] at hcount
  rw [Location.step_of_lineEnd hseen]
  refine ⟨congrArg (· + 1) h.offset, fun _ => ?_, fun _ => ?_⟩
  · rw [hcount, hline]
  · rw [hlast, Nat.sub_self]

/-- Over the `\r` of a `\r\n` the line ends one character later, which the reader may not see. -/
theorem step_inBreak {next? : Option Char} (h : loc.Agrees f stop p) (hp : f.bodyStart ≤ p)
    (hstop : p < stop) (hc : f.chars[p]? = some '\r') (hafter : f.chars[p + 1]? = some '\n')
    (hnext : next? = f.chars[p + 1]? ∨ (next? = none ∧ p + 1 = stop)) :
    (loc.step '\r' next?).Agrees f stop (p + 1) := by
  have hsplit : f.SplitsBreak (p + 1) := ⟨p, rfl, hc, hafter⟩
  have hline := h.line fun hsplit => Nat.ne_of_lt hstop hsplit.2
  have hnot : p + 1 ∉ f.lines.starts := by
    rw [SourceFile.succ_mem_starts_iff hp]
    simp [EndsLine, hc, hafter]
  have hcount := LineTable.startCount_succ f.pairwise_starts p
  rw [if_neg hnot] at hcount
  refine ⟨by rw [Location.step_offset, h.offset], ?_, fun hwhole => absurd hsplit hwhole⟩
  intro hseen
  rcases hnext with rfl | ⟨_, hlast⟩
  · rw [hafter]
    exact hline.trans hcount.symm
  · exact absurd ⟨hsplit, hlast⟩ hseen

theorem step_inLine {c : Char} {next? : Option Char} (h : loc.Agrees f stop p)
    (hp : f.bodyStart ≤ p) (hstop : p < stop) (hc : f.chars[p]? = some c) (hreturn : c ≠ '\r')
    (hnewline : c ≠ '\n') : (loc.step c next?).Agrees f stop (p + 1) := by
  have hstarts := f.pairwise_starts
  have hnot : p + 1 ∉ f.lines.starts := by
    rw [SourceFile.succ_mem_starts_iff hp]
    simp [EndsLine, hc, hreturn, hnewline]
  have hwhole : ¬ f.SplitsBreak p := by
    rintro ⟨q, rfl, _, hbreak⟩
    exact hnewline (Option.some.inj (hc.symm.trans hbreak))
  have hline := h.line fun hsplit => Nat.ne_of_lt hstop hsplit.2
  have hcolumn := h.column hwhole
  have hcount := LineTable.startCount_succ hstarts p
  have hlast := LineTable.lastStart_succ_of_not_mem hstarts hnot
  have hle := LineTable.lastStart_le hstarts (SourceFile.startCount_pos hp)
  rw [if_neg hnot] at hcount
  rw [Location.step_of_inLine hreturn hnewline]
  refine ⟨congrArg (· + 1) h.offset, fun _ => ?_, fun _ => ?_⟩
  · exact hline.trans hcount.symm
  · dsimp only
    omega

/-- One character more. Its follower is hidden from the reader only at the end of what is read. -/
theorem step {c : Char} {next? : Option Char} (h : loc.Agrees f stop p) (hp : f.bodyStart ≤ p)
    (hstop : p < stop) (hc : f.chars[p]? = some c)
    (hnext : next? = f.chars[p + 1]? ∨ (next? = none ∧ p + 1 = stop)) :
    (loc.step c next?).Agrees f stop (p + 1) := by
  by_cases hnewline : c = '\n'
  · exact h.step_lineEnd hp hstop (.inl (hnewline ▸ hc)) (.inl hnewline)
  by_cases hreturn : c = '\r'
  · subst hreturn
    by_cases hafter : f.chars[p + 1]? = some '\n'
    · exact h.step_inBreak hp hstop hc hafter hnext
    · refine h.step_lineEnd hp hstop (.inr ⟨hc, hafter⟩) (.inr ⟨rfl, ?_⟩)
      rcases hnext with rfl | ⟨rfl, _⟩
      · exact hafter
      · exact nofun
  · exact h.step_inLine hp hstop hc hreturn hnewline

theorem advance {r : Registry} {id : FileId} {used rest : List Char} (h : loc.Agrees f stop p)
    (hf : r.file? id = some f) (hp : f.bodyStart ≤ p)
    (hslice : r.slice? (.within id p stop) = some (used ++ rest)) :
    (loc.advance used rest).Agrees f stop (p + used.length) := by
  induction used generalizing p loc with
  | nil => exact h
  | cons c cs ih =>
      have hlength := Registry.slice?_length hslice
      have hchars := fun k => Registry.getElem?_of_slice? hf hslice (k := k)
      have hc : f.chars[p]? = some c := hchars 0 (Nat.succ_pos _)
      have hstop : p < stop := by
        rw [List.cons_append, List.length_cons] at hlength
        omega
      have hnext : cs.head?.or rest.head? = f.chars[p + 1]? ∨
          (cs.head?.or rest.head? = none ∧ p + 1 = stop) := by
        rw [← List.head?_append]
        cases hafter : cs ++ rest with
        | nil =>
            refine .inr ⟨rfl, ?_⟩
            rw [List.cons_append, hafter] at hlength
            exact hlength
        | cons d ds =>
            have hd := hchars 1 (by simp [hafter])
            rw [List.cons_append, hafter] at hd
            exact .inl hd.symm
      have hrest : r.slice? (.within id (p + 1) stop) = some (cs ++ rest) :=
        Registry.slice?_append_right (u := [c]) hslice
      rw [Location.advance, List.length_cons, Nat.add_comm cs.length 1, ← Nat.add_assoc]
      exact ih (h.step hp hstop hc hnext) (Nat.le_succ_of_le hp) hrest

end Location.Agrees

namespace Lexer

/-- The lexer stands at the offset `p` of a file, and knows its line and column. -/
structure Tracks (r : Registry) (f : SourceFile) (id : FileId) (stop p : Nat) (l : Lexer) :
    Prop where
  stands : StandsAt r id stop p l
  file : r.file? id = some f
  start_le : f.bodyStart ≤ p
  agrees : l.location.Agrees f stop p

section
variable {r : Registry} {f : SourceFile} {id : FileId} {stop p : Nat} {l : Lexer}

theorem Tracks.moveOver {used rest : List Char} (h : Tracks r f id stop p l)
    (hsplit : used ++ rest = l.rest) :
    Tracks r f id stop (p + used.length) (l.moveOver used rest) := by
  have hslice := h.stands.slice
  rw [← hsplit] at hslice
  refine ⟨h.stands.moveOver hsplit, h.file, ?_, h.agrees.advance h.file h.start_le hslice⟩
  exact Nat.le_trans h.start_le (Nat.le_add_right _ _)

theorem Tracks.iterate (h : Tracks r f id stop p l) (n : Nat) :
    ∃ q, p ≤ q ∧ Tracks r f id stop q ((fun l => l.next.next)^[n] l) :=
  iterate_of_moveOver (motive := Tracks r f id stop) Tracks.moveOver h n

/-- The table of the file gives the line and the column of the cursor. -/
theorem Tracks.lineAt? (h : Tracks r f id stop p l) (hid : f.id? = some id)
    (hstop : stop ≤ f.lines.stop) (hwhole : ¬ f.SplitsBreak p) :
    ∃ i s e, f.lineAt? (.inFile id p) = some i ∧ f.lineSpan i = .within id s e ∧ s ≤ p ∧
      l.location = ⟨i + 1, p - s + 1, p⟩ := by
  have hpos := SourceFile.startCount_pos h.start_le
  have hline := h.agrees.line fun hsplit => hwhole hsplit.1
  have hcolumn := h.agrees.column hwhole
  refine ⟨_, _, _, SourceFile.lineAt?_inFile hid h.start_le (Nat.le_trans h.stands.le_stop hstop),
    SourceFile.lineSpan_eq hid _, LineTable.lastStart_le f.pairwise_starts hpos, ?_⟩
  have hparts : l.location = ⟨l.location.line, l.location.column, l.location.offset⟩ := rfl
  rw [hparts, hline, hcolumn, h.agrees.offset, Nat.sub_add_cancel hpos]
  rfl

theorem tracks_ofSpan {a b : Nat} (h : r.Encloses f id a b) (hid : f.id? = some id) :
    Tracks r f id b a (ofSpan r (.within id a b)) := by
  obtain ⟨text, htext⟩ := h.slice?
  refine ⟨standsAt_ofSpan htext, h.file, h.start_le, ?_⟩
  have hpos := SourceFile.startCount_pos h.start_le
  have hline := SourceFile.lineAt?_inFile hid h.start_le (Nat.le_trans h.ordered h.le_stop)
  have hlocation : startLocation r (.within id a b) =
      ⟨f.lines.startCount a - 1 + 1, a - f.lines.lastStart a + 1, a⟩ := by
    have hfile : r.fileOf? (.within id a b) = some f := h.file
    rw [startLocation, hfile]
    dsimp only [Span.start]
    rw [hline]
    dsimp only
    rw [SourceFile.lineSpan_eq hid]
    rfl
  have hof : (ofSpan r (.within id a b)).location = startLocation r (.within id a b) := rfl
  rw [hof, hlocation, Nat.sub_add_cancel hpos]
  exact ⟨rfl, fun _ => rfl, fun _ => rfl⟩

/-- However often a lexer has gone on, over errors too, its cursor and the table of its file agree
on the line and the column, except between a `\r` and the `\n` after it. -/
theorem cursor_agrees {files : List SourceFile} {a b : Nat}
    (h : (Registry.ofFiles files).Encloses f id a b) (n : Nat) :
    let l := (fun l => l.next.next)^[n] (ofSpan (Registry.ofFiles files) (.within id a b))
    ∃ p, l.position = .inFile id p ∧ a ≤ p ∧ p ≤ b ∧ l.location.offset = p ∧
      (¬ f.SplitsBreak p → ∃ i s e, f.lineAt? (.inFile id p) = some i ∧
        f.lineSpan i = .within id s e ∧ s ≤ p ∧ l.location = ⟨i + 1, p - s + 1, p⟩) := by
  intro l
  have hid := Registry.numbered_ofFiles files id f h.file
  obtain ⟨p, hp, htracks⟩ := (tracks_ofSpan h hid).iterate n
  refine ⟨p, htracks.stands.position, hp, htracks.stands.le_stop, htracks.agrees.offset, ?_⟩
  exact htracks.lineAt? hid h.le_stop

end

/-- The span starts between a `\r` and its `\n`, and ends between two others. -/
theorem cursor_agrees_in_breaks :
    let chars := ['\ufeff', 'a', '\r', '\n', 'b', '\r', 'c', '\r', '\n']
    let f : SourceFile := ⟨"mixed", chars, some ⟨0⟩⟩
    let l := (fun l => l.next.next)^[3] (ofSpan (Registry.ofFiles [f]) (.within ⟨0⟩ 3 8))
    ∃ i s e, f.lineAt? (.inFile ⟨0⟩ 7) = some i ∧ f.lineSpan i = .within ⟨0⟩ s e ∧ s ≤ 7 ∧
      l.location = ⟨i + 1, 7 - s + 1, 7⟩ := by
  intro chars f l
  have h : (Registry.ofFiles [f]).Encloses f ⟨0⟩ 3 8 := ⟨rfl, by decide, by decide, by decide⟩
  obtain ⟨p, _, _, _, hoffset, hagrees⟩ := cursor_agrees h 3
  have hseven : l.location.offset = 7 := by decide +kernel
  obtain rfl : 7 = p := hseven.symm.trans hoffset
  refine hagrees ?_
  rintro ⟨q, hq, hreturn, _⟩
  obtain rfl : 6 = q := Nat.succ.inj hq
  exact absurd hreturn (by decide)

end Lexer

end Frontend
