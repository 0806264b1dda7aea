/- Which marks of a line are taken out of the input of a test, and which stay in it. -/
import Frontend.Proofs.TestFile.Section
import Frontend.Proofs.Text.Cut

namespace Frontend

namespace Note

variable {line before u v : List Char} {note : Note}

theorem find?_cons_of_not_starts {c : Char} {cs : List Char} (h : ¬ mark <+: c :: cs) :
    find? (c :: cs) = (find? cs).map fun (before, note) => (c :: before, note) := by
  rw [find?, Text.after?_eq_none_iff.mpr h, Option.bind_none]

theorem find?_mark_append (v : List Char) : find? (mark ++ v) =
    match read? v with
    | some note => some ([], note)
    | none => (find? v).map fun (before, note) => (mark ++ before, note) := by
  have hafter : Text.after? mark ('/' :: '/' :: '@' :: v) = some v :=
    Text.after?_eq_some_iff.mpr rfl
  have hslash : ¬ mark <+: '/' :: '@' :: v := by simp [mark]
  have hat : ¬ mark <+: '@' :: v := by simp [mark]
  change find? ('/' :: '/' :: '@' :: v) = _
  rw [find?, hafter, Option.bind_some, find?_cons_of_not_starts hslash,
    find?_cons_of_not_starts hat]
  cases read? v with
  | some note => rfl
  | none =>
      simp only [Option.map_map]
      rfl

/-- A note is looked for after each mark in turn. -/
theorem find?_eq (line : List Char) : find? line =
    (Text.cut? mark line).bind fun (u, v) =>
      match read? v with
      | some note => some (u, note)
      | none => (find? v).map fun (before, note) => (u ++ mark ++ before, note) := by
  induction line with
  | nil => rfl
  | cons c cs ih =>
      by_cases hstarts : mark <+: c :: cs
      · obtain ⟨v, hv⟩ := hstarts
        rw [Text.cut?_cons_of_starts ⟨v, hv⟩, ← hv, find?_mark_append, List.drop_left]
        rfl
      · rw [Text.cut?_cons_of_not_starts hstarts, find?_cons_of_not_starts hstarts, ih]
        cases hcut : Text.cut? mark cs with
        | none => rfl
        | some parts =>
            obtain ⟨u, v⟩ := parts
            simp only [Option.bind_some, Option.map_some]
            cases read? v with
            | some note => rfl
            | none =>
                simp only [Option.map_map]
                rfl

theorem exists_of_find? (h : find? line = some (before, note)) :
    ∃ rest, line = before ++ mark ++ rest ∧ read? rest = some note := by
  induction line generalizing before with
  | nil => cases h
  | cons c cs ih =>
      unfold find? at h
      split at h
      · rename_i note' hnote
        cases h
        obtain ⟨rest, hafter, hread⟩ := Option.bind_eq_some_iff.mp hnote
        exact ⟨rest, Text.after?_eq_some_iff.mp hafter, hread⟩
      · obtain ⟨⟨before', note'⟩, hfind, hpair⟩ := Option.map_eq_some_iff.mp h
        cases hpair
        obtain ⟨rest, hcs, hread⟩ := ih hfind
        exact ⟨rest, by rw [hcs]; rfl, hread⟩

end Note

/-- Two slashes and a character do not reach into two slashes and another character. -/
theorem slashes_starts {c d : Char} {v w y : List Char} (hcd : c ≠ d) (hc : c ≠ '/')
    (h : ['/', '/', c] ++ v = w ++ (['/', '/', d] ++ y)) : ['/', '/', c] <+: w := by
  rcases w with _ | ⟨a, _ | ⟨b, _ | ⟨e, w⟩⟩⟩
  · simp [hcd] at h
  · simp [hc] at h
  · simp [hc] at h
  · simp only [List.cons_append, List.cons.injEq, List.nil_append] at h
    obtain ⟨rfl, rfl, rfl, _⟩ := h
    exact List.prefix_append _ w

/-- A mark of output and a mark of a note have no character in common. -/
theorem marks_apart {u v x y : List Char}
    (h : u ++ OutputLine.mark ++ v = x ++ Note.mark ++ y) :
    u ++ OutputLine.mark <+: x ∨ x ++ Note.mark <+: u := by
  rw [List.append_assoc, List.append_assoc] at h
  rcases List.append_eq_append_iff.mp h with ⟨w, rfl, hw⟩ | ⟨w, rfl, hw⟩
  · exact .inl ((List.prefix_append_right_inj u).mpr
      (slashes_starts (by decide) (by decide) hw))
  · exact .inr ((List.prefix_append_right_inj x).mpr
      (slashes_starts (by decide) (by decide) hw))

/-- The first mark of a note comes before any mark of output, but it stays in the input: there is
a mark of output after it, or no note. -/
def KeepsMark (line : List Char) : Prop :=
  ∃ u v, Text.cut? Note.mark line = some (u, v) ∧ ¬ OutputLine.mark <:+: u ∧
    (OutputLine.mark <:+: v ∨ Note.read? v = none)

/-- Before a mark of output the first mark of a note stays in the input. -/
theorem note_infix_iff_of_output {line before text : List Char}
    (hcut : Text.cut? OutputLine.mark line = some (before, text)) :
    Note.mark <:+: before ↔ KeepsMark line := by
  have hline := Text.append_of_cut? hcut
  constructor
  · intro hnote
    obtain ⟨⟨u, v⟩, hu⟩ := Option.isSome_iff_exists.mp (Text.cut?_isSome_iff.mpr hnote)
    have hkeeps := Text.cut?_append hu (OutputLine.mark ++ text)
    rw [← List.append_assoc, hline] at hkeeps
    refine ⟨u, _, hkeeps, ?_, .inl ⟨v, text, List.append_assoc _ _ _⟩⟩
    intro hmark
    exact Text.not_infix_of_cut? (by decide) hcut
      (hmark.trans (Text.before_starts_of_cut? hu).isInfix)
  · rintro ⟨u, v, hu, hno, _⟩
    rcases marks_apart (hline.trans (Text.append_of_cut? hu).symm) with hmark | hmark
    · exact absurd ((List.suffix_append _ _).isInfix.trans hmark.isInfix) hno
    · exact (List.suffix_append _ _).isInfix.trans hmark.isInfix

/-- In a line without output the first mark of a note stays in the input if no note follows it. -/
theorem note_infix_iff_of_find? {line before : List Char} {note : Note}
    (hno : ¬ OutputLine.mark <:+: line) (hfind : Note.find? line = some (before, note)) :
    Note.mark <:+: before ↔ KeepsMark line := by
  rw [Note.find?_eq] at hfind
  obtain ⟨⟨u, v⟩, hcut, hread⟩ := Option.bind_eq_some_iff.mp hfind
  cases hv : Note.read? v with
  | some note' =>
      simp only [hv, Option.some.injEq, Prod.mk.injEq] at hread
      obtain ⟨rfl, rfl⟩ := hread
      refine iff_of_false (Text.not_infix_of_cut? (by decide) hcut) ?_
      rintro ⟨u', v', hcut', _, hkept⟩
      cases hcut.symm.trans hcut'
      rcases hkept with hmark | hnone
      · exact hno (hmark.trans (Text.after_ends_of_cut? hcut).isInfix)
      · cases hv.symm.trans hnone
  | none =>
      simp only [hv] at hread
      obtain ⟨⟨before', note'⟩, _, hpair⟩ := Option.map_eq_some_iff.mp hread
      cases hpair
      refine iff_of_true ⟨u, before', rfl⟩ ⟨u, v, hcut, ?_, .inr hv⟩
      exact fun hmark => hno (hmark.trans (Text.before_starts_of_cut? hcut).isInfix)

namespace Row

variable {line : List Char} {row : Row} {number : Nat}

theorem read_of_note {before : List Char} {note : Note}
    (houtput : OutputLine.ofLine? line = none) (hfind : Note.find? line = some (before, note)) :
    read number line = (note.expectation number).map fun e => .input before (some e) := by
  simp only [read, houtput, splitLine, hfind]
  cases note.expectation number <;> rfl

/-- The input of a line ends at a mark or with the line. -/
structure Strips (line : List Char) (row : Row) : Prop where
  ends : row.entry = line ∨
    ∃ mark ∈ [OutputLine.mark, Note.mark], ∃ rest, line = row.entry ++ mark ++ rest
  no_output : ¬ OutputLine.mark <:+: row.entry
  note_iff : Note.mark <:+: row.entry ↔ KeepsMark line
  expected_iff : row.expected?.isSome ↔
    Note.mark <:+: line ∧ ¬ OutputLine.mark <:+: line

theorem Strips.entry_starts (h : row.Strips line) : row.entry <+: line := by
  rcases h.ends with hall | ⟨mark, _, rest, hrest⟩
  · rw [hall]
  · rw [hrest, List.append_assoc]
    exact List.prefix_append _ _

theorem strips_output {said : OutputLine} (h : OutputLine.ofLine? line = some said) :
    (output said).Strips line := by
  obtain ⟨⟨before, text⟩, hcut, rfl⟩ := Option.map_eq_some_iff.mp h
  have hentry : (output (OutputLine.ofText before text)).entry = before := by
    simp only [entry, OutputLine.ofText]
    split <;> rfl
  have hline := Text.append_of_cut? hcut
  refine ⟨.inr ⟨_, List.mem_cons_self, text, ?_⟩, ?_, ?_, ?_⟩
  · rw [hentry, hline]
  · rw [hentry]
    exact Text.not_infix_of_cut? (by decide) hcut
  · rw [hentry]
    exact note_infix_iff_of_output hcut
  · refine iff_of_false Bool.false_ne_true ?_
    rintro ⟨_, hno⟩
    exact hno ⟨before, text, hline⟩

theorem strips_input {text : List Char} {expected? : Option Expectation}
    (houtput : OutputLine.ofLine? line = none)
    (h : splitLine number line = .ok (text, expected?)) : (input text expected?).Strips line := by
  have hno : ¬ OutputLine.mark <:+: line :=
    Text.cut?_eq_none_iff.mp (Option.map_eq_none_iff.mp houtput)
  unfold splitLine at h
  split at h
  · rename_i before note hfind
    obtain ⟨e, _, hpair⟩ := map_eq_ok_iff.mp h
    cases hpair
    obtain ⟨rest, hline, _⟩ := Note.exists_of_find? hfind
    refine ⟨.inr ⟨Note.mark, by simp, rest, hline⟩, ?_, note_infix_iff_of_find? hno hfind, ?_⟩
    · intro hmark
      rw [hline, List.append_assoc] at hno
      exact hno (hmark.trans (List.prefix_append _ _).isInfix)
    · exact iff_of_true rfl ⟨⟨text, rest, hline.symm⟩, hno⟩
  · split at h
    · cases h
    · rename_i hnote
      cases h
      rw [Text.occursIn_iff] at hnote
      refine ⟨.inl rfl, hno, iff_of_false hnote ?_, iff_of_false Bool.false_ne_true ?_⟩
      · rintro ⟨u, v, hcut, _⟩
        exact hnote ⟨u, v, Text.append_of_cut? hcut⟩
      · exact fun h => hnote h.1

/-- What is read of a line of a test. -/
theorem strips_of_read (h : read number line = .ok row) : row.Strips line := by
  unfold read at h
  split at h
  · rename_i said houtput
    cases h
    exact strips_output houtput
  · rename_i houtput
    obtain ⟨parts, hsplit, rfl⟩ := map_eq_ok_iff.mp h
    exact strips_input houtput hsplit

end Row

namespace TestCase

/-- The entries and the reports of a test are what its lines are read as, each for itself. A mark
of output never stays in an entry, a mark of a note does just where `KeepsMark` says so, and a line
that has a mark of a note but none of output leads to one report. -/
theorem strips_of_ofLines {lines : List (List Char)} {tests : List TestCase}
    (h : ofLines lines = .ok tests) :
    ∀ t ∈ tests, ∃ s ∈ Section.allOf 1 lines, t.firstLine = s.number + 1 ∧
      ∃ rows : List Row, t.input = rows.map (·.entry) ∧ t.reports = rows.filterMap (·.expected?) ∧
        List.Forall₂ Row.Strips s.lines rows := by
  intro t ht
  obtain ⟨s, hs, hof⟩ := exists_section h ht
  obtain ⟨rows, hrows, hinput, hreports⟩ := hof.rows
  exact ⟨s, hs, hof.firstLine, rows, hinput, hreports,
    hrows.forall₂ fun _ _ _ => Row.strips_of_read⟩

/-- The file of a test whose only line has a mark without a note before a note. -/
def markedTwice : List (List Char) := ["//--8<-- t".toList, "a //@ b //@ Error: c".toList]

def markedTwiceTest : TestCase where
  firstLine := 2
  name := "t".toList
  ignored := false
  exact := false
  input := ["a //@ b ".toList]
  reports := [⟨none, .error, "c".toList⟩]

theorem ofLines_markedTwice : ofLines markedTwice = .ok [markedTwiceTest] := by
  rfl

theorem strips_of_ofLines_markedTwice : ofLines markedTwice = .ok [markedTwiceTest] ∧
    ∀ t ∈ [markedTwiceTest], ∃ s ∈ Section.allOf 1 markedTwice, t.firstLine = s.number + 1 ∧
      ∃ rows : List Row, t.input = rows.map (·.entry) ∧ t.reports = rows.filterMap (·.expected?) ∧
        List.Forall₂ Row.Strips s.lines rows :=
  ⟨ofLines_markedTwice, strips_of_ofLines ofLines_markedTwice⟩

/-- Not every mark is taken out of the input. -/
theorem not_all_marks_stripped : ¬ ∀ lines tests, ofLines lines = .ok tests →
    ∀ t ∈ tests, ∀ entry ∈ t.input, ¬ OutputLine.mark <:+: entry ∧ ¬ Note.mark <:+: entry := by
  intro h
  have hentry := h markedTwice [markedTwiceTest] ofLines_markedTwice markedTwiceTest
    List.mem_cons_self "a //@ b ".toList List.mem_cons_self
  exact hentry.2 ⟨"a ".toList, " b ".toList, rfl⟩

end TestCase

end Frontend
