/- The lines that a test file numbers are those that reports on the input of a test are about. -/
import Frontend.Proofs.Source.Joined
import Frontend.Proofs.Source.Registration
import Frontend.Proofs.TestFile.Mark
import Frontend.TestRun.Outcome

namespace Frontend

/-- A note that points to its own line expects a report on this line. -/
theorem Note.lines_of_here {number : Nat} {note : Note} {e : Expectation}
    (h : note.expectation number = .ok e) (hmarks : note.marks = some (.here, none)) :
    e.lines = some (number, number) ∧ Severity.ofWord? note.kind = some e.severity ∧
      e.text = note.text := by
  have hresolve : resolveMarks number (some (.here, none)) =
      if number < number ∨ number = 0 then .error .malformed else .ok (some (number, number)) := rfl
  rw [expectation, hmarks, hresolve] at h
  split at h
  · cases h
  · cases hseverity : Severity.ofWord? note.kind with
    | none =>
        rw [hseverity] at h
        cases h
    | some severity =>
        rw [hseverity] at h
        cases h
        exact ⟨rfl, rfl, rfl⟩

namespace TestCase

/-- The registry that a run of a test starts with. -/
def registry (t : TestCase) : Registry := (Registry.add {} (TestRun.inputFile t)).1

/-- The span of the whole input of a test. -/
def span (t : TestCase) : Span := (Registry.add {} (TestRun.inputFile t)).2

/-- A position in the span of the input lies in entry `k` or at its end. -/
def InEntry (t : TestCase) (k p : Nat) : Prop :=
  t.span.start.offset ≤ p ∧ ∃ entry, t.input[k]? = some entry ∧ entryStart t.input k ≤ p ∧
    p ≤ entryStart t.input k + entry.length

/-- A test goes with the lines after a divider: line `k` of the input, counted from zero, is what
stands in the file `k` lines further down. -/
structure LinesUp (t : TestCase) (number : Nat) (after : List (List Char)) : Prop where
  firstLine : t.firstLine = number + 1
  length : t.input.length = (Section.linesOf after).length
  starts : ∀ (k : Nat) (entry : List Char), t.input[k]? = some entry →
    ∃ line, after[k]? = some line ∧ entry <+: line
  slice : ∀ (k : Nat) (entry : List Char), t.input[k]? = some entry → t.registry.slice?
    (.within ⟨0⟩ (entryStart t.input k) (entryStart t.input k + entry.length)) = some entry
  lineAt : ∀ k p, t.InEntry k p →
    (t.registry.file? ⟨0⟩).bind (·.lineAt? (.inFile ⟨0⟩ p)) = some k
  key : ∀ subject locale before run, TestRun.ofTest subject locale before t = .ok run →
    ∀ k a b r, r.span = .within ⟨0⟩ a b → t.InEntry k a → t.InEntry k b →
      (TestRun.key run.registry r).lines = some (k + 1, k + 1)
  here : ∀ k line before note, (Section.linesOf after)[k]? = some line →
    OutputLine.ofLine? line = none → Note.find? line = some (before, note) →
    note.marks = some (.here, none) → ∃ e ∈ t.reports, e.lines = some (k + 1, k + 1) ∧
      Severity.ofWord? note.kind = some e.severity ∧ e.text = note.text

variable {t : TestCase} {k p : Nat}

/-- The input of a test as the only file of its registry. -/
def file (t : TestCase) : SourceFile := { TestRun.inputFile t with id? := some ⟨0⟩ }

theorem file?_registry (t : TestCase) : t.registry.file? ⟨0⟩ = some t.file := rfl

theorem lineAt?_of_inEntry (h : ∀ entry ∈ t.input, IsLine entry) (hp : t.InEntry k p) :
    t.file.lineAt? (.inFile ⟨0⟩ p) = some k := by
  obtain ⟨hbody, entry, hk, hstart, hstop⟩ := hp
  exact SourceFile.lineAt?_of_joinLines rfl rfl h hk hbody hstart hstop

theorem slice?_entry {entry : List Char} (h : t.input[k]? = some entry) : t.registry.slice?
    (.within ⟨0⟩ (entryStart t.input k) (entryStart t.input k + entry.length)) = some entry := by
  obtain ⟨before, after, hjoin, hlength⟩ := exists_joinLines_eq h
  exact Registry.slice?_eq_some_iff.mpr ⟨_, before, after, file?_registry t, hjoin, hlength, rfl⟩

/-- The input stays the first file, whatever a subject adds. -/
theorem file?_of_ofTest {subject : Subject} {locale : Locale} {before : Nat} {run : TestRun}
    (h : TestRun.ofTest subject locale before t = .ok run) :
    run.registry.file? ⟨0⟩ = some t.file := by
  obtain ⟨added, hadded⟩ := TestRun.registry_of_ofTest h
  rw [hadded]
  exact Registry.file?_addAll (file?_registry t) added

theorem key_of_inEntry (h : ∀ entry ∈ t.input, IsLine entry) {registry : Registry}
    (hfirst : registry.file? ⟨0⟩ = some t.file) {r : Report} {a b : Nat}
    (hspan : r.span = .within ⟨0⟩ a b) (ha : t.InEntry k a) (hb : t.InEntry k b) :
    (TestRun.key registry r).lines = some (k + 1, k + 1) := by
  have hfile : registry.fileOf? r.span = some t.file := by
    rw [Registry.fileOf?, hspan]
    exact hfirst
  have hends : t.file.lineEnds? r.span = some (k, k) := by
    rw [SourceFile.lineEnds?, hspan, Span.start, Span.stop, lineAt?_of_inEntry h ha,
      lineAt?_of_inEntry h hb]
    rfl
  simp only [TestRun.key, hfile, Option.bind_eq_bind, Option.bind_some, hends]
  rfl

/-- A line of a test that expects a report here has it among the reports of the test. -/
theorem IsOf.exists_here {s : Section} (h : t.IsOf s) {line before : List Char} {note : Note}
    (hline : s.lines[k]? = some line) (houtput : OutputLine.ofLine? line = none)
    (hfind : Note.find? line = some (before, note)) (hmarks : note.marks = some (.here, none)) :
    ∃ e ∈ t.reports, e.lines = some (k + 1, k + 1) ∧
      Severity.ofWord? note.kind = some e.severity ∧ e.text = note.text := by
  obtain ⟨rows, hrows, _, hreports⟩ := h.rows
  have hk : k < rows.length := hrows.length_eq ▸ (List.getElem?_eq_some_iff.mp hline).1
  obtain ⟨line', hline', hread⟩ := hrows.read_getElem? (List.getElem?_eq_getElem hk)
  cases hline.symm.trans hline'
  rw [Row.read_of_note houtput hfind, Nat.add_comm 1 k] at hread
  obtain ⟨e, hexpect, hrow⟩ := map_eq_ok_iff.mp hread
  refine ⟨e, ?_, Note.lines_of_here hexpect hmarks⟩
  rw [hreports, List.mem_filterMap]
  exact ⟨rows[k], List.getElem_mem hk, by rw [← hrow]; rfl⟩

theorem IsOf.linesUp {s : Section} {after : List (List Char)} (h : t.IsOf s)
    (hlines : s.lines = Section.linesOf after) (hafter : ∀ line ∈ after, IsLine line) :
    t.LinesUp s.number after := by
  obtain ⟨rows, hrows, hinput, _⟩ := h.rows
  have hstarts : ∀ (k : Nat) (entry : List Char), t.input[k]? = some entry →
      ∃ line, after[k]? = some line ∧ entry <+: line := by
    intro k entry hk
    rw [hinput, List.getElem?_map] at hk
    obtain ⟨row, hrow, rfl⟩ := Option.map_eq_some_iff.mp hk
    obtain ⟨line, hline, hread⟩ := hrows.read_getElem? hrow
    rw [hlines] at hline
    exact ⟨line, Section.getElem?_of_linesOf hline, (Row.strips_of_read hread).entry_starts⟩
  have hentries : ∀ entry ∈ t.input, IsLine entry := by
    intro entry hentry
    obtain ⟨k, hk⟩ := List.mem_iff_getElem?.mp hentry
    obtain ⟨line, hline, hpre⟩ := hstarts k entry hk
    have hisLine := hafter line (List.mem_of_getElem? hline)
    exact ⟨fun hmem => hisLine.1 (hpre.subset hmem), fun hmem => hisLine.2 (hpre.subset hmem)⟩
  exact {
    firstLine := h.firstLine
    length := by rw [hinput, List.length_map, hrows.length_eq, hlines]
    starts := hstarts
    slice := fun _ _ => slice?_entry
    lineAt := fun _ _ hp => lineAt?_of_inEntry hentries hp
    key := by
      intro subject locale before run hrun k a b r hspan ha hb
      exact key_of_inEntry hentries (file?_of_ofTest hrun) hspan ha hb
    here := fun _ _ _ _ hline => h.exists_here (hlines ▸ hline) }

/-- The number that a test file gives to a line is the number under which a report finds it. -/
theorem linesUp_of_ofLines {lines : List (List Char)} {tests : List TestCase}
    (hlines : ∀ line ∈ lines, IsLine line) (h : ofLines lines = .ok tests) :
    tests.Pairwise (fun t t' => t.firstLine < t'.firstLine) ∧
      ∀ t ∈ tests, ∃ before divider after, lines = before ++ divider :: after ∧
        (Divider.ofLine? divider).isSome ∧ t.LinesUp (before.length + 1) after := by
  refine ⟨pairwise_firstLine h, ?_⟩
  intro t ht
  obtain ⟨s, hs, hof⟩ := exists_section h ht
  obtain ⟨before, line, after, rfl, hnumber, hdivider, hsection⟩ := Section.exists_of_mem_allOf hs
  refine ⟨before, line, after, rfl, Option.isSome_of_eq_some hdivider, ?_⟩
  rw [Nat.add_comm, ← hnumber]
  exact hof.linesUp hsection fun line hline =>
    hlines line (List.mem_append_right _ (List.mem_cons_of_mem _ hline))

/-- The file of a test whose second line expects a report on itself. -/
def pointingHere : List (List Char) :=
  ["//--8<-- t".toList, "a".toList, "b //@< Error: c".toList]

def pointingHereTest : TestCase where
  firstLine := 2
  name := "t".toList
  ignored := false
  exact := false
  input := ["a".toList, "b ".toList]
  reports := [⟨some (2, 2), .error, "c".toList⟩]

theorem linesUp_of_ofLines_pointingHere :
    (∀ line ∈ pointingHere, IsLine line) ∧ ofLines pointingHere = .ok [pointingHereTest] ∧
      [pointingHereTest].Pairwise (fun t t' => t.firstLine < t'.firstLine) ∧
      ∀ t ∈ [pointingHereTest], ∃ before divider after,
        pointingHere = before ++ divider :: after ∧ (Divider.ofLine? divider).isSome ∧
          t.LinesUp (before.length + 1) after := by
  have hlines : ∀ line ∈ pointingHere, IsLine line := by decide
  have htests : ofLines pointingHere = .ok [pointingHereTest] := by rfl
  exact ⟨hlines, htests, linesUp_of_ofLines hlines htests⟩

end TestCase

end Frontend
