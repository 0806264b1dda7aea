/- The lines after each divider of a test file make up one test, with one entry of input a line. -/
import Frontend.TestFile.Basic
import Mathlib.Data.List.Forall2

namespace Frontend

section
variable {ε α β : Type} {x : Except ε α} {b : β}

theorem map_eq_ok_iff {f : α → β} : x.map f = .ok b ↔ ∃ a, x = .ok a ∧ f a = b := by
  cases x with
  | error e => simp [Except.map]
  | ok a => simp [Except.map]

theorem bind_eq_ok_iff {f : α → Except ε β} :
    x.bind f = .ok b ↔ ∃ a, x = .ok a ∧ f a = .ok b := by
  cases x with
  | error e => simp [Except.bind]
  | ok a => simp [Except.bind]

end

/-- What a line of a test adds to it. -/
inductive Row where
  | output (line : OutputLine)
  | input (text : List Char) (expected? : Option Expectation)
  deriving DecidableEq

namespace Row

/-- The row of a line, which is the line `number` of its test. -/
def read (number : Nat) (line : List Char) : Except ExpectationError Row :=
  match OutputLine.ofLine? line with
  | some said => .ok (.output said)
  | none => (splitLine number line).map fun (text, expected?) => .input text expected?

def entry : Row → List Char
  | output line => line.before
  | input text _ => text

def expected? : Row → Option Expectation
  | output _ => none
  | input _ expected? => expected?

def said? : Row → Option OutputLine
  | output line => some line
  | input _ _ => none

def goesOn : Row → Bool
  | output line => line.goesOn
  | input _ _ => false

/-- Each line of output that goes on is followed by another one; `goesOn` is about the line before
the first. -/
def Joined : Bool → List Row → Prop
  | goesOn, [] => goesOn = false
  | goesOn, row :: rows => (goesOn = true → row.said?.isSome = true) ∧ Joined row.goesOn rows

theorem said?_of_read {number : Nat} {line : List Char} {row : Row}
    (h : read number line = .ok row) : row.said? = OutputLine.ofLine? line := by
  unfold read at h
  split at h
  · rename_i said houtput
    cases h
    exact houtput.symm
  · rename_i houtput
    obtain ⟨parts, _, rfl⟩ := map_eq_ok_iff.mp h
    exact houtput.symm

end Row

/-- The rows of lines, the first of which is the line `number` of its test. -/
inductive Rows : Nat → List (List Char) → List Row → Prop where
  | nil {number} : Rows number [] []
  | cons {number line lines row rows} (hrow : Row.read number line = .ok row)
      (hrows : Rows (number + 1) lines rows) : Rows number (line :: lines) (row :: rows)

theorem Rows.length_eq {number : Nat} {lines : List (List Char)} {rows : List Row}
    (h : Rows number lines rows) : rows.length = lines.length := by
  induction h with
  | nil => rfl
  | cons hrow hrows ih => exact congrArg Nat.succ ih

theorem Rows.read_getElem? {number : Nat} {lines : List (List Char)} {rows : List Row}
    (h : Rows number lines rows) {k : Nat} {row : Row} (hk : rows[k]? = some row) :
    ∃ line, lines[k]? = some line ∧ Row.read (number + k) line = .ok row := by
  induction h generalizing k with
  | nil => cases hk
  | @cons number line lines row' rows hrow hrows ih =>
      cases k with
      | zero =>
          cases hk
          exact ⟨line, rfl, hrow⟩
      | succ k =>
          obtain ⟨line', hline, hread⟩ := ih hk
          rw [Nat.add_right_comm] at hread
          exact ⟨line', hline, hread⟩

theorem Rows.forall₂ {P : List Char → Row → Prop} {number : Nat} {lines : List (List Char)}
    {rows : List Row} (h : Rows number lines rows)
    (hread : ∀ number line row, Row.read number line = .ok row → P line row) :
    List.Forall₂ P lines rows := by
  induction h with
  | nil => exact .nil
  | cons hrow hrows ih => exact .cons (hread _ _ _ hrow) ih

namespace TestCase

/-- A test with one more row; `goesOn` says whether its last line of output does. -/
def addRow (t : TestCase) (goesOn : Bool) : Row → TestCase
  | .output line => TestReader.addOutput t goesOn line
  | .input text expected? =>
    { t with input := t.input ++ [text], reports := t.reports ++ expected?.toList }

section
variable (t : TestCase) (goesOn : Bool) (row : Row)

@[simp] theorem addRow_input : (t.addRow goesOn row).input = t.input ++ [row.entry] := by
  cases row <;> rfl

@[simp] theorem addRow_reports :
    (t.addRow goesOn row).reports = t.reports ++ row.expected?.toList := by
  cases row with
  | output line => exact (List.append_nil _).symm
  | input text expected? => rfl

@[simp] theorem addRow_firstLine : (t.addRow goesOn row).firstLine = t.firstLine := by
  cases row <;> rfl

end

/-- A test is what another one becomes when these lines are added to it. -/
structure Extends (t : TestCase) (lines : List (List Char)) (t' : TestCase) : Prop where
  firstLine : t'.firstLine = t.firstLine
  rows : ∃ rows, Rows (t.input.length + 1) lines rows ∧
    t'.input = t.input ++ rows.map (·.entry) ∧
    t'.reports = t.reports ++ rows.filterMap (·.expected?)

theorem Extends.nil (t : TestCase) : t.Extends [] t := by
  refine ⟨rfl, [], .nil, ?_, ?_⟩
  · exact (List.append_nil _).symm
  · exact (List.append_nil _).symm

theorem Extends.cons {t t' : TestCase} {goesOn : Bool} {row : Row} {line : List Char}
    {lines : List (List Char)} (hrow : Row.read (t.input.length + 1) line = .ok row)
    (h : (t.addRow goesOn row).Extends lines t') : t.Extends (line :: lines) t' := by
  obtain ⟨hfirst, rows, hrows, hinput, hreports⟩ := h
  rw [addRow_input, List.length_append] at hrows
  refine ⟨hfirst.trans (addRow_firstLine t goesOn row), row :: rows, .cons hrow hrows, ?_, ?_⟩
  · rw [hinput, addRow_input, List.append_assoc]
    rfl
  · rw [hreports, addRow_reports, List.append_assoc, List.filterMap_cons]
    cases row.expected? <;> rfl

/-- A test with more rows, one after the other. -/
def addRows (t : TestCase) (goesOn : Bool) : List Row → TestCase
  | [] => t
  | row :: rows => (t.addRow goesOn row).addRows row.goesOn rows

theorem extends_addRows {t : TestCase} {lines : List (List Char)} {rows : List Row}
    (h : Rows (t.input.length + 1) lines rows) (goesOn : Bool) :
    t.Extends lines (t.addRows goesOn rows) := by
  induction rows generalizing t lines goesOn with
  | nil =>
      cases h
      exact .nil t
  | cons row rows ih =>
      cases h with
      | cons hrow hrows => exact .cons hrow (ih (by simpa using hrows) row.goesOn)

end TestCase

/-- A divider on line `number` of a file, and the lines from there up to the next one. -/
structure Section where
  number : Nat
  divider : Divider
  lines : List (List Char)

namespace Section

/-- The lines that come before a divider. -/
def linesOf (lines : List (List Char)) : List (List Char) :=
  lines.takeWhile fun line => (Divider.ofLine? line).isNone

/-- The sections of lines, the first of which has the number `number` in the file. -/
def allOf (number : Nat) : List (List Char) → List Section
  | [] => []
  | line :: lines =>
    match Divider.ofLine? line with
    | some divider => ⟨number, divider, linesOf lines⟩ :: allOf (number + 1) lines
    | none => allOf (number + 1) lines

variable {number : Nat} {line : List Char} {lines : List (List Char)} {s : Section}

theorem linesOf_of_divider {d : Divider} (h : Divider.ofLine? line = some d) :
    linesOf (line :: lines) = [] := by
  simp [linesOf, h]

theorem linesOf_of_no_divider (h : Divider.ofLine? line = none) :
    linesOf (line :: lines) = line :: linesOf lines := by
  simp [linesOf, h]

theorem allOf_of_divider {d : Divider} (h : Divider.ofLine? line = some d) :
    allOf number (line :: lines) = ⟨number, d, linesOf lines⟩ :: allOf (number + 1) lines := by
  rw [allOf, h]

theorem allOf_of_no_divider (h : Divider.ofLine? line = none) :
    allOf number (line :: lines) = allOf (number + 1) lines := by
  rw [allOf, h]

theorem getElem?_of_linesOf {k : Nat} (h : (linesOf lines)[k]? = some line) :
    lines[k]? = some line := by
  obtain ⟨rest, hrest⟩ : linesOf lines <+: lines := List.takeWhile_prefix _
  rw [← hrest]
  exact List.getElem?_append_left (List.getElem?_eq_some_iff.mp h).1 ▸ h

/-- A section stands where its divider is. -/
theorem exists_of_mem_allOf (h : s ∈ allOf number lines) :
    ∃ before line after, lines = before ++ line :: after ∧ s.number = number + before.length ∧
      Divider.ofLine? line = some s.divider ∧ s.lines = linesOf after := by
  induction lines generalizing number with
  | nil => cases h
  | cons line lines ih =>
      have hlater : s ∈ allOf (number + 1) lines → ∃ before line' after,
          line :: lines = before ++ line' :: after ∧ s.number = number + before.length ∧
            Divider.ofLine? line' = some s.divider ∧ s.lines = linesOf after := by
        intro h
        obtain ⟨before, line', after, rfl, hnumber, hdivider, hlines⟩ := ih h
        refine ⟨line :: before, line', after, rfl, ?_, hdivider, hlines⟩
        rw [hnumber, List.length_cons]
        omega
      cases hdivider : Divider.ofLine? line with
      | none => exact hlater (allOf_of_no_divider hdivider ▸ h)
      | some d =>
          rw [allOf_of_divider hdivider] at h
          rcases List.mem_cons.mp h with rfl | h
          · exact ⟨[], line, lines, rfl, rfl, hdivider, rfl⟩
          · exact hlater h

theorem le_number_of_mem_allOf (h : s ∈ allOf number lines) : number ≤ s.number := by
  obtain ⟨before, _, _, _, hnumber, _⟩ := exists_of_mem_allOf h
  omega

theorem pairwise_allOf (number : Nat) (lines : List (List Char)) :
    (allOf number lines).Pairwise fun s s' => s.number < s'.number := by
  induction lines generalizing number with
  | nil => exact .nil
  | cons line lines ih =>
      cases hdivider : Divider.ofLine? line with
      | none =>
          rw [allOf_of_no_divider hdivider]
          exact ih _
      | some d =>
          rw [allOf_of_divider hdivider]
          exact .cons (fun s hs => le_number_of_mem_allOf hs) (ih _)

end Section

/-- A test is made of the lines of a section. -/
def TestCase.IsOf (t : TestCase) (s : Section) : Prop :=
  (TestCase.ofDivider s.number s.divider).Extends s.lines t

theorem TestCase.IsOf.firstLine {t : TestCase} {s : Section} (h : t.IsOf s) :
    t.firstLine = s.number + 1 :=
  Extends.firstLine h

theorem TestCase.IsOf.rows {t : TestCase} {s : Section} (h : t.IsOf s) :
    ∃ rows, Rows 1 s.lines rows ∧ t.input = rows.map (·.entry) ∧
      t.reports = rows.filterMap (·.expected?) :=
  Extends.rows h

/-- A section yields the test that its lines, read one after the other, make of its divider. -/
def Section.Yields (s : Section) (t : TestCase) : Prop :=
  ∃ rows, Rows 1 s.lines rows ∧ Row.Joined false rows ∧
    t = (TestCase.ofDivider s.number s.divider).addRows false rows

theorem Section.Yields.isOf {s : Section} {t : TestCase} (h : s.Yields t) : t.IsOf s := by
  obtain ⟨rows, hrows, _, rfl⟩ := h
  exact TestCase.extends_addRows (t := .ofDivider s.number s.divider) hrows false

namespace TestReader

variable {r r' : TestReader} {number : Nat} {line : List Char} {lines : List (List Char)}
variable {tests : List TestCase}

theorem flush_eq_ok_iff : r.flush number = .ok tests ↔
    r.goesOn = false ∧ tests = r.complete ++ r.current?.toList.filter fun t => !t.isEmpty := by
  unfold flush
  cases r.goesOn with
  | true => simp
  | false => simp [eq_comm]

/-- A line before the first divider that expects nothing. -/
def Silent (line : List Char) : Prop :=
  OutputLine.ofLine? line = none ∧ Text.occursIn Note.mark line = false

/-- All that a line can do to a reader that does not fail. -/
inductive Takes (r : TestReader) (number : Nat) (line : List Char) : TestReader → Prop where
  | divider {d complete} (hdivider : Divider.ofLine? line = some d)
      (hflush : r.flush number = .ok complete) :
      Takes r number line { complete, current? := some (.ofDivider number d), goesOn := false }
  | skipped (hdivider : Divider.ofLine? line = none) (hcurrent : r.current? = none)
      (hsilent : Silent line) : Takes r number line r
  | row {t row} (hdivider : Divider.ofLine? line = none) (hcurrent : r.current? = some t)
      (hrow : Row.read (t.input.length + 1) line = .ok row)
      (hgoesOn : r.goesOn = true → row.said?.isSome = true) :
      Takes r number line
        { r with current? := some (t.addRow r.goesOn row), goesOn := row.goesOn }

theorem addInput_eq_ok_iff {t t' : TestCase} (houtput : OutputLine.ofLine? line = none) :
    addInput t line = .ok t' ↔ ∃ text expected?,
      Row.read (t.input.length + 1) line = .ok (.input text expected?) ∧
        t.addRow false (.input text expected?) = t' := by
  rw [addInput, Row.read, houtput]
  cases splitLine (t.input.length + 1) line with
  | error e => simp [Except.map]
  | ok parts => simp [Except.map, TestCase.addRow]

theorem takes_of_step (h : r.step number line = .ok r') : r.Takes number line r' := by
  unfold step at h
  split at h
  · rename_i d hdivider
    obtain ⟨complete, hflush, rfl⟩ := map_eq_ok_iff.mp h
    exact .divider hdivider hflush
  · rename_i hdivider
    split at h
    · cases h
    · rename_i hcurrent houtput
      split at h
      · cases h
      · rename_i hnote
        cases h
        exact .skipped hdivider hcurrent ⟨houtput, Bool.eq_false_iff.mpr hnote⟩
    · rename_i t said hcurrent houtput
      cases h
      have hrow : Row.read (t.input.length + 1) line = .ok (.output said) := by
        rw [Row.read, houtput]
      exact .row hdivider hcurrent hrow fun _ => rfl
    · rename_i t hcurrent houtput
      split at h
      · cases h
      · rename_i hgoesOn
        obtain ⟨t', hadd, rfl⟩ := map_eq_ok_iff.mp h
        obtain ⟨text, expected?, hrow, rfl⟩ := (addInput_eq_ok_iff houtput).mp hadd
        have htakes : r.Takes number line _ :=
          .row hdivider hcurrent hrow fun h => absurd h hgoesOn
        rw [Bool.eq_false_iff.mpr hgoesOn] at htakes ⊢
        exact htakes

theorem step_of_takes (h : r.Takes number line r') : r.step number line = .ok r' := by
  unfold step
  cases h with
  | divider hdivider hflush => simp only [hdivider, hflush, Except.map]
  | skipped hdivider hcurrent hsilent =>
      simp only [hdivider, hcurrent, hsilent.1, hsilent.2, Bool.false_eq_true, if_false]
  | @row t row hdivider hcurrent hrow hgoesOn =>
      have hsaid := Row.said?_of_read hrow
      cases row with
      | output said =>
          simp only [hdivider, hcurrent, ← hsaid, Row.said?]
          rfl
      | input text expected? =>
          have hgoesOn : r.goesOn = false :=
            Bool.eq_false_iff.mpr fun h => Bool.false_ne_true (hgoesOn h)
          have hadd := (addInput_eq_ok_iff hsaid.symm).mpr ⟨text, expected?, hrow, rfl⟩
          simp only [hdivider, hcurrent, ← hsaid, Row.said?, hgoesOn, hadd, Except.map]
          rfl

theorem Takes.complete_eq (h : r.Takes number line r') (hdivider : Divider.ofLine? line = none) :
    r'.complete = r.complete := by
  cases h with
  | divider hd =>
      rw [hdivider] at hd
      cases hd
  | skipped => rfl
  | row => rfl

/-- What comes of the test that a reader is at, if there is one, with the lines up to the next
divider. -/
inductive Ends (r : TestReader) (lines : List (List Char)) : List TestCase → Prop where
  | nowhere (hcurrent : r.current? = none) (hgoesOn : r.goesOn = false)
      (hsilent : ∀ line ∈ lines, Silent line) : Ends r lines []
  | within {t rows} (hcurrent : r.current? = some t)
      (hrows : Rows (t.input.length + 1) lines rows) (hjoined : Row.Joined r.goesOn rows) :
      Ends r lines [t.addRows r.goesOn rows]

theorem ends_nil_iff {now : List TestCase} :
    r.Ends [] now ↔ r.goesOn = false ∧ now = r.current?.toList := by
  constructor
  · intro h
    cases h with
    | nowhere hcurrent hgoesOn => exact ⟨hgoesOn, by rw [hcurrent]; rfl⟩
    | within hcurrent hrows hjoined =>
        cases hrows
        exact ⟨hjoined, by rw [hcurrent]; rfl⟩
  · rintro ⟨hgoesOn, rfl⟩
    cases hcurrent : r.current? with
    | none => exact .nowhere hcurrent hgoesOn nofun
    | some t => exact .within hcurrent .nil hgoesOn

theorem ends_cons_iff {now : List TestCase} (hdivider : Divider.ofLine? line = none) :
    r.Ends (line :: lines) now ↔ ∃ r', r.Takes number line r' ∧ r'.Ends lines now := by
  constructor
  · intro h
    cases h with
    | nowhere hcurrent hgoesOn hsilent =>
        obtain ⟨hline, hlines⟩ := List.forall_mem_cons.mp hsilent
        exact ⟨r, .skipped hdivider hcurrent hline, .nowhere hcurrent hgoesOn hlines⟩
    | within hcurrent hrows hjoined =>
        cases hrows with
        | cons hrow hrows =>
            exact ⟨_, .row hdivider hcurrent hrow hjoined.1,
              .within rfl (by simpa using hrows) hjoined.2⟩
  · rintro ⟨r', htakes, h⟩
    cases htakes with
    | divider hd =>
        rw [hdivider] at hd
        cases hd
    | skipped _ hcurrent hline =>
        cases h with
        | nowhere _ hgoesOn hlines =>
            exact .nowhere hcurrent hgoesOn (List.forall_mem_cons.mpr ⟨hline, hlines⟩)
        | within hcurrent' =>
            rw [hcurrent] at hcurrent'
            cases hcurrent'
    | row _ hcurrent hrow hgoesOn =>
        cases h with
        | nowhere hcurrent' => cases hcurrent'
        | within hcurrent' hrows hjoined =>
            cases hcurrent'
            exact .within hcurrent (.cons hrow (by simpa using hrows)) ⟨hgoesOn, hjoined⟩

theorem steps_cons_flush_iff {stop : Nat} :
    (r.steps number (line :: lines)).bind (·.flush stop) = .ok tests ↔
      ∃ r', r.Takes number line r' ∧
        (r'.steps (number + 1) lines).bind (·.flush stop) = .ok tests := by
  rw [steps, bind_eq_ok_iff]
  simp only [bind_eq_ok_iff]
  constructor
  · rintro ⟨last, ⟨r', hstep, hsteps⟩, hflush⟩
    exact ⟨r', takes_of_step hstep, last, hsteps, hflush⟩
  · rintro ⟨r', htakes, last, hsteps, hflush⟩
    exact ⟨last, ⟨r', step_of_takes htakes, hsteps⟩, hflush⟩

/-- A reader completes the test that it is at with the lines up to the next divider, and then each
section yields a test. -/
theorem steps_flush_iff {stop : Nat} :
    (r.steps number lines).bind (·.flush stop) = .ok tests ↔
      ∃ now later, r.Ends (Section.linesOf lines) now ∧
        List.Forall₂ Section.Yields (Section.allOf number lines) later ∧
        tests = r.complete ++ (now ++ later).filter fun t => !t.isEmpty := by
  -- on the lines; after each of them the reader is at a test that still takes the lines up to the
  -- next divider, or it is before the first divider
  induction lines generalizing r number with
  | nil =>
      have hnil : (r.steps number []).bind (·.flush stop) = r.flush stop := rfl
      rw [hnil, flush_eq_ok_iff]
      constructor
      · rintro ⟨hgoesOn, rfl⟩
        exact ⟨_, [], ends_nil_iff.mpr ⟨hgoesOn, rfl⟩, .nil, by rw [List.append_nil]⟩
      · rintro ⟨now, later, hends, hlater, rfl⟩
        cases hlater
        obtain ⟨hgoesOn, rfl⟩ := ends_nil_iff.mp hends
        exact ⟨hgoesOn, by rw [List.append_nil]⟩
  | cons line lines ih =>
      rw [steps_cons_flush_iff]
      simp only [ih]
      cases hdivider : Divider.ofLine? line with
      | none =>
          rw [Section.linesOf_of_no_divider hdivider, Section.allOf_of_no_divider hdivider]
          constructor
          · rintro ⟨r', htakes, now, later, hends, hlater, rfl⟩
            refine ⟨now, later, (ends_cons_iff hdivider).mpr ⟨r', htakes, hends⟩, hlater, ?_⟩
            rw [htakes.complete_eq hdivider]
          · rintro ⟨now, later, hends, hlater, rfl⟩
            obtain ⟨r', htakes, hends⟩ : ∃ r', r.Takes number line r' ∧ r'.Ends _ now :=
              (ends_cons_iff hdivider).mp hends
            refine ⟨r', htakes, now, later, hends, hlater, ?_⟩
            rw [htakes.complete_eq hdivider]
      | some d =>
          rw [Section.linesOf_of_divider hdivider, Section.allOf_of_divider hdivider]
          constructor
          · rintro ⟨r', htakes, now, later, hends, hlater, rfl⟩
            cases htakes with
            | divider hd hflush =>
                cases hdivider.symm.trans hd
                obtain ⟨hgoesOn, rfl⟩ := flush_eq_ok_iff.mp hflush
                cases hends with
                | nowhere hcurrent => cases hcurrent
                | within hcurrent hrows hjoined =>
                    cases hcurrent
                    refine ⟨_, _ :: later, ends_nil_iff.mpr ⟨hgoesOn, rfl⟩,
                      .cons ⟨_, hrows, hjoined, rfl⟩ hlater, ?_⟩
                    rw [List.append_assoc, ← List.filter_append]
                    rfl
            | skipped hd => cases hdivider.symm.trans hd
            | row hd => cases hdivider.symm.trans hd
          · rintro ⟨now, later, hends, hlater, rfl⟩
            obtain ⟨hgoesOn, rfl⟩ := ends_nil_iff.mp hends
            cases hlater with
            | cons hyields hlater =>
                obtain ⟨rows, hrows, hjoined, rfl⟩ := hyields
                refine ⟨_, .divider hdivider (flush_eq_ok_iff.mpr ⟨hgoesOn, rfl⟩), _, _,
                  .within rfl hrows hjoined, hlater, ?_⟩
                rw [List.append_assoc, ← List.filter_append]
                rfl

end TestReader

namespace TestCase

variable {lines : List (List Char)} {tests : List TestCase} {t : TestCase}

/-- A file is read just if nothing is expected before its first divider and each section yields a
test. Those without expectations are left out. -/
theorem ofLines_eq_ok_iff : ofLines lines = .ok tests ↔
    (∀ line ∈ Section.linesOf lines, TestReader.Silent line) ∧
      ∃ all, List.Forall₂ Section.Yields (Section.allOf 1 lines) all ∧
        tests = all.filter fun t => !t.isEmpty := by
  rw [ofLines, TestReader.steps_flush_iff]
  constructor
  · rintro ⟨now, all, hends, hall, rfl⟩
    cases hends with
    | nowhere _ _ hsilent => exact ⟨hsilent, all, hall, rfl⟩
    | within hcurrent => cases hcurrent
  · rintro ⟨hsilent, all, hall, rfl⟩
    exact ⟨[], all, .nowhere rfl rfl hsilent, hall, rfl⟩

/-- The tests of a file are made of its sections, but for those without expectations. -/
theorem exists_isOf (h : ofLines lines = .ok tests) :
    ∃ all, List.Forall₂ (fun s t => TestCase.IsOf t s) (Section.allOf 1 lines) all ∧
      tests = all.filter fun t => !t.isEmpty := by
  obtain ⟨_, all, hall, htests⟩ := ofLines_eq_ok_iff.mp h
  exact ⟨all, hall.imp fun _ _ => Section.Yields.isOf, htests⟩

theorem exists_yields (h : ofLines lines = .ok tests) (ht : t ∈ tests) :
    ∃ s ∈ Section.allOf 1 lines, s.Yields t := by
  obtain ⟨_, all, hall, rfl⟩ := ofLines_eq_ok_iff.mp h
  obtain ⟨i, hi, rfl⟩ := List.mem_iff_getElem.mp (List.mem_of_mem_filter ht)
  have hs : i < (Section.allOf 1 lines).length := hall.length_eq ▸ hi
  exact ⟨_, List.getElem_mem hs, hall.get hs hi⟩

theorem exists_section (h : ofLines lines = .ok tests) (ht : t ∈ tests) :
    ∃ s ∈ Section.allOf 1 lines, t.IsOf s := by
  obtain ⟨s, hs, hyields⟩ := exists_yields h ht
  exact ⟨s, hs, hyields.isOf⟩

/-- Tests come in the order of their dividers. -/
theorem pairwise_firstLine (h : ofLines lines = .ok tests) :
    tests.Pairwise fun t t' => t.firstLine < t'.firstLine := by
  obtain ⟨all, hall, rfl⟩ := exists_isOf h
  have hfirst : (Section.allOf 1 lines).map (·.number + 1) = all.map (·.firstLine) := by
    rw [← List.forall₂_eq_eq_eq, List.forall₂_map_left_iff, List.forall₂_map_right_iff]
    exact hall.imp fun s t ht => ht.firstLine.symm
  refine List.Pairwise.filter _ (List.pairwise_map.mp ?_)
  rw [← hfirst]
  refine List.pairwise_map.mpr ((Section.pairwise_allOf 1 lines).imp ?_)
  exact Nat.succ_lt_succ

end TestCase

end Frontend
