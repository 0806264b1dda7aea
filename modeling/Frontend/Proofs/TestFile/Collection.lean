/- Which test files are read, and what their tests collect: the reports of their lines, and their
output, in which a line that ends in a backslash is joined with the next one. -/
import Frontend.Proofs.TestFile.Section
import Frontend.Proofs.Text.Cut

namespace Frontend

theorem exists_forall₂ {α β : Type} {R : α → β → Prop} {l : List α} (h : ∀ a ∈ l, ∃ b, R a b) :
    ∃ l', List.Forall₂ R l l' := by
  induction l with
  | nil => exact ⟨[], .nil⟩
  | cons a l ih =>
      obtain ⟨b, hb⟩ := h a List.mem_cons_self
      obtain ⟨l', hl⟩ := ih fun a ha => h a (List.mem_cons_of_mem _ ha)
      exact ⟨b :: l', .cons hb hl⟩

namespace OutputLine

variable {line : List Char} {said : OutputLine}

/-- What a line says: the text after its first mark of output, without blanks in front. -/
def textOf? (line : List Char) : Option (List Char) :=
  (Text.cut? mark line).map fun parts => Text.trimStart Text.isWhitespace parts.2

/-- What a line says ends in a backslash. -/
def LeadsOn (line : List Char) : Prop := ∃ text ∈ textOf? line, text.getLast? = some '\\'

theorem textOf?_eq_none_iff : textOf? line = none ↔ ¬ mark <:+: line := by
  rw [textOf?, Option.map_eq_none_iff, Text.cut?_eq_none_iff]

theorem ofLine?_eq_none_iff : ofLine? line = none ↔ ¬ mark <:+: line := by
  rw [ofLine?, Option.map_eq_none_iff, Text.cut?_eq_none_iff]

theorem isSome_ofLine?_iff : (ofLine? line).isSome = true ↔ mark <:+: line := by
  rw [ofLine?, Option.isSome_map, Text.cut?_isSome_iff]

/-- The backslash at the end of a text is not part of the line that is read of it. -/
theorem textOf?_of_ofLine? (h : ofLine? line = some said) :
    (said.goesOn = true ∧ textOf? line = some (said.text ++ ['\\'])) ∨
      (said.goesOn = false ∧ textOf? line = some said.text ∧ said.text.getLast? ≠ some '\\') := by
  obtain ⟨⟨before, rest⟩, hcut, rfl⟩ := Option.map_eq_some_iff.mp h
  rw [textOf?, hcut]
  dsimp only [ofText]
  split
  · rename_i hlast
    refine .inl ⟨rfl, ?_⟩
    rw [List.dropLast_append_getLast? _ hlast]
    rfl
  · rename_i hlast
    exact .inr ⟨rfl, rfl, hlast⟩

theorem goesOn_iff (h : ofLine? line = some said) : said.goesOn = true ↔ LeadsOn line := by
  rcases textOf?_of_ofLine? h with ⟨hgoesOn, htext⟩ | ⟨hgoesOn, htext, hlast⟩
  · refine iff_of_true hgoesOn ⟨_, htext, ?_⟩
    rw [List.getLast?_append, List.getLast?_singleton]
    rfl
  · refine iff_of_false (by simp [hgoesOn]) ?_
    rintro ⟨text, hmem, hend⟩
    cases htext.symm.trans hmem
    exact hlast hend

/-- Texts that follow each other are joined to one line. All but the last one end in a backslash,
which is no part of it. -/
inductive JoinsTo : List (List Char) → List Char → Prop
  | last {text} : text.getLast? ≠ some '\\' → JoinsTo [text] text
  | more {text texts line} : JoinsTo texts line → JoinsTo ((text ++ ['\\']) :: texts) (text ++ line)

theorem JoinsTo.ne_nil {texts : List (List Char)} {line : List Char} (h : JoinsTo texts line) :
    texts ≠ [] := by
  cases h <;> exact List.cons_ne_nil _ _

end OutputLine

open OutputLine (LeadsOn JoinsTo textOf?)

/-- A section that can be read: output that goes on does so in the next line, and every other line
can be split. -/
structure Section.Readable (s : Section) : Prop where
  joined : ∀ (k : Nat) (line : List Char), s.lines[k]? = some line → LeadsOn line →
    ∃ next, s.lines[k + 1]? = some next ∧ OutputLine.mark <:+: next
  split : ∀ (k : Nat) (line : List Char), s.lines[k]? = some line → ¬ OutputLine.mark <:+: line →
    ∃ parts, splitLine (k + 1) line = .ok parts

/-- Lines, of which the first has the number `number` in the file, are cut at their dividers: into
those before the first one, and a section for each of them. -/
inductive Section.Cuts : Nat → List (List Char) → List (List Char) → List Section → Prop
  | last {number lines} : (∀ line ∈ lines, Divider.ofLine? line = none) → Cuts number lines lines []
  | next {number before head d lines block sections} :
      (∀ line ∈ before, Divider.ofLine? line = none) → Divider.ofLine? head = some d →
      Cuts (number + before.length + 1) lines block sections →
      Cuts number (before ++ head :: lines) before (⟨number + before.length, d, block⟩ :: sections)

section
variable {number : Nat} {line : List Char} {lines : List (List Char)} {row : Row} {rows : List Row}

theorem Section.Cuts.cons {before : List (List Char)} {sections : List Section}
    (hline : Divider.ofLine? line = none) (h : Cuts (number + 1) lines before sections) :
    Cuts number (line :: lines) (line :: before) sections := by
  cases h with
  | last hlines => exact .last (List.forall_mem_cons.mpr ⟨hline, hlines⟩)
  | @next _ _ head d lines block sections hbefore hhead hlater =>
      rw [Nat.add_right_comm number, Nat.add_assoc number] at hlater ⊢
      exact .next (List.forall_mem_cons.mpr ⟨hline, hbefore⟩) hhead hlater

theorem Section.cuts_allOf (number : Nat) (lines : List (List Char)) :
    Cuts number lines (linesOf lines) (allOf number lines) := by
  induction lines generalizing number with
  | nil => exact .last nofun
  | cons line lines ih =>
      cases hdivider : Divider.ofLine? line with
      | none =>
          rw [linesOf_of_no_divider hdivider, allOf_of_no_divider hdivider]
          exact (ih (number + 1)).cons hdivider
      | some d =>
          rw [linesOf_of_divider hdivider, allOf_of_divider hdivider]
          exact @Cuts.next number [] line d lines _ _ nofun hdivider (ih (number + 1))

theorem Row.exists_read_iff : (∃ row, Row.read number line = .ok row) ↔
    (¬ OutputLine.mark <:+: line → ∃ parts, splitLine number line = .ok parts) := by
  rw [← OutputLine.ofLine?_eq_none_iff, Row.read]
  cases OutputLine.ofLine? line with
  | some said => simp
  | none => simp [map_eq_ok_iff]

theorem exists_rows_iff : (∃ rows, Rows number lines rows) ↔
    ∀ (k : Nat) (line : List Char), lines[k]? = some line → ¬ OutputLine.mark <:+: line →
      ∃ parts, splitLine (number + k) line = .ok parts := by
  induction lines generalizing number with
  | nil => exact iff_of_true ⟨[], .nil⟩ nofun
  | cons line lines ih =>
      constructor
      · rintro ⟨_, hrows⟩ k other hk
        cases hrows with
        | @cons _ _ _ row rows hrow hrows =>
            cases k with
            | zero =>
                cases hk
                exact Row.exists_read_iff.mp ⟨row, hrow⟩
            | succ k =>
                rw [← Nat.add_assoc, Nat.add_right_comm]
                exact ih.mp ⟨rows, hrows⟩ k other hk
      · intro h
        obtain ⟨row, hrow⟩ := Row.exists_read_iff.mpr (h 0 line rfl)
        obtain ⟨rows, hrows⟩ : ∃ rows, Rows (number + 1) lines rows := ih.mpr fun k other hk => by
          rw [Nat.add_right_comm, Nat.add_assoc]
          exact h (k + 1) other hk
        exact ⟨row :: rows, .cons hrow hrows⟩

theorem Row.textOf?_of_read {text : List Char} {expected? : Option Expectation}
    (h : Row.read number line = .ok (.input text expected?)) : textOf? line = none :=
  OutputLine.textOf?_eq_none_iff.mpr (OutputLine.ofLine?_eq_none_iff.mp (Row.said?_of_read h).symm)

theorem Row.goesOn_iff (h : Row.read number line = .ok row) :
    row.goesOn = true ↔ LeadsOn line := by
  cases row with
  | output said => exact OutputLine.goesOn_iff (Row.said?_of_read h).symm
  | input text expected? =>
      refine iff_of_false Bool.false_ne_true ?_
      rintro ⟨text, htext, _⟩
      cases (Row.textOf?_of_read h).symm.trans htext

theorem Rows.joined_iff (h : Rows number lines rows) {goesOn : Bool} :
    Row.Joined goesOn rows ↔ (goesOn = true → ∃ next ∈ lines.head?, OutputLine.mark <:+: next) ∧
      ∀ (k : Nat) (line : List Char), lines[k]? = some line → LeadsOn line →
        ∃ next, lines[k + 1]? = some next ∧ OutputLine.mark <:+: next := by
  induction h generalizing goesOn with
  | nil => simp [Row.Joined]
  | @cons number line lines row rows hrow hrows ih =>
      rw [Row.Joined, ih, Row.goesOn_iff hrow, Row.said?_of_read hrow,
        OutputLine.isSome_ofLine?_iff, List.head?_eq_getElem?]
      refine and_congr (by simp) ?_
      constructor
      · rintro ⟨hfirst, hrest⟩ k other hk
        cases k with
        | zero =>
            cases hk
            exact hfirst
        | succ k => exact hrest k other hk
      · intro hall
        exact ⟨hall 0 line rfl, fun k other hk => hall (k + 1) other hk⟩

end

theorem Section.readable_iff {s : Section} : s.Readable ↔ ∃ t, s.Yields t := by
  constructor
  · intro h
    obtain ⟨rows, hrows⟩ : ∃ rows, Rows 1 s.lines rows := exists_rows_iff.mpr fun k line hk => by
      rw [Nat.add_comm]
      exact h.split k line hk
    exact ⟨_, rows, hrows, hrows.joined_iff.mpr ⟨nofun, h.joined⟩, rfl⟩
  · rintro ⟨_, rows, hrows, hjoined, rfl⟩
    refine ⟨(hrows.joined_iff.mp hjoined).2, fun k line hk => ?_⟩
    rw [Nat.add_comm]
    exact exists_rows_iff.mp ⟨rows, hrows⟩ k line hk

/-- Lines of output before more of them, the first of which belongs to the last one before it if
that goes on. -/
def resume (goesOn : Bool) (output : List (List Char)) : List (List Char) → List (List Char)
  | [] => output
  | line :: lines => (if goesOn then extendLast line output else output ++ [line]) ++ lines

theorem resume_false (output more : List (List Char)) :
    resume false output more = output ++ more := by
  cases more with
  | nil => exact (List.append_nil output).symm
  | cons line lines => simp [resume]

theorem extendLast_concat (output : List (List Char)) (line more : List Char) :
    extendLast more (output ++ [line]) = output ++ [line ++ more] := by
  induction output with
  | nil => rfl
  | cons first output ih =>
      cases output with
      | nil => rfl
      | cons second output => exact congrArg (first :: ·) ih

theorem extendLast_extendLast (output : List (List Char)) (line more : List Char) :
    extendLast more (extendLast line output) = extendLast (line ++ more) output := by
  cases output using List.reverseRecOn with
  | nil => rfl
  | append_singleton output last =>
      rw [extendLast_concat, extendLast_concat, extendLast_concat, List.append_assoc]

namespace TestCase

/-- A test as its divider makes it. -/
def heading (t : TestCase) : TestCase := { t with input := [], output := [], reports := [] }

theorem heading_addRows (t : TestCase) (goesOn : Bool) (rows : List Row) :
    (t.addRows goesOn rows).heading = t.heading := by
  induction rows generalizing t goesOn with
  | nil => rfl
  | cons row rows ih =>
      rw [addRows, ih]
      cases row <;> rfl

section
variable (t : TestCase) (goesOn : Bool) {said : OutputLine}

theorem resume_addRow_of_goesOn (h : said.goesOn = true) (line : List Char)
    (lines : List (List Char)) :
    resume said.goesOn (t.addRow goesOn (.output said)).output (line :: lines) =
      resume goesOn t.output ((said.text ++ line) :: lines) := by
  simp only [h, resume, addRow, TestReader.addOutput, if_true]
  cases goesOn with
  | true => simp only [if_true, extendLast_extendLast]
  | false => simp only [Bool.false_eq_true, if_false, extendLast_concat]

theorem resume_addRow (h : said.goesOn = false) (lines : List (List Char)) :
    resume said.goesOn (t.addRow goesOn (.output said)).output lines =
      resume goesOn t.output (said.text :: lines) := by
  rw [h, resume_false]
  rfl

end

/-- The output of a test is that of its lines, each text joined with those after it as long as they
go on. -/
theorem exists_output_addRows {number : Nat} {lines : List (List Char)} {rows : List Row}
    (h : Rows number lines rows) {goesOn : Bool} (hjoined : Row.Joined goesOn rows)
    (t : TestCase) :
    ∃ chains more, chains.flatten = lines.filterMap textOf? ∧ List.Forall₂ JoinsTo chains more ∧
      (goesOn = true → more ≠ []) ∧
      (t.addRows goesOn rows).output = resume goesOn t.output more := by
  -- on the rows; what is still to come of a line of output that goes on is the first line of `more`
  induction h generalizing goesOn t with
  | nil =>
      refine ⟨[], [], rfl, .nil, fun h => ?_, rfl⟩
      cases h.symm.trans hjoined
  | @cons number line lines row rows hrow hrows ih =>
      obtain ⟨hfirst, hrest⟩ := hjoined
      obtain ⟨chains, more, hflatten, hjoins, hne, houtput⟩ := ih hrest (t.addRow goesOn row)
      rw [addRows, houtput]
      cases row with
      | input text expected? =>
          obtain rfl : goesOn = false :=
            Bool.eq_false_iff.mpr fun h => Bool.false_ne_true (hfirst h)
          refine ⟨chains, more, ?_, hjoins, nofun, rfl⟩
          rw [List.filterMap_cons, Row.textOf?_of_read hrow, hflatten]
      | output said =>
          rcases OutputLine.textOf?_of_ofLine? (Row.said?_of_read hrow).symm with
            ⟨hgoesOn, htext⟩ | ⟨hgoesOn, htext, hlast⟩
          · cases hjoins with
            | nil => exact absurd rfl (hne hgoesOn)
            | @cons chain next chains more hjoin hjoins =>
                refine ⟨((said.text ++ ['\\']) :: chain) :: chains, (said.text ++ next) :: more,
                  ?_, .cons (.more hjoin) hjoins, fun _ => List.cons_ne_nil _ _,
                  t.resume_addRow_of_goesOn goesOn hgoesOn next more⟩
                rw [List.filterMap_cons, htext, ← hflatten]
                rfl
          · refine ⟨[said.text] :: chains, said.text :: more, ?_, .cons (.last hlast) hjoins,
              fun _ => List.cons_ne_nil _ _, t.resume_addRow goesOn hgoesOn more⟩
            rw [List.filterMap_cons, htext, ← hflatten]
            rfl

theorem output_ne_nil_iff {chains : List (List (List Char))} {lines output : List (List Char)}
    (hflatten : chains.flatten = lines.filterMap textOf?)
    (hjoins : List.Forall₂ JoinsTo chains output) :
    output ≠ [] ↔ ∃ line ∈ lines, OutputLine.mark <:+: line := by
  have htexts : output = [] ↔ lines.filterMap textOf? = [] := by
    rw [← hflatten]
    cases hjoins with
    | nil => simp
    | cons hjoin _ => simp [hjoin.ne_nil]
  rw [Ne, htexts, List.filterMap_eq_nil_iff]
  simp only [OutputLine.textOf?_eq_none_iff]
  push Not
  rfl

theorem not_isEmpty_iff {t : TestCase} : (!t.isEmpty) = true ↔ t.output ≠ [] ∨ t.reports ≠ [] := by
  simp [isEmpty, ← not_and_or]

/-- A test collects what the lines of a section say and expect, in order. -/
structure Collects (s : Section) (t : TestCase) : Prop where
  heading : t.heading = .ofDivider s.number s.divider
  rows : ∃ rows, Rows 1 s.lines rows ∧ t.input = rows.map (·.entry) ∧
    t.reports = rows.filterMap (·.expected?)
  output : ∃ chains, chains.flatten = s.lines.filterMap textOf? ∧
    List.Forall₂ JoinsTo chains t.output
  kept : (!t.isEmpty) = true ↔ (∃ line ∈ s.lines, OutputLine.mark <:+: line) ∨ t.reports ≠ []

theorem collects_of_yields {s : Section} {t : TestCase} (h : s.Yields t) : Collects s t := by
  have hof := h.isOf
  obtain ⟨rows, hrows, hjoined, rfl⟩ := h
  obtain ⟨chains, output, hflatten, hjoins, _, houtput⟩ :=
    exists_output_addRows hrows hjoined (.ofDivider s.number s.divider)
  rw [resume_false] at houtput
  rw [← List.nil_append output, ← show _ = [] ++ output from houtput] at hjoins
  refine ⟨heading_addRows _ false rows, hof.rows, ⟨chains, hflatten, hjoins⟩, ?_⟩
  rw [not_isEmpty_iff, output_ne_nil_iff hflatten hjoins]

/-- A file that can be read: nothing is expected before its first divider, and the sections after
it can be read. -/
structure Acceptable (lines : List (List Char)) : Prop where
  preamble : ∀ line ∈ Section.linesOf lines, ¬ OutputLine.mark <:+: line ∧ ¬ Note.mark <:+: line
  sections : ∀ s ∈ Section.allOf 1 lines, s.Readable

theorem acceptable_iff {lines : List (List Char)} :
    Acceptable lines ↔ ∃ tests, ofLines lines = .ok tests := by
  have hsilent : ∀ line : List Char, TestReader.Silent line ↔
      ¬ OutputLine.mark <:+: line ∧ ¬ Note.mark <:+: line := fun line => by
    rw [TestReader.Silent, OutputLine.ofLine?_eq_none_iff, ← Bool.not_eq_true, Text.occursIn_iff]
  constructor
  · rintro ⟨hpreamble, hsections⟩
    obtain ⟨all, hall⟩ := exists_forall₂ fun s hs => Section.readable_iff.mp (hsections s hs)
    exact ⟨_, ofLines_eq_ok_iff.mpr
      ⟨fun line hline => (hsilent line).mpr (hpreamble line hline), all, hall, rfl⟩⟩
  · rintro ⟨tests, htests⟩
    obtain ⟨hpreamble, all, hall, _⟩ := ofLines_eq_ok_iff.mp htests
    refine ⟨fun line hline => (hsilent line).mp (hpreamble line hline), fun s hs => ?_⟩
    obtain ⟨i, hi, rfl⟩ := List.mem_iff_getElem.mp hs
    exact Section.readable_iff.mpr ⟨_, hall.get hi (hall.length_eq ▸ hi)⟩

/-- A file is read just if it is acceptable. It is cut at its dividers into sections, each of which
has a test that collects what its lines say, and those that say something are returned in order. -/
theorem ofLines_collects (lines : List (List Char)) :
    ((∃ tests, ofLines lines = .ok tests) ↔ Acceptable lines) ∧
      Section.Cuts 1 lines (Section.linesOf lines) (Section.allOf 1 lines) ∧
      ∀ tests, ofLines lines = .ok tests →
        tests.Pairwise (fun t t' => t.firstLine < t'.firstLine) ∧
          ∃ all, List.Forall₂ Collects (Section.allOf 1 lines) all ∧
            tests = all.filter fun t => !t.isEmpty := by
  refine ⟨acceptable_iff.symm, Section.cuts_allOf 1 lines, fun tests htests => ?_⟩
  obtain ⟨_, all, hall, heq⟩ := ofLines_eq_ok_iff.mp htests
  exact ⟨pairwise_firstLine htests, all, hall.imp fun _ _ => collects_of_yields, heq⟩

/-- A file of three tests, the last of which says nothing. -/
def threeSections : List (List Char) :=
  ["// a leading comment", "//--8<-- first -- exact", "let x", "//! a \\", "//! b",
    "//-->8-- second", "\"abc //@< Fatal: oops", "//--8<-- empty"].map (·.toList)

def firstOfThree : TestCase where
  firstLine := 3
  name := "first".toList
  ignored := false
  exact := true
  input := ["let x".toList, [], []]
  output := ["a b".toList]

def secondOfThree : TestCase where
  firstLine := 7
  name := "second".toList
  ignored := true
  exact := false
  input := ["\"abc ".toList]
  reports := [⟨some (1, 1), .fatal, "oops".toList⟩]

theorem ofLines_collects_three :
    ofLines threeSections = .ok [firstOfThree, secondOfThree] ∧
      Acceptable threeSections ∧
      ∃ all, List.Forall₂ Collects (Section.allOf 1 threeSections) all ∧
        [firstOfThree, secondOfThree] = all.filter fun t => !t.isEmpty := by
  have htests : ofLines threeSections = .ok [firstOfThree, secondOfThree] := by rfl
  obtain ⟨hacceptable, _, hcollects⟩ := ofLines_collects threeSections
  exact ⟨htests, hacceptable.mp ⟨_, htests⟩, (hcollects _ htests).2⟩

end TestCase

end Frontend
