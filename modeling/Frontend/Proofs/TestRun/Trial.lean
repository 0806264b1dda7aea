/- A test and its run: whether the test passes, and what of the run is shown again. -/
import Frontend.Proofs.Source.Tiling
import Frontend.Proofs.TestRun.Tally
import Frontend.TestRun.Session

namespace Frontend

/-- The line of an offset in the span of a file, counted from one by the terminators before it. -/
def SourceFile.lineNumber? (f : SourceFile) (p : Nat) : Option Nat :=
  if f.bodyStart ≤ p ∧ p ≤ f.chars.length then some (terminatorCount f.chars p + 1) else none

/-- The lines that a span begins and ends on, if it lies in a file. -/
def Registry.lineNumbers? (r : Registry) : Span → Option (Nat × Nat)
  | .nowhere => none
  | .within id a b => do
    let f ← r.file? id
    let first ← f.lineNumber? a
    let last ← f.lineNumber? b
    return (first, last)

theorem SourceFile.lineNumber?_eq {f : SourceFile} {id : FileId} (hid : f.id? = some id) (p : Nat) :
    f.lineNumber? p = (f.lineAt? (.inFile id p)).map (· + 1) := by
  rw [lineNumber?, ← f.lines_stop]
  by_cases hinside : f.bodyStart ≤ p ∧ p ≤ f.lines.stop
  · rw [if_pos hinside, lineAt?_inFile hid hinside.1 hinside.2, startCount_eq hinside.1]
    rfl
  · have houtside : p < f.bodyStart ∨ f.lines.stop < p := by omega
    rw [if_neg hinside, lineAt?_eq_none id houtside]
    rfl

/-- Reports are compared by the numbers of their lines, their severity and their text. -/
theorem TestRun.key_eq {registry : Registry} (h : registry.Numbered) (r : Report) :
    key registry r = ⟨registry.lineNumbers? r.span, r.severity, r.text.toList⟩ := by
  have hlines : (key registry r).lines = registry.lineNumbers? r.span := by
    rw [key]
    cases r.span with
    | nowhere => rfl
    | within id a b =>
        have hfile : registry.fileOf? (.within id a b) = registry.file? id := rfl
        cases hf : registry.file? id with
        | none =>
            simp only [hfile, hf, Registry.lineNumbers?, Option.bind_eq_bind, Option.bind_none]
        | some f =>
            have hid := h id f hf
            simp only [hfile, hf, Registry.lineNumbers?, SourceFile.lineNumber?_eq hid,
              SourceFile.lineEnds?, Span.start, Span.stop, Option.bind_eq_bind, Option.bind_some]
            cases f.lineAt? (.inFile id a) with
            | none => rfl
            | some first => cases f.lineAt? (.inFile id b) <;> rfl
  exact congrArg (Expectation.mk · r.severity r.text.toList) hlines

section
variable {subject : Subject} {locale : Locale} {before : Nat} {t : TestCase} {run : TestRun}

/-- A subject is lent the input as the only file there is, and no reports. It gives both back: the
run has its reports, its ending, and the files that it added to the input. -/
def Subject.Gives (subject : Subject) (locale : Locale) (before : Nat) (t : TestCase)
    (run : TestRun) : Prop :=
  let input : SourceFile := ⟨"<test main>", List.intercalate ['\n'] t.input, some ⟨0⟩⟩
  ∃ added sink, subject before ⟨[input]⟩ input.span { locale } = (added, sink, .ok run.ending) ∧
    run.reports = sink.reports ∧ run.registry = Registry.addAll ⟨[input]⟩ added

theorem Subject.Gives.numbered (h : subject.Gives locale before t run) : run.registry.Numbered := by
  obtain ⟨added, _, _, _, hregistry⟩ := h
  rw [hregistry]
  exact (Registry.numbered_empty.add (TestRun.inputFile t)).addAll added

end

/-- A test in the file of a path, and what came of it. -/
structure Trial where
  path : String
  test : TestCase
  run : TestRun
  deriving DecidableEq, Repr

namespace Trial

variable {p : Plan} {x : Trial}

/-- A report of the run, as it is compared with the expected ones. -/
def key (x : Trial) (r : Report) : Expectation :=
  ⟨x.run.registry.lineNumbers? r.span, r.severity, r.text.toList⟩

def keys (x : Trial) : List Expectation := x.run.reports.map x.key

/-- The run came to its end with the expected output, and its reports contain the expected ones as
multisets; in an exact match they are the expected ones. -/
structure Passes (p : Plan) (x : Trial) : Prop where
  output : x.run.ending = .output (String.ofList (List.intercalate ['\n'] x.test.output))
  reports :
    if p.exactReports || x.test.exact then (x.keys : Multiset Expectation) = x.test.reports
    else (x.test.reports : Multiset Expectation) ≤ x.keys

instance (p : Plan) (x : Trial) : Decidable (x.Passes p) :=
  decidable_of_iff (_ ∧ _) ⟨fun h => ⟨h.1, h.2⟩, fun h => ⟨h.output, h.reports⟩⟩

/-- The reports that came more often than they are expected. -/
def excess (x : Trial) : List Report :=
  x.run.reports.filter fun r => x.test.reports.count (x.key r) < x.keys.count (x.key r)

/-- What is shown of a trial: the whole run if the test does not pass; else its reports, if there
are any, without the expected ones unless all are asked for. -/
def shown? (p : Plan) (x : Trial) : Option TestLog :=
  if x.Passes p then
    if p.verbose then
      if x.run.reports = [] then none else some ⟨x.path, x.test, x.run, false⟩
    else if x.excess = [] then none
    else some ⟨x.path, x.test, { x.run with reports := x.excess }, true⟩
  else some ⟨x.path, x.test, x.run, false⟩

section
variable (h : x.run.registry.Numbered)
include h

theorem key_eq : TestRun.key x.run.registry = x.key := funext (TestRun.key_eq h)

theorem tally_eq : x.run.tally x.test = .ofReports x.test.reports x.keys := by
  rw [TestRun.tally, key_eq h]
  rfl

theorem isSatisfied_iff (exact : Bool) :
    (x.run.tally x.test).isSatisfied exact = true ↔
      if exact then (x.keys : Multiset Expectation) = x.test.reports
      else (x.test.reports : Multiset Expectation) ≤ x.keys := by
  rw [tally_eq h]
  cases exact with
  | true => exact Tally.isSatisfied_iff_eq x.test.reports x.keys
  | false => exact Tally.isSatisfied_iff_le x.test.reports x.keys

theorem result_eq_passed_iff :
    x.run.result (p.isExact x.test) x.test = .passed ↔ x.Passes p := by
  rw [TestRun.result]
  constructor
  · intro hpassed
    split at hpassed
    · cases hpassed
    · rename_i text hending
      split at hpassed
      · rename_i hmatch
        have htext : text = String.ofList (Text.joinLines x.test.output) := by
          rw [← hmatch.1, String.ofList_toList]
        exact ⟨htext ▸ hending, (isSatisfied_iff h _).mp hmatch.2⟩
      · cases hpassed
  · intro hpasses
    rw [hpasses.output]
    exact if_pos ⟨String.toList_ofList, (isSatisfied_iff h _).mpr hpasses.reports⟩

theorem onlyExcess_eq : x.run.onlyExcess x.test = { x.run with reports := x.excess } := by
  rw [TestRun.onlyExcess, key_eq h, tally_eq h, excess]
  refine congrArg (TestRun.mk _ · _) (List.filter_congr fun r hr => ?_)
  have hkey : x.key r ∈ x.keys := List.mem_map_of_mem hr
  rw [Bool.eq_iff_iff, decide_eq_true_iff]
  exact Tally.isExcess_iff hkey

theorem log?_eq (p : Plan) :
    x.run.log? p.verbose (p.isExact x.test) x.path x.test = x.shown? p := by
  rw [TestRun.log?, shown?]
  by_cases hpass : x.Passes p
  · rw [if_pos ((result_eq_passed_iff h).mpr hpass), if_pos hpass]
    cases hverbose : p.verbose with
    | true => simp [List.isEmpty_iff]
    | false => simp [List.isEmpty_iff, onlyExcess_eq h]
  · rw [if_neg (mt (result_eq_passed_iff h).mp hpass), if_neg hpass]

end

end Trial

end Frontend
