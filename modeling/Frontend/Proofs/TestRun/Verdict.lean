/- The verdict of a session: what it counts, what it shows again, and how it ends. -/
import Frontend.Proofs.TestRun.Closing
import Frontend.Proofs.TestRun.Trial
import Frontend.TestRun.Script

namespace Frontend

namespace Plan

def takes (p : Plan) (t : TestCase) : Bool := p.selects t && !t.ignored

/-- The tests of a file that are run, below the path of the file. -/
def queueOf (p : Plan) (folder : String) (file : String × Entry) : List (String × TestCase) :=
  match TestCase.ofEntry file.2 with
  | .error _ => []
  | .ok tests => (tests.filter p.takes).map fun t => (folder ++ "/" ++ file.1, t)

/-- The tests of a directory that are run, in order. -/
def queue (p : Plan) (folder : String) (d : Directory) : List (String × TestCase) :=
  (Session.testFiles d).flatMap (p.queueOf folder)

/-- A session goes on after an output, and after a panic unless it is to stop there. -/
def GoesOnAfter (p : Plan) (run : TestRun) : Prop :=
  p.stopOnPanic = true → ∃ text, run.ending = .output text

end Plan

/-- A subject is put to tests one after the other, with `before` runs before the first; each run
comes to an end after which the session goes on. -/
inductive Trials (subject : Subject) (p : Plan) :
    Nat → List (String × TestCase) → List Trial → Prop
  | nil {before : Nat} : Trials subject p before [] []
  | cons {before : Nat} {path : String} {t : TestCase} {run : TestRun}
      {queue : List (String × TestCase)} {trials : List Trial} :
      subject.Gives p.locale before t run →
      p.GoesOnAfter run →
      Trials subject p (before + 1) queue trials →
      Trials subject p before ((path, t) :: queue) (⟨path, t, run⟩ :: trials)

section
variable {subject : Subject} {p : Plan} {before : Nat}

theorem Trials.length_eq {queue : List (String × TestCase)} {trials : List Trial}
    (h : Trials subject p before queue trials) : trials.length = queue.length := by
  induction h with
  | nil => rfl
  | cons _ _ _ ih => exact congrArg Nat.succ ih

theorem Trials.numbered {queue : List (String × TestCase)} {trials : List Trial}
    (h : Trials subject p before queue trials) : ∀ x ∈ trials, x.run.registry.Numbered := by
  induction h with
  | nil => exact nofun
  | cons hgives _ _ ih => exact List.forall_mem_cons.mpr ⟨hgives.numbered, ih⟩

theorem Trials.append_left {first rest : List (String × TestCase)} {trials : List Trial}
    (h : Trials subject p before (first ++ rest) trials) :
    ∃ done more, trials = done ++ more ∧ Trials subject p before first done ∧
      Trials subject p (before + done.length) rest more := by
  induction first generalizing before trials with
  | nil => exact ⟨[], trials, rfl, .nil, h⟩
  | cons x first ih =>
      cases h with
      | cons hrun hgoes hrest =>
          obtain ⟨done, more, rfl, hdone, hmore⟩ := ih hrest
          refine ⟨_ :: done, more, rfl, .cons hrun hgoes hdone, ?_⟩
          rwa [List.length_cons, Nat.add_comm done.length, ← Nat.add_assoc]

end

/-- What is shown of a trial is about the files of its run. -/
theorem Trial.registry_of_shown? {p : Plan} {x : Trial} {log : TestLog} (h : x.shown? p = some log) :
    log.run.registry = x.run.registry := by
  unfold Trial.shown? at h
  split_ifs at h <;> cases h <;> rfl

namespace Session

/-- A session after some trials: it counts them and those that pass, and keeps what is shown. -/
structure Records (s : Session) (p : Plan) (done : List Trial) : Prop where
  tested : s.tested = done.length
  passed : s.passed = done.countP (·.Passes p)
  logs : s.logs = done.filterMap (·.shown? p)

variable {p : Plan} {subject : Subject} {s : Session} {done trials : List Trial}

theorem Records.record (h : s.Records p done) {x : Trial} (hx : x.run.registry.Numbered) :
    (s.record p x.path x.test x.run).Records p (done ++ [x]) := by
  refine ⟨?_, ?_, ?_⟩
  · rw [List.length_append, ← h.tested]
    rfl
  · rw [List.countP_append, ← h.passed, List.countP_singleton]
    simp only [Session.record, Trial.result_eq_passed_iff hx, decide_eq_true_iff]
  · have hlogs : (s.record p x.path x.test x.run).logs = s.logs ++ (x.shown? p).toList :=
      congrArg (fun log? => s.logs ++ Option.toList log?) (Trial.log?_eq hx p)
    rw [hlogs, List.filterMap_append, ← h.logs, List.filterMap_cons]
    cases x.shown? p <;> rfl

/-- What a session that went through some trials says in the end: how many of them passed, which are
shown again, each with its reports, and whether all is well. A report that is too wide to be marked
cuts all this off, and then the status is that of a program that breaks off. -/
structure Verdict (s : Session) (p : Plan) (trials : List Trial) : Prop where
  passed : s.passed = trials.countP (·.Passes p)
  total : s.passed + s.failed = trials.length
  logs : s.logs = trials.filterMap (·.shown? p)
  closing : ∃ pieces broken?, TestLog.ShownAll (trials.filterMap (·.shown? p)) ⟨pieces, broken?⟩ ∧
    (broken?.isSome = true ↔ TestLog.Overflow (trials.filterMap (·.shown? p))) ∧
    s.closing =
      ⟨[.plain ("\n" ++ toString s.passed ++ " passed, " ++ toString s.failed ++ " failed\n")] ++
        pieces ++ if broken?.isSome then [] else [.plain "\n"], broken?⟩
  exitCode_eq_broken : s.exitCode = 101 ↔ TestLog.Overflow (trials.filterMap (·.shown? p))
  exitCode_eq_one : s.exitCode = 1 ↔
    ¬ TestLog.Overflow (trials.filterMap (·.shown? p)) ∧ ∃ x ∈ trials, ¬ x.Passes p
  exitCode_eq_zero : s.exitCode = 0 ↔
    ¬ TestLog.Overflow (trials.filterMap (·.shown? p)) ∧ ∀ x ∈ trials, x.Passes p

theorem Records.passed_le_tested (h : s.Records p trials) : s.passed ≤ s.tested := by
  rw [h.passed, h.tested]
  exact List.countP_le_length

theorem Records.failed_eq_zero_iff (h : s.Records p trials) :
    s.failed = 0 ↔ ∀ x ∈ trials, x.Passes p := by
  have hle := h.passed_le_tested
  have hall := List.countP_eq_length (p := fun x => decide (x.Passes p)) (l := trials)
  rw [← h.passed, ← h.tested] at hall
  simp only [decide_eq_true_iff] at hall
  rw [← hall, failed]
  omega

theorem Records.verdict (h : s.Records p trials)
    (hnumbered : ∀ x ∈ trials, x.run.registry.Numbered) : s.Verdict p trials := by
  have hlogs : ∀ log ∈ s.logs, log.run.registry.Numbered := by
    intro log hlog
    rw [h.logs] at hlog
    obtain ⟨x, hx, hshown⟩ := List.mem_filterMap.mp hlog
    rw [Trial.registry_of_shown? hshown]
    exact hnumbered x hx
  obtain ⟨pieces, broken?, hshown, hbroken, hclosing⟩ := exists_closing hlogs
  have hcode : s.exitCode = if broken?.isSome then 101 else if s.failed = 0 then 0 else 1 := by
    rw [exitCode, hclosing]
    rfl
  rw [h.logs] at hshown hbroken
  have hfailed : (∃ x ∈ trials, ¬ x.Passes p) ↔ s.failed ≠ 0 := by
    rw [Ne, h.failed_eq_zero_iff]
    simp only [not_forall, exists_prop]
  exact {
    passed := h.passed
    total := by rw [failed, ← h.tested, Nat.add_sub_cancel' h.passed_le_tested]
    logs := h.logs
    closing := ⟨pieces, broken?, hshown, hbroken, hclosing⟩
    exitCode_eq_broken := by
      rw [hcode, ← hbroken]
      split_ifs <;> simp_all
    exitCode_eq_one := by
      rw [hcode, ← hbroken, hfailed]
      split_ifs <;> simp_all
    exitCode_eq_zero := by
      rw [hcode, ← hbroken, ← h.failed_eq_zero_iff]
      split_ifs <;> simp_all }

section
variable {locale : Locale} {before : Nat} {t : TestCase} {run : TestRun}

end

end Session

end Frontend
