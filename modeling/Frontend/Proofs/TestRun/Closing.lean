/- What a session shows in the end: its logs, up to the first report that is too wide to be marked. -/
import Frontend.Proofs.Diagnostic.Site
import Frontend.TestRun.Session

namespace Frontend

/-- What is shown for a report whose line is not too wide. -/
inductive Registry.Shows (r : Registry) (report : Report) : List Piece → Prop
  | located {f e} : r.Excerpts report.span f e → e.IsNarrow →
      r.Shows report (f.reportAt report.span e report.severity report.text)
  | unplaced : (∀ f e, ¬ r.Excerpts report.span f e) →
      r.Shows report (report.severity.headline report.text ++ [.plain "\n"])

/-- Reports are shown one after the other, up to the first one that is too wide. -/
inductive Registry.ShowsAll (r : Registry) : List Report → Showing → Prop
  | nil : r.ShowsAll [] ⟨[], none⟩
  | cons {report reports pieces more broken?} : r.Shows report pieces →
      r.ShowsAll reports ⟨more, broken?⟩ →
      r.ShowsAll (report :: reports) ⟨pieces ++ more, broken?⟩
  | tooWide {report reports} : r.TooWide report.span →
      r.ShowsAll (report :: reports) ⟨[], some .tooWide⟩

/-- Logs are shown one after the other, each with all its reports, up to the first report that is too
wide. -/
inductive TestLog.ShownAll : List TestLog → Showing → Prop
  | nil : ShownAll [] ⟨[], none⟩
  | cons {log logs pieces more broken?} :
      log.run.registry.ShowsAll log.run.reports ⟨pieces, none⟩ → ShownAll logs ⟨more, broken?⟩ →
      ShownAll (log :: logs) ⟨log.lead ++ pieces ++ [rule ""] ++ more, broken?⟩
  | broken {log logs pieces e} : log.run.registry.ShowsAll log.run.reports ⟨pieces, some e⟩ →
      ShownAll (log :: logs) ⟨log.lead ++ pieces, some e⟩

/-- There is a report in the logs that is too wide to be marked. -/
def TestLog.Overflow (logs : List TestLog) : Prop :=
  ∃ log ∈ logs, ∃ report ∈ log.run.reports, log.run.registry.TooWide report.span

namespace Showing

theorem append_unbroken (pieces : List Piece) (later : Showing) :
    append ⟨pieces, none⟩ later = ⟨pieces ++ later.pieces, later.broken?⟩ := rfl

theorem append_broken (pieces : List Piece) (e : SinkError) (later : Showing) :
    append ⟨pieces, some e⟩ later = ⟨pieces, some e⟩ := rfl

theorem join_cons (first : Showing) (rest : List Showing) :
    join (first :: rest) = first.append (join rest) := rfl

theorem between_eq (before after : List Piece) (parts : List Showing) :
    between before after parts =
      ⟨before ++ (join parts).pieces ++ if (join parts).broken?.isSome then [] else after,
        (join parts).broken?⟩ := by
  rw [between, append_unbroken]
  rcases join parts with ⟨pieces, broken?⟩
  cases broken? with
  | none => rw [append_unbroken, ← List.append_assoc]; rfl
  | some e => rw [append_broken, Option.isSome_some, if_pos rfl, List.append_nil]

end Showing

section
variable {r : Registry} {report : Report} {reports : List Report} {pieces : List Piece}
  {shown : Showing} {logs : List TestLog}

theorem Registry.Shows.not_tooWide (h : r.Shows report pieces) : ¬ r.TooWide report.span := by
  rintro ⟨f', e', h', hwide⟩
  cases h with
  | located he hnarrow =>
      obtain ⟨_, rfl⟩ := he.unique h'
      exact hwide hnarrow
  | unplaced hnone => exact hnone f' e' h'

theorem Registry.showing_of_tooWide (hnumbered : r.Numbered) (h : r.TooWide report.span) :
    r.showing report = ⟨[], some .tooWide⟩ := by
  obtain ⟨f, e, he, hwide⟩ := h
  rw [showing, showReport_of_excerpts hnumbered he, if_neg hwide]

theorem Registry.exists_shows (hnumbered : r.Numbered) (h : ¬ r.TooWide report.span) :
    ∃ pieces, r.Shows report pieces ∧ r.showing report = ⟨pieces, none⟩ := by
  by_cases hplaced : ∃ f e, r.Excerpts report.span f e
  · obtain ⟨f, e, he⟩ := hplaced
    have hnarrow : e.IsNarrow := by
      by_contra hwide
      exact h ⟨f, e, he, hwide⟩
    refine ⟨_, .located he hnarrow, ?_⟩
    rw [showing, showReport_of_excerpts hnumbered he, if_pos hnarrow]
  · have hnone : ∀ f e, ¬ r.Excerpts report.span f e := fun f e he => hplaced ⟨f, e, he⟩
    refine ⟨_, .unplaced hnone, ?_⟩
    rw [showing, showReport_of_not_excerpts hnumbered hnone]

theorem Registry.showsAll_join (hnumbered : r.Numbered) (reports : List Report) :
    r.ShowsAll reports (.join (reports.map r.showing)) := by
  induction reports with
  | nil => exact .nil
  | cons report reports ih =>
      rw [List.map_cons, Showing.join_cons]
      by_cases htooWide : r.TooWide report.span
      · rw [showing_of_tooWide hnumbered htooWide]
        exact .tooWide htooWide
      · obtain ⟨pieces, hshows, hshowing⟩ := exists_shows hnumbered htooWide
        rw [hshowing]
        exact .cons hshows ih

theorem Registry.ShowsAll.isSome_broken?_iff (h : r.ShowsAll reports shown) :
    shown.broken?.isSome = true ↔ ∃ report ∈ reports, r.TooWide report.span := by
  induction h with
  | nil => simp
  | cons hshows _ ih => simpa [hshows.not_tooWide] using ih
  | tooWide htooWide => simp [htooWide]

theorem TestLog.shownAll_join (h : ∀ log ∈ logs, log.run.registry.Numbered) :
    ShownAll logs (.join (logs.map (·.showing))) := by
  induction logs with
  | nil => exact .nil
  | cons log logs ih =>
      obtain ⟨hlog, hlogs⟩ := List.forall_mem_cons.mp h
      have hreports := Registry.showsAll_join hlog log.run.reports
      rw [List.map_cons, Showing.join_cons, TestLog.showing, Showing.between_eq]
      rcases hjoin : Showing.join (log.run.reports.map log.run.registry.showing) with
        ⟨pieces, broken?⟩
      rw [hjoin] at hreports
      cases broken? with
      | none => exact .cons hreports (ih hlogs)
      | some e =>
          rw [Option.isSome_some, if_pos rfl, List.append_nil, Showing.append_broken]
          exact .broken hreports

theorem TestLog.ShownAll.isSome_broken?_iff (h : ShownAll logs shown) :
    shown.broken?.isSome = true ↔ Overflow logs := by
  induction h with
  | nil => simp [Overflow]
  | cons hreports _ ih =>
      have hnone := mt hreports.isSome_broken?_iff.mpr (by simp)
      rw [Overflow, List.exists_mem_cons_iff, or_iff_right hnone]
      exact ih
  | broken hreports =>
      have hsome := hreports.isSome_broken?_iff.mp rfl
      exact iff_of_true rfl ⟨_, List.mem_cons_self, hsome⟩

end

namespace Session

/-- A session shows its counts and its logs. It breaks off just if a report overflows. -/
theorem exists_closing {s : Session} (h : ∀ log ∈ s.logs, log.run.registry.Numbered) :
    ∃ pieces broken?, TestLog.ShownAll s.logs ⟨pieces, broken?⟩ ∧
      (broken?.isSome = true ↔ TestLog.Overflow s.logs) ∧
      s.closing =
        ⟨s.counts ++ pieces ++ if broken?.isSome then [] else [.plain "\n"], broken?⟩ := by
  have hshown := TestLog.shownAll_join h
  exact ⟨_, _, hshown, hshown.isSome_broken?_iff, Showing.between_eq _ _ _⟩

end Session

end Frontend
