/- Where a report is shown: at the line and the column that it starts at, or nowhere. -/
import Frontend.Diagnostic.Console
import Frontend.Proofs.Diagnostic.Marker
import Frontend.Proofs.Source.LineQuery

namespace Frontend

/-- The lines that a span touches are found in the table of the file, the first of them starts at
or before the span, and no difference of offsets is cut off at zero. -/
structure SourceFile.Touches (f : SourceFile) (id : FileId) (a b first last : Nat) : Prop where
  lines : ∃ spans, f.linesOf? (.within id a b) = some ⟨first, last, spans⟩ ∧
    spans.head? = some (f.lineSpan first)
  ordered : first ≤ last
  last_lt : last < f.lines.count
  lineSpan : f.lineSpan first = .within id (f.lines.startOf first) (f.lines.startOf (first + 1))
  start_le : f.lines.startOf first ≤ a
  le_stop : f.lines.startOf (first + 1) ≤ f.chars.length

/-- Both ends of a span lie in a file, and the excerpt frames the span in the line that it starts on.
This line is counted by the terminators before it. -/
structure Registry.Excerpts (r : Registry) (s : Span) (f : SourceFile) (e : Excerpt) : Prop where
  file : r.fileOf? s = some f
  start : f.span.Covers s.start
  stop : f.span.Covers s.stop
  line : ∃ content terminator,
    f.LineIs (terminatorCount f.chars s.start.offset) content terminator ∧
      e.Frames content
        (s.start.offset - f.lines.startOf (terminatorCount f.chars s.start.offset))
        (s.stop.offset - f.lines.startOf (terminatorCount f.chars s.start.offset))

/-- Neither the marked text nor what stands before it takes 65536 columns. -/
def Excerpt.IsNarrow (e : Excerpt) : Prop :=
  displayWidth e.before.toList < 65536 ∧ displayWidth e.marked.toList < 65536

instance (e : Excerpt) : Decidable e.IsNarrow := inferInstanceAs (Decidable (_ ∧ _))

/-- The line and the column that a span starts at, counted from one, and the line that it ends on if
that is another one. -/
def SourceFile.place (f : SourceFile) (s : Span) (column : Nat) : String :=
  let first := terminatorCount f.chars s.start.offset
  let last := terminatorCount f.chars s.stop.offset
  f.path ++ ":" ++ toString (first + 1) ++ ":" ++ toString (column + 1) ++ ": " ++
    if first = last then "" else toString (last + 1) ++ ":_ "

/-- A report at its place. The marker stands as far to the right as the line above it, which follows
its number. -/
def SourceFile.reportAt (f : SourceFile) (s : Span) (e : Excerpt) (severity : Severity)
    (text : String) : List Piece :=
  let color := severity.colors.2
  let number := toString (terminatorCount f.chars s.start.offset + 1)
  let margin := String.ofList (List.replicate number.length ' ')
  [.plain (f.place s e.column)] ++ severity.headline text ++ [.plain "\n"] ++
    [.painted .brightBlack none (number ++ " | "), .plain e.before, .painted color none e.marked,
      .plain (e.after ++ "\n"),
      .painted .brightBlack none (margin ++ " | "), .painted color none e.marker, .plain "\n"]

/-- The line that a span starts on is too wide for the span to be marked in it. -/
def Registry.TooWide (r : Registry) (s : Span) : Prop := ∃ f e, r.Excerpts s f e ∧ ¬ e.IsNarrow

section
variable {r : Registry} {f : SourceFile} {id : FileId} {a b : Nat} {s : Span} {e : Excerpt}

theorem SourceFile.touches (hid : f.id? = some id) (h : r.Encloses f id a b) :
    f.Touches id a b (terminatorCount f.chars a) (terminatorCount f.chars b) := by
  have hb : f.bodyStart ≤ b := Nat.le_trans h.start_le h.ordered
  have hends : f.lineEnds? (.within id a b) =
      some (terminatorCount f.chars a, terminatorCount f.chars b) := by
    rw [lineEnds?_within hid h.start_le h.ordered h.le_stop, startCount_eq h.start_le,
      startCount_eq hb]
    rfl
  have hordered : terminatorCount f.chars a ≤ terminatorCount f.chars b :=
    terminatorCount_mono h.ordered
  have hfirst := terminatorCount_lt_count h.start_le
  refine ⟨⟨_, linesOf?_of_lineEnds? hends, ?_⟩, hordered, terminatorCount_lt_count hb,
    lineSpan_eq hid _, ?_, startOf_succ_le hfirst⟩
  · rw [List.head?_map, List.head?_range', if_neg (by omega)]
    rfl
  · rw [LineTable.startOf_le_iff f.pairwise_starts hfirst, startCount_eq h.start_le]
    exact Nat.lt_succ_self _

theorem SourceFile.LineIs.content_eq {i : Nat} {content terminator content' terminator' : List Char}
    (h : f.LineIs i content terminator) (h' : f.LineIs i content' terminator') :
    content = content' := by
  obtain ⟨before, after, hwithin, hbounds⟩ := h.placed
  obtain ⟨before', after', hwithin', hbounds'⟩ := h'.placed
  obtain ⟨hbefore, hline⟩ := Prod.mk.inj (hbounds.symm.trans hbounds')
  have hchars := hwithin.text_eq.symm.trans hwithin'.text_eq
  rw [List.append_assoc before, List.append_assoc before', List.append_assoc before,
    List.append_assoc before'] at hchars
  have htext := (List.append_inj hchars hbefore).2
  have hlength : (content ++ terminator).length = (content' ++ terminator').length := by
    simp only [List.length_append]
    omega
  rw [← trimEnd_line hwithin.isLine hwithin.isLineEnd, (List.append_inj htext hlength).1,
    trimEnd_line hwithin'.isLine hwithin'.isLineEnd]

namespace Registry

theorem Excerpts.unique {f' : SourceFile} {e' : Excerpt} (h : r.Excerpts s f e)
    (h' : r.Excerpts s f' e') : f = f' ∧ e = e' := by
  obtain rfl : f = f' := Option.some.inj (h.file.symm.trans h'.file)
  obtain ⟨content, terminator, hline, hframes⟩ := h.line
  obtain ⟨content', terminator', hline', hframes'⟩ := h'.line
  obtain rfl := hline.content_eq hline'
  exact ⟨rfl, hframes.unique hframes'⟩

theorem Numbered.id?_of_fileOf? (hnumbered : r.Numbered) (h : r.fileOf? s = some f) :
    ∃ id, r.file? id = some f ∧ f.id? = some id := by
  obtain ⟨id, _, hfile⟩ := Option.bind_eq_some_iff.mp h
  exact ⟨id, hfile, hnumbered id f hfile⟩

/-- A span whose ends lie in a file has a site there. -/
theorem exists_excerpts (hnumbered : r.Numbered) (hfile : r.fileOf? s = some f)
    (hstart : f.span.Covers s.start) (hstop : f.span.Covers s.stop) :
    ∃ e, r.Excerpts s f e ∧ r.site? s = some {
      path := f.path
      line := terminatorCount f.chars s.start.offset + 1
      lastLine := terminatorCount f.chars s.stop.offset + 1
      excerpt := e } := by
  obtain ⟨id, hf, hid⟩ := hnumbered.id?_of_fileOf? hfile
  have hends := SourceFile.lineEnds?_of_covers hid hstart hstop
  obtain ⟨content, terminator, hline⟩ := (SourceFile.holds_of_covers hid hstart).line
  obtain ⟨_, _, hwithin, _⟩ := hline.placed
  have hslice := hline.slice? hf hid
  rw [SourceFile.lineSpan_eq hid] at hslice
  have hframes := Excerpt.frames_ofLine (content ++ terminator)
    (s.start.offset - f.lines.startOf (terminatorCount f.chars s.start.offset))
    (s.stop.offset - f.lines.startOf (terminatorCount f.chars s.start.offset))
  rw [trimEnd_line hwithin.isLine hwithin.isLineEnd] at hframes
  refine ⟨_, ⟨hfile, hstart, hstop, content, terminator, hline, hframes⟩, ?_⟩
  simp only [site?, hfile, hends, SourceFile.lineSpan_eq hid, hslice, Option.bind_eq_bind,
    Option.bind_some]
  rfl

theorem site?_eq_none (hnumbered : r.Numbered) (h : ∀ f e, ¬ r.Excerpts s f e) :
    r.site? s = none := by
  cases hfile : r.fileOf? s with
  | none => simp only [site?, hfile, Option.bind_eq_bind, Option.bind_none]
  | some f =>
      obtain ⟨id, _, hid⟩ := hnumbered.id?_of_fileOf? hfile
      have hoffside : ¬ (f.span.Covers s.start ∧ f.span.Covers s.stop) := by
        rintro ⟨hstart, hstop⟩
        obtain ⟨e, he, _⟩ := exists_excerpts hnumbered hfile hstart hstop
        exact h f e he
      have hlines : f.linesOf? s = none := by
        rw [← Option.not_isSome_iff_eq_none, SourceFile.linesOf?_isSome_iff hid]
        exact hoffside
      have hends : f.lineEnds? s = none := Option.map_eq_none_iff.mp hlines
      simp only [site?, hfile, hends, Option.bind_eq_bind, Option.bind_some, Option.bind_none]

/-- A report about a span in a file is shown at its place, if its line is narrow enough. -/
theorem showReport_of_excerpts (hnumbered : r.Numbered) (h : r.Excerpts s f e)
    (severity : Severity) (text : String) : r.showReport severity s text =
      if e.IsNarrow then .ok (f.reportAt s e severity text) else .error .tooWide := by
  obtain ⟨e', h', hsite⟩ := exists_excerpts hnumbered h.file h.start h.stop
  obtain ⟨_, rfl⟩ := h.unique h'
  obtain ⟨_, _, _, hframes⟩ := h.line
  have hdrawable : e.isDrawable = true ↔ e.IsNarrow := hframes.isDrawable_iff
  simp only [showReport, hsite, hdrawable]
  by_cases hnarrow : e.IsNarrow
  · rw [if_pos hnarrow, if_pos hnarrow, ← List.append_assoc]
    simp only [SourceFile.reportAt, SourceFile.place, Site.lead, Site.body, Text.padding,
      Nat.sub_zero, Nat.add_right_cancel_iff]
  · rw [if_neg hnarrow, if_neg hnarrow]

theorem showReport_of_not_excerpts (hnumbered : r.Numbered) (h : ∀ f e, ¬ r.Excerpts s f e)
    (severity : Severity) (text : String) :
    r.showReport severity s text = .ok (severity.headline text ++ [.plain "\n"]) := by
  rw [showReport, site?_eq_none hnumbered h]

theorem Encloses.covers (h : r.Encloses f id a b) (hid : f.id? = some id) :
    f.span.Covers (.inFile id a) ∧ f.span.Covers (.inFile id b) := by
  rw [SourceFile.span_covers_iff hid, SourceFile.span_covers_iff hid]
  exact ⟨⟨a, rfl, h.start_le, Nat.le_trans h.ordered h.le_stop⟩,
    ⟨b, rfl, Nat.le_trans h.start_le h.ordered, h.le_stop⟩⟩

theorem Excerpts.exists_encloses (hnumbered : r.Numbered) (hordered : s.Ordered)
    (h : r.Excerpts s f e) : ∃ id a b, s = .within id a b ∧ r.Encloses f id a b := by
  cases s with
  | nowhere => cases h.file
  | within id a b =>
      have hfile : r.file? id = some f := h.file
      have hid := hnumbered id f hfile
      obtain ⟨_, ⟨_, rfl⟩, hstart, _⟩ := (SourceFile.span_covers_iff hid).mp h.start
      obtain ⟨_, ⟨_, rfl⟩, _, hstop⟩ := (SourceFile.span_covers_iff hid).mp h.stop
      exact ⟨id, a, b, rfl, hfile, hstart, hordered, hstop⟩

end Registry

theorem Console.add_of_excerpts {c : Console} (hnumbered : c.registry.Numbered)
    (h : c.registry.Excerpts s f e) (severity : Severity) (msg : Message) :
    ReportSink.add c severity s msg =
      if e.IsNarrow then
        ({ c with shown := c.shown ++ f.reportAt s e severity (msg.inLocale c.locale) },
          severity.verdict)
      else (c, .broken .tooWide) := by
  simp only [ReportSink.add, Registry.showReport_of_excerpts hnumbered h]
  by_cases hnarrow : e.IsNarrow
  · simp only [if_pos hnarrow]
  · simp only [if_neg hnarrow]

/-- A text without line breaks is one line. -/
theorem SourceFile.LineIs.content_of_isLine {content terminator : List Char} (h : IsLine f.chars)
    (hmark : f.bodyStart = 0) (hline : f.LineIs 0 content terminator) : content = f.chars := by
  obtain ⟨before, after, hwithin, hbounds⟩ := hline.placed
  have hstart : f.bodyStart = before.length := congrArg Prod.fst hbounds
  obtain rfl : before = [] := List.length_eq_zero_iff.mp (hstart.symm.trans hmark)
  have hterminator : ∀ c ∈ terminator, c ∈ f.chars := by
    intro c hc
    rw [hwithin.text_eq]
    exact List.mem_append_left _ (List.mem_append_right _ hc)
  rcases hwithin.ends with hends | ⟨rfl, rfl⟩
  · cases hends with
    | lineFeed => exact absurd (hterminator '\n' (by simp)) h.1
    | returnAndLineFeed => exact absurd (hterminator '\n' (by simp)) h.1
    | returnAlone => exact absurd (hterminator '\r' (by simp)) h.2
  · rw [hwithin.text_eq, List.append_nil, List.append_nil, List.nil_append]

theorem terminatorCount_of_isLine {text : List Char} (h : IsLine text) (p : Nat) :
    terminatorCount text p = 0 := by
  refine List.countP_eq_zero.mpr ?_
  intro k _
  rw [decide_eq_true_iff]
  rintro (hline | ⟨hreturn, _⟩)
  · exact h.1 (List.mem_of_getElem? hline)
  · exact h.2 (List.mem_of_getElem? hreturn)

/-- What stands after 8192 tabs cannot be marked. -/
theorem Registry.tooWide_after_tabs (hnumbered : r.Numbered) (hfile : r.file? id = some f) {n : Nat}
    (hn : 8192 ≤ n) (hchars : f.chars = List.replicate n '\t' ++ ['x', ' ']) :
    r.TooWide (.within id n (n + 1)) := by
  have hid := hnumbered id f hfile
  have hline : IsLine f.chars := by
    rw [hchars]
    constructor <;> simp [List.mem_replicate]
  have hmark : f.bodyStart = 0 := by
    rw [SourceFile.bodyStart, hchars, List.head?_append, List.head?_replicate,
      if_neg (Nat.ne_of_gt (Nat.lt_of_lt_of_le (by decide) hn))]
    rfl
  have hlength : f.lines.stop = n + 2 := by
    rw [f.lines_stop, hchars, List.length_append, List.length_replicate]
    rfl
  have hencloses : r.Encloses f id n (n + 1) :=
    ⟨hfile, by omega, Nat.le_succ n, by omega⟩
  obtain ⟨hstart, hstop⟩ := hencloses.covers hid
  obtain ⟨e, he, _⟩ := exists_excerpts (s := .within id n (n + 1)) hnumbered hfile hstart hstop
  obtain ⟨content, terminator, hcontent, hframes⟩ := he.line
  rw [terminatorCount_of_isLine hline] at hcontent hframes
  obtain rfl := hcontent.content_of_isLine hline hmark
  have hzero : f.lines.startOf 0 = 0 := hmark
  have hbefore := hframes.before.width
  rw [hzero, Span.start, Span.stop, Position.offset, Position.offset, Nat.sub_zero, Nat.sub_zero,
    Nat.min_eq_left (Nat.le_succ n), hchars, List.take_left' List.length_replicate,
    Excerpt.columnAfter_tabs] at hbefore
  refine ⟨f, e, he, fun hnarrow => ?_⟩
  have hlt := hnarrow.1
  omega

/-- A report about a span of a file goes to the terminal at the line and the column that the span
starts at, with the part of this line that it covers marked. It cannot if the line takes too many
columns. Any other report is shown without a place. -/
theorem Console.add_located {files : List SourceFile} {c : Console}
    (hfiles : c.registry = .ofFiles files) :
    (∀ f id a b, c.registry.Encloses f id a b →
      f.Touches id a b (terminatorCount f.chars a) (terminatorCount f.chars b) ∧
        ∃ e, c.registry.Excerpts (.within id a b) f e ∧ ∀ severity msg,
          ReportSink.add c severity (.within id a b) msg =
            if displayWidth e.before.toList < 65536 ∧ displayWidth e.marked.toList < 65536 then
              ({ c with shown := c.shown ++
                  f.reportAt (.within id a b) e severity (msg.inLocale c.locale) },
                severity.verdict)
            else (c, .broken .tooWide)) ∧
    ∀ s : Span, s.Ordered → (∀ f id a b, s = .within id a b → ¬ c.registry.Encloses f id a b) →
      ∀ severity msg, ReportSink.add c severity s msg =
        ({ c with shown := c.shown ++ (severity.headline (msg.inLocale c.locale) ++
            [.plain "\n"]) },
          severity.verdict) := by
  have hnumbered : c.registry.Numbered := hfiles ▸ Registry.numbered_ofFiles files
  refine ⟨?_, ?_⟩
  · intro f id a b h
    have hid := hnumbered id f h.file
    have hfile : c.registry.fileOf? (.within id a b) = some f := h.file
    obtain ⟨hstart, hstop⟩ := h.covers hid
    obtain ⟨e, he, _⟩ := Registry.exists_excerpts hnumbered hfile hstart hstop
    exact ⟨SourceFile.touches hid h, e, he, Console.add_of_excerpts hnumbered he⟩
  · intro s hordered h severity msg
    have hnone : ∀ f e, ¬ c.registry.Excerpts s f e := by
      intro f e he
      obtain ⟨id, a, b, hs, henclosed⟩ := he.exists_encloses hnumbered hordered
      exact h f id a b hs henclosed
    simp only [ReportSink.add, Registry.showReport_of_not_excerpts hnumbered hnone]

/-- The span starts inside of a line break, after a tab, and ends on the empty last line; the other
one starts at a byte order mark. -/
theorem Console.add_located_at_break :
    let f : SourceFile := ⟨"marked", ['\ufeff', '\t', 'a', '\r', '\n'], some ⟨0⟩⟩
    let c : Console := ⟨.ofFiles [f], ⟨"en"⟩, []⟩
    c.registry.Encloses f ⟨0⟩ 4 5 ∧ (Span.within ⟨0⟩ 0 2).Ordered ∧
      (∃ e, c.registry.Excerpts (.within ⟨0⟩ 4 5) f e ∧ ∀ severity msg,
        ReportSink.add c severity (.within ⟨0⟩ 4 5) msg =
          if displayWidth e.before.toList < 65536 ∧ displayWidth e.marked.toList < 65536 then
            ({ c with shown := c.shown ++
                f.reportAt (.within ⟨0⟩ 4 5) e severity (msg.inLocale c.locale) },
              severity.verdict)
          else (c, .broken .tooWide)) ∧
      ∀ severity msg, ReportSink.add c severity (.within ⟨0⟩ 0 2) msg =
        ({ c with shown := c.shown ++ (severity.headline (msg.inLocale c.locale) ++
            [.plain "\n"]) },
          severity.verdict) := by
  intro f c
  have hinside : c.registry.Encloses f ⟨0⟩ 4 5 := ⟨rfl, by decide, by decide, by decide⟩
  have hordered : (Span.within ⟨0⟩ 0 2).Ordered := Nat.zero_le _
  have houtside : ∀ g id a b, Span.within ⟨0⟩ 0 2 = .within id a b →
      ¬ c.registry.Encloses g id a b := by
    rintro g id a b heq h
    cases heq
    cases h.file
    exact absurd h.start_le (by decide)
  have hfiles : c.registry = .ofFiles [f] := rfl
  obtain ⟨hlocated, hunplaced⟩ := Console.add_located hfiles
  exact ⟨hinside, hordered, (hlocated f ⟨0⟩ 4 5 hinside).2, hunplaced _ hordered houtside⟩

/-- A report about what stands after 8192 tabs is not shown. -/
theorem Console.add_after_tabs :
    let f : SourceFile := ⟨"wide", List.replicate 8192 '\t' ++ ['x', ' '], some ⟨0⟩⟩
    let c : Console := ⟨.ofFiles [f], ⟨"en"⟩, []⟩
    c.registry.Encloses f ⟨0⟩ 8192 8193 ∧
      ReportSink.add c .note (.within ⟨0⟩ 8192 8193) (.ofText "m") = (c, .broken .tooWide) := by
  intro f c
  have hnumbered : c.registry.Numbered := Registry.numbered_ofFiles [f]
  have hfile : c.registry.file? ⟨0⟩ = some f := rfl
  have htooWide : c.registry.TooWide (.within ⟨0⟩ 8192 8193) :=
    Registry.tooWide_after_tabs hnumbered hfile (Nat.le_refl 8192) rfl
  obtain ⟨g, e, he, hwide⟩ := htooWide
  obtain rfl : f = g := Option.some.inj (hfile.symm.trans he.file)
  have hordered : (Span.within ⟨0⟩ 8192 8193).Ordered := Nat.le_succ 8192
  obtain ⟨id, a, b, hs, hencloses⟩ := he.exists_encloses hnumbered hordered
  obtain ⟨rfl, rfl, rfl⟩ := Span.within.inj hs
  refine ⟨hencloses, ?_⟩
  rw [Console.add_of_excerpts hnumbered he, if_neg hwide]

end

end Frontend
