/- The lines of a file lie side by side, from its beginning to its end, each with one terminator. -/
import Frontend.Proofs.Source.Joined
import Frontend.Proofs.Source.Registration

namespace Frontend

/-- The characters of a line terminator, before the characters `rest`. -/
inductive IsTerminator : List Char → List Char → Prop
  | lineFeed (rest : List Char) : IsTerminator ['\n'] rest
  | returnAndLineFeed (rest : List Char) : IsTerminator ['\r', '\n'] rest
  | returnAlone {rest : List Char} (h : rest.head? ≠ some '\n') : IsTerminator ['\r'] rest

theorem IsTerminator.ne_nil {terminator rest : List Char} (h : IsTerminator terminator rest) :
    terminator ≠ [] := by
  cases h <;> exact List.cons_ne_nil _ _

/-- A text that starts at the offset `a` is cut into lines. All but the last one end at the given
offsets. -/
inductive Lined : Nat → List Char → List Nat → Prop
  | last {a text} (h : IsLine text) : Lined a text []
  | next {a content terminator rest ends} (hcontent : IsLine content)
      (hends : IsTerminator terminator rest)
      (h : Lined (a + content.length + terminator.length) rest ends) :
      Lined a (content ++ terminator ++ rest) ((a + content.length + terminator.length) :: ends)

theorem isLine_nil : IsLine [] := ⟨List.not_mem_nil, List.not_mem_nil⟩

theorem IsLine.cons {c : Char} {text : List Char} (h : IsLine text) (hline : c ≠ '\n')
    (hreturn : c ≠ '\r') : IsLine (c :: text) :=
  ⟨List.not_mem_cons_of_ne_of_not_mem hline.symm h.1,
    List.not_mem_cons_of_ne_of_not_mem hreturn.symm h.2⟩

theorem Lined.cons {a : Nat} {c : Char} {text : List Char} {ends : List Nat} (hline : c ≠ '\n')
    (hreturn : c ≠ '\r') (h : Lined (a + 1) text ends) : Lined a (c :: text) ends := by
  cases h with
  | last h => exact .last (h.cons hline hreturn)
  | @next _ content terminator rest ends hcontent hends h =>
      have hshift : a + 1 + content.length = a + (c :: content).length := by
        rw [List.length_cons]
        omega
      rw [hshift] at h ⊢
      exact .next (hcontent.cons hline hreturn) hends h

/-- The scan for line starts cuts a text into lines. -/
theorem lined_lineStartsAfter (a : Nat) (text : List Char) :
    Lined a text (lineStartsAfter a text) := by
  induction a, text using lineStartsAfter.induct with
  | case1 a => exact .last isLine_nil
  | case2 a cs ih => exact .next isLine_nil (.returnAndLineFeed cs) ih
  | case3 a cs hnext ih =>
      have hhead : cs.head? ≠ some '\n' := by
        intro hhead
        obtain ⟨rest, hcs⟩ := List.head?_eq_some_iff.mp hhead
        exact hnext rest hcs
      rw [lineStartsAfter]
      · exact .next isLine_nil (.returnAlone hhead) ih
      · exact hnext
  | case4 a cs ih => exact .next isLine_nil (.lineFeed cs) ih
  | case5 a c cs hnext hreturn hline ih =>
      rw [lineStartsAfter]
      · exact ih.cons hline hreturn
      all_goals assumption

/-- A text is a line with its terminator between two other texts. Only at the end of the text there
is no terminator. -/
structure LineWithin (text before content terminator after : List Char) : Prop where
  text_eq : text = before ++ content ++ terminator ++ after
  isLine : IsLine content
  ends : IsTerminator terminator after ∨ (terminator = [] ∧ after = [])

theorem LineWithin.append_left {text before content terminator after : List Char}
    (h : LineWithin text before content terminator after) (more : List Char) :
    LineWithin (more ++ text) (more ++ before) content terminator after := by
  refine ⟨?_, h.isLine, h.ends⟩
  rw [h.text_eq]
  simp only [List.append_assoc]

theorem Lined.exists_line {a : Nat} {text : List Char} {ends : List Nat} (h : Lined a text ends)
    {i : Nat} (hi : i ≤ ends.length) : ∃ before content terminator after,
      LineWithin text before content terminator after ∧
        (⟨a :: ends, a + text.length⟩ : LineTable).bounds i =
          (a + before.length, a + before.length + content.length + terminator.length) ∧
        (terminator = [] ↔ i = ends.length) := by
  induction h generalizing i with
  | @last a text h =>
      obtain rfl : i = 0 := Nat.le_zero.mp hi
      exact ⟨[], text, [], [], ⟨by simp, h, .inr ⟨rfl, rfl⟩⟩, rfl, iff_of_true rfl rfl⟩
  | @next a content terminator rest ends hcontent hends h ih =>
      cases i with
      | zero =>
          refine ⟨[], content, terminator, rest, ⟨rfl, hcontent, .inl hends⟩, rfl, ?_⟩
          exact iff_of_false hends.ne_nil (Nat.succ_ne_zero _).symm
      | succ i =>
          obtain ⟨before, content', terminator', after, hline, hbounds, hlast⟩ :=
            ih (Nat.le_of_succ_le_succ hi)
          refine ⟨content ++ terminator ++ before, content', terminator', after,
            hline.append_left _, ?_, ?_⟩
          · have hstop : a + (content ++ terminator ++ rest).length =
                a + content.length + terminator.length + rest.length := by
              simp only [List.length_append, Nat.add_assoc]
            have hbefore : a + (content ++ terminator ++ before).length =
                a + content.length + terminator.length + before.length := by
              simp only [List.length_append, Nat.add_assoc]
            rw [hstop, hbefore]
            exact hbounds
          · rw [hlast, List.length_cons, Nat.succ_inj]

namespace SourceFile

/-- Line `i` of a file has this content and this terminator, which only the last line lacks. -/
structure LineIs (f : SourceFile) (i : Nat) (content terminator : List Char) : Prop where
  placed : ∃ before after, LineWithin f.chars before content terminator after ∧
    f.lines.bounds i = (before.length, before.length + content.length + terminator.length)
  last : terminator = [] ↔ i + 1 = f.lines.count

theorem exists_lineIs {f : SourceFile} {i : Nat} (hi : i < f.lines.count) :
    ∃ content terminator, f.LineIs i content terminator := by
  obtain ⟨before, content, terminator, after, hline, hbounds, hlast⟩ :=
    (lined_lineStartsAfter f.bodyStart f.body).exists_line (Nat.le_of_lt_succ hi)
  have hmark : (f.chars.take f.bodyStart).length = f.bodyStart := by
    rw [List.length_take, Nat.min_eq_left f.bodyStart_le_length]
  have hwhole := hline.append_left (f.chars.take f.bodyStart)
  rw [body, List.take_append_drop] at hwhole
  refine ⟨content, terminator, ⟨_, after, hwhole, ?_⟩, ?_⟩
  · rw [List.length_append, hmark]
    exact hbounds
  · rw [hlast]
    exact Nat.succ_inj.symm

theorem LineIs.startOf {f : SourceFile} {i : Nat} {content terminator : List Char}
    (h : f.LineIs i content terminator) :
    f.lines.startOf i + content.length + terminator.length = f.lines.startOf (i + 1) := by
  obtain ⟨before, after, _, hbounds⟩ := h.placed
  have hstart : f.lines.startOf i = before.length := congrArg Prod.fst hbounds
  rw [hstart]
  exact (congrArg Prod.snd hbounds).symm

theorem startOf_succ_le {f : SourceFile} {i : Nat} (hi : i < f.lines.count) :
    f.lines.startOf (i + 1) ≤ f.chars.length := by
  obtain ⟨content, terminator, hline⟩ := exists_lineIs hi
  obtain ⟨before, after, hwithin, hbounds⟩ := hline.placed
  have hstop : f.lines.startOf (i + 1) = before.length + content.length + terminator.length :=
    congrArg Prod.snd hbounds
  rw [hstop, hwithin.text_eq]
  simp only [List.length_append]
  exact Nat.le_add_right _ _

theorem startOf_le_succ {f : SourceFile} {i : Nat} (hi : i < f.lines.count) :
    f.lines.startOf i ≤ f.lines.startOf (i + 1) := by
  obtain ⟨content, terminator, hline⟩ := exists_lineIs hi
  rw [← hline.startOf]
  omega

theorem LineIs.slice? {f : SourceFile} {i : Nat} {content terminator : List Char}
    (h : f.LineIs i content terminator) {r : Registry} {id : FileId} (hf : r.file? id = some f)
    (hid : f.id? = some id) : r.slice? (f.lineSpan i) = some (content ++ terminator) := by
  obtain ⟨before, after, hwithin, hbounds⟩ := h.placed
  have hstart : f.lines.startOf i = before.length := congrArg Prod.fst hbounds
  have hstop : f.lines.startOf (i + 1) = before.length + content.length + terminator.length :=
    congrArg Prod.snd hbounds
  rw [lineSpan_eq hid, hstart, hstop]
  refine Registry.slice?_eq_some_iff.mpr ⟨f, before, after, hf, ?_, rfl, ?_⟩
  · rw [hwithin.text_eq, List.append_assoc before]
  · rw [List.length_append, Nat.add_assoc]

/-- The lines of a file lie side by side from the beginning of its text to the end. -/
structure Tiled (f : SourceFile) : Prop where
  count_pos : 0 < f.lines.count
  first : (f.lines.bounds 0).1 = f.bodyStart
  meet : ∀ i, (f.lines.bounds i).2 = (f.lines.bounds (i + 1)).1
  last : (f.lines.bounds (f.lines.count - 1)).2 = f.chars.length
  nonempty : ∀ i, i + 1 < f.lines.count → (f.lines.bounds i).1 < (f.lines.bounds i).2
  holds : ∀ p, f.bodyStart ≤ p → p < f.chars.length →
    ∃! i, i < f.lines.count ∧ (f.lines.bounds i).1 ≤ p ∧ p < (f.lines.bounds i).2
  line : ∀ i, i < f.lines.count → ∃ content terminator, f.LineIs i content terminator

theorem stop_of_last (f : SourceFile) :
    (f.lines.bounds (f.lines.count - 1)).2 = f.chars.length := by
  have hcount : f.lines.count - 1 + 1 = f.lines.count := Nat.sub_add_cancel (Nat.succ_pos _)
  rw [LineTable.bounds, hcount, LineTable.startOf_count, lines_stop]

/-- The line that holds an offset is the last one that starts up to it. -/
theorem mem_bounds_iff {f : SourceFile} {i p : Nat} (hi : i < f.lines.count)
    (hp : p < f.chars.length) :
    (f.lines.bounds i).1 ≤ p ∧ p < (f.lines.bounds i).2 ↔ i + 1 = f.lines.startCount p := by
  have hle : f.lines.startCount p ≤ f.lines.count := List.countP_le_length
  have hstart := LineTable.startOf_le_iff f.pairwise_starts (p := p) hi
  change f.lines.startOf i ≤ p ∧ p < f.lines.startOf (i + 1) ↔ _
  by_cases hnext : i + 1 < f.lines.count
  · have hstop := LineTable.startOf_le_iff f.pairwise_starts (p := p) hnext
    omega
  · have hlast : i + 1 = f.lines.count := by omega
    have hend : f.lines.startOf (i + 1) = f.chars.length := by
      rw [hlast, LineTable.startOf_count, lines_stop]
    omega

theorem tiled (f : SourceFile) : f.Tiled := by
  refine ⟨Nat.succ_pos _, rfl, fun _ => rfl, f.stop_of_last, ?_, ?_, fun i hi => exists_lineIs hi⟩
  · intro i hi
    obtain ⟨content, terminator, hline⟩ := exists_lineIs (Nat.lt_of_succ_lt hi)
    have hends : terminator ≠ [] := mt hline.last.mp (Nat.ne_of_lt hi)
    have hpos := List.length_pos_iff.mpr hends
    have hstop := hline.startOf
    change f.lines.startOf i < f.lines.startOf (i + 1)
    omega
  · intro p hstart hp
    have hpos := startCount_pos hstart
    have hle : f.lines.startCount p ≤ f.lines.count := List.countP_le_length
    have hi : f.lines.startCount p - 1 < f.lines.count := by omega
    refine ⟨_, ⟨hi, (mem_bounds_iff hi hp).mpr (Nat.sub_add_cancel hpos)⟩, ?_⟩
    rintro j ⟨hj, hholds⟩
    have hcount := (mem_bounds_iff hj hp).mp hholds
    omega

section
variable {f : SourceFile} {id : FileId}

theorem startCount_bodyStart (f : SourceFile) : f.lines.startCount f.bodyStart = 1 := by
  have hpos := startCount_pos (Nat.le_refl f.bodyStart)
  have hle : f.lines.startCount f.bodyStart ≤ f.lines.count := List.countP_le_length
  by_cases hnext : 1 < f.lines.count
  · have hsecond := LineTable.startOf_le_iff f.pairwise_starts (p := f.bodyStart) hnext
    have hlt : f.bodyStart < f.lines.startOf 1 := f.tiled.nonempty 0 hnext
    omega
  · omega

/-- A byte order mark is no line terminator. -/
theorem terminatorCount_bodyStart (f : SourceFile) : terminatorCount f.chars f.bodyStart = 0 := by
  unfold bodyStart
  split
  · rename_i hmark
    have hfirst : ¬ EndsLine f.chars 0 := by
      rw [List.head?_eq_getElem?] at hmark
      simp [EndsLine, hmark]
    rw [terminatorCount_succ, if_neg hfirst]
    rfl
  · rfl

/-- The number of a line is that of the terminators before it. -/
theorem startCount_eq {f : SourceFile} {p : Nat} (h : f.bodyStart ≤ p) :
    f.lines.startCount p = terminatorCount f.chars p + 1 := by
  induction h with
  | refl => rw [startCount_bodyStart, terminatorCount_bodyStart]
  | @step p h ih =>
      rw [Nat.succ_eq_add_one, LineTable.startCount_succ f.pairwise_starts, terminatorCount_succ,
        ih]
      simp only [succ_mem_starts_iff h]
      omega

theorem startCount_stop (f : SourceFile) : f.lines.startCount f.lines.stop = f.lines.count := by
  have hpos : 0 < f.lines.count := f.tiled.count_pos
  have hle : f.lines.startCount f.lines.stop ≤ f.lines.count := List.countP_le_length
  have hlast : f.lines.count - 1 < f.lines.count := Nat.sub_lt hpos Nat.one_pos
  have hstart := startOf_le_succ hlast
  rw [Nat.sub_add_cancel hpos, LineTable.startOf_count,
    LineTable.startOf_le_iff f.pairwise_starts hlast] at hstart
  omega

theorem startCount_of_lt_bodyStart {f : SourceFile} {p : Nat} (h : p < f.bodyStart) :
    f.lines.startCount p = 0 := by
  refine List.countP_eq_zero.mpr ?_
  intro k hk
  have hle : f.bodyStart ≤ k := by
    rcases List.mem_cons.mp hk with rfl | hk
    · exact Nat.le_refl _
    · obtain ⟨j, rfl, _⟩ := mem_lineStartsAfter_iff.mp hk
      omega
  rw [decide_eq_true_iff]
  omega

theorem startCount_of_stop_lt {f : SourceFile} {p : Nat} (h : f.lines.stop < p) :
    f.lines.startCount p = f.lines.count := by
  have hle : f.lines.startCount p ≤ f.lines.count := List.countP_le_length
  have hmono : f.lines.startCount f.lines.stop ≤ f.lines.startCount p := by
    refine List.countP_mono_left ?_
    intro k _ hk
    rw [decide_eq_true_iff] at hk ⊢
    omega
  rw [startCount_stop] at hmono
  omega

/-- No line holds a position outside of the span of the file. -/
theorem lineAt?_eq_none {f : SourceFile} {p : Nat} (id : FileId)
    (h : p < f.bodyStart ∨ f.lines.stop < p) : f.lineAt? (.inFile id p) = none := by
  have htable : f.lines.lineAt? p = none := by
    unfold LineTable.lineAt?
    rcases h with h | h
    · have hcount : f.lines.starts.countP (· ≤ p) = 0 := startCount_of_lt_bodyStart h
      rw [hcount]
    · have hcount : f.lines.starts.countP (· ≤ p) = f.lines.count := startCount_of_stop_lt h
      have hpos := f.tiled.count_pos
      split
      · rfl
      · rename_i i hi
        rw [hcount, Nat.succ_eq_add_one] at hi
        rw [← hi, LineTable.startOf_count, if_neg (Nat.not_le_of_lt h)]
  rw [lineAt?, htable, ite_self]

theorem bodyStart_le_stop (f : SourceFile) : f.bodyStart ≤ f.lines.stop :=
  f.lines_stop ▸ f.bodyStart_le_length

/-- The span of a file touches all of its lines. -/
theorem linesOf?_span (hid : f.id? = some id) : f.linesOf? f.span =
    some ⟨0, f.lines.count - 1, (List.range f.lines.count).map f.lineSpan⟩ := by
  have hspan : f.span = .within id f.bodyStart f.lines.stop := by
    rw [span, spanBetween, hid]
  have hends := lineEnds?_within hid (Nat.le_refl _) f.bodyStart_le_stop (Nat.le_refl _)
  rw [startCount_bodyStart, startCount_stop, Nat.sub_self] at hends
  rw [hspan, linesOf?_of_lineEnds? hends, Nat.sub_add_cancel f.tiled.count_pos,
    List.range_eq_range']
  rfl

/-- The slices of the first lines make up the slice up to where the next line starts. -/
theorem exists_slices {r : Registry} (hf : r.file? id = some f) (hid : f.id? = some id) {n : Nat}
    (hn : n ≤ f.lines.count) : ∃ texts : List (List Char),
      (List.range n).map (fun i => r.slice? (f.lineSpan i)) = texts.map some ∧
        r.slice? (.within id f.bodyStart (f.lines.startOf n)) = some texts.flatten := by
  induction n with
  | zero =>
      have hmark : (f.chars.take f.bodyStart).length = f.bodyStart := by
        rw [List.length_take, Nat.min_eq_left f.bodyStart_le_length]
      refine ⟨[], rfl, ?_⟩
      refine Registry.slice?_eq_some_iff.mpr ⟨f, _, f.chars.drop f.bodyStart, hf, ?_, hmark, rfl⟩
      rw [List.flatten_nil, List.append_nil, List.take_append_drop]
  | succ n ih =>
      obtain ⟨texts, hslices, hwhole⟩ := ih (Nat.le_of_succ_le hn)
      obtain ⟨content, terminator, hline⟩ := exists_lineIs (Nat.lt_of_succ_le hn)
      have hslice := hline.slice? hf hid
      refine ⟨texts ++ [content ++ terminator], ?_, ?_⟩
      · rw [List.range_succ, List.map_append, List.map_append, hslices, List.map_singleton, hslice]
        rfl
      · rw [lineSpan_eq hid] at hslice
        rw [List.flatten_append, List.flatten_singleton]
        exact Registry.slice?_append hwhole hslice

/-- The lines of a file tile its text, and in any registry the slices of the lines one after another
are the slice of the file. -/
theorem lines_tile (f : SourceFile) : f.Tiled ∧ ∀ files id,
    (Registry.ofFiles files).file? id = some f → f.span = .within id f.bodyStart f.chars.length ∧
      f.linesOf? f.span =
        some ⟨0, f.lines.count - 1, (List.range f.lines.count).map f.lineSpan⟩ ∧
      ∃ texts : List (List Char),
        (List.range f.lines.count).map (fun i => (Registry.ofFiles files).slice? (f.lineSpan i)) =
            texts.map some ∧
          (Registry.ofFiles files).slice? f.span = some texts.flatten := by
  refine ⟨f.tiled, ?_⟩
  intro files id hf
  have hid := Registry.numbered_ofFiles files id f hf
  have hspan : f.span = .within id f.bodyStart f.chars.length := by
    rw [span, spanBetween, hid, lines_stop]
  obtain ⟨texts, hslices, hwhole⟩ := exists_slices hf hid (Nat.le_refl f.lines.count)
  rw [LineTable.startOf_count, lines_stop, ← hspan] at hwhole
  exact ⟨hspan, linesOf?_span hid, texts, hslices, hwhole⟩

end

/-- After the byte order mark there are all kinds of line breaks, and nothing after the last one. -/
theorem lines_tile_mixed :
    let chars := ['\ufeff', 'a', '\r', '\n', '\r', '\r', '\n', 'b', '\n']
    let f : SourceFile := ⟨"mixed", chars, some ⟨0⟩⟩
    (Registry.ofFiles [f]).file? ⟨0⟩ = some f ∧ f.Tiled ∧ f.span = .within ⟨0⟩ 1 9 ∧
      f.linesOf? f.span = some ⟨0, 4, (List.range 5).map f.lineSpan⟩ ∧
      ∃ texts : List (List Char),
        (List.range 5).map (fun i => (Registry.ofFiles [f]).slice? (f.lineSpan i)) =
            texts.map some ∧
          (Registry.ofFiles [f]).slice? f.span = some texts.flatten := by
  intro chars f
  have hfile : (Registry.ofFiles [f]).file? ⟨0⟩ = some f := rfl
  obtain ⟨htiled, hregistry⟩ := lines_tile f
  exact ⟨hfile, htiled, hregistry [f] ⟨0⟩ hfile⟩

end SourceFile

end Frontend
