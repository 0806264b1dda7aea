/- Which line holds a position of a file, and which lines a span touches. -/
import Frontend.Proofs.Source.Tiling

namespace Frontend

/-- The position lies between the ends of the span, both included. -/
inductive Span.Covers : Span → Position → Prop
  | within {id : FileId} {a b p : Nat} (start : a ≤ p) (stop : p ≤ b) :
      Covers (.within id a b) (.inFile id p)

/-- Each offset with the next one. -/
def offsetPairs : List Nat → List (Nat × Nat)
  | [] => []
  | [_] => []
  | p :: q :: offsets => (p, q) :: offsetPairs (q :: offsets)

/-- What a search for a value in a list in order may come to: an index where the value stands, or
the index where it would have to stand. -/
inductive SearchedFor (values : List Nat) (x : Nat) : Except Nat Nat → Prop
  | found {i : Nat} (h : values[i]? = some x) : SearchedFor values x (.ok i)
  | missing {i : Nat} (hi : i ≤ values.length) (before : ∀ y ∈ values.take i, y < x)
      (after : ∀ y ∈ values.drop i, x < y) : SearchedFor values x (.error i)

namespace LineTable

variable {t : LineTable} {p : Nat}

/-- The start of each line and then the end of the text, which may be the last start once more. -/
def offsets (t : LineTable) : List Nat := t.starts ++ [t.stop]

theorem length_offsets (t : LineTable) : t.offsets.length = t.count + 1 :=
  List.length_append

theorem getElem?_offsets {i : Nat} (hi : i ≤ t.count) : t.offsets[i]? = some (t.startOf i) := by
  rcases Nat.lt_or_eq_of_le hi with hlt | rfl
  · rw [startOf_eq hlt, offsets, List.getElem?_append_left hlt, List.getElem?_eq_getElem hlt]
  · rw [startOf_count, offsets, count, List.getElem?_append_right (Nat.le_refl _), Nat.sub_self]
    rfl

theorem drop_offsets {i : Nat} (hi : i ≤ t.count) :
    t.offsets.drop i = t.startOf i :: t.offsets.drop (i + 1) := by
  obtain ⟨hlt, hget⟩ := List.getElem?_eq_some_iff.mp (getElem?_offsets hi)
  rw [List.drop_eq_getElem_cons hlt, hget]

/-- The pairs of a slice with one more offset than there are lines are the bounds of these lines. -/
theorem offsetPairs_offsets {first n : Nat} (h : first + n ≤ t.count) :
    offsetPairs ((t.offsets.drop first).take (n + 1)) = (List.range' first n).map t.bounds := by
  induction n generalizing first with
  | zero =>
      rw [drop_offsets (Nat.le_of_add_right_le h)]
      rfl
  | succ n ih =>
      have hnext : first + 1 ≤ t.count := by omega
      have hlater : first + 1 + n ≤ t.count := by omega
      have hpairs := ih hlater
      rw [drop_offsets hnext, List.take_succ_cons] at hpairs
      rw [drop_offsets (Nat.le_of_succ_le hnext), drop_offsets hnext, List.take_succ_cons,
        List.take_succ_cons, offsetPairs, hpairs, List.range'_succ, List.map_cons, bounds]

/-- A search among the line starts tells how many of them come up to the offset. -/
theorem eq_of_searchedFor (h : t.starts.Pairwise (· < ·)) {result : Except Nat Nat}
    (hsearch : SearchedFor t.starts p result) :
    (∃ i, result = .ok i ∧ t.startCount p = i + 1) ∨ result = .error (t.startCount p) := by
  cases hsearch with
  | @found i hi =>
      refine .inl ⟨i, rfl, ?_⟩
      have hlower : i < t.startCount p := (le_iff_lt_countP h hi).mp (Nat.le_refl p)
      have hle : t.startCount p ≤ t.starts.length := List.countP_le_length
      refine Nat.le_antisymm (Nat.le_of_not_lt fun hlt => ?_) hlower
      -- The next start would come up to the offset too, which is the start before it.
      obtain ⟨hbound, rfl⟩ := List.getElem?_eq_some_iff.mp hi
      have hnext : i + 1 < t.starts.length := Nat.lt_of_lt_of_le hlt hle
      have hlater := List.pairwise_iff_getElem.mp h i (i + 1) hbound hnext (Nat.lt_succ_self i)
      have hupto := (le_iff_lt_countP h (List.getElem?_eq_getElem hnext)).mpr hlt
      exact Nat.not_le_of_lt hlater hupto
  | @missing i hi before after =>
      have hbefore : (t.starts.take i).countP (· ≤ p) = (t.starts.take i).length := by
        refine List.countP_eq_length.mpr ?_
        intro y hy
        exact decide_eq_true (Nat.le_of_lt (before y hy))
      have hafter : (t.starts.drop i).countP (· ≤ p) = 0 := by
        refine List.countP_eq_zero.mpr ?_
        intro y hy
        rw [decide_eq_true_iff]
        exact Nat.not_le_of_lt (after y hy)
      refine .inr (congrArg Except.error ?_)
      rw [startCount, ← List.take_append_drop i t.starts, List.countP_append, hbefore, hafter,
        List.length_take, Nat.min_eq_left hi, Nat.add_zero]

end LineTable

namespace SourceFile

/-- Line `n` of a file holds a position. The end of a line belongs to the next one, if there is
one. Any search of the line starts comes to this line, or to the index after it. -/
structure Holds (f : SourceFile) (n : Nat) (p : Position) : Prop where
  lt_count : n < f.lines.count
  line : ∃ content terminator, f.LineIs n content terminator
  covers : (f.lineSpan n).Covers p
  last : p = (f.lineSpan n).stop → n + 1 = f.lines.count
  searched : ∀ result, SearchedFor f.lines.starts p.offset result →
    result = .ok n ∨ result = .error (n + 1)

/-- These are the lines of a file that a span touches, as they are cut from its offsets. -/
structure Touched (f : SourceFile) (s : Span) (range : LineRange) : Prop where
  first : range.first = terminatorCount f.chars s.start.offset
  last : range.last = terminatorCount f.chars s.stop.offset
  ordered : range.first ≤ range.last
  inTable : range.last + 2 ≤ f.lines.offsets.length
  spans : range.spans = (offsetPairs ((f.lines.offsets.drop range.first).take
    (range.last + 2 - range.first))).map f.spanBetween
  lines : range.spans = (List.range' range.first (range.last - range.first + 1)).map f.lineSpan
  count : range.spans.length = range.last - range.first + 1
  start : f.Holds range.first s.start
  stop : f.Holds range.last s.stop

section
variable {f : SourceFile} {id : FileId} {p : Position} {s : Span}

theorem span_covers_iff (hid : f.id? = some id) : f.span.Covers p ↔
    ∃ offset, p = .inFile id offset ∧ f.bodyStart ≤ offset ∧ offset ≤ f.lines.stop := by
  rw [span, spanBetween, hid]
  constructor
  · rintro ⟨hstart, hstop⟩
    exact ⟨_, rfl, hstart, hstop⟩
  · rintro ⟨offset, rfl, hstart, hstop⟩
    exact .within hstart hstop

theorem lineAt?_of_covers (hid : f.id? = some id) (h : f.span.Covers p) :
    f.lineAt? p = some (terminatorCount f.chars p.offset) := by
  obtain ⟨offset, rfl, hstart, hstop⟩ := (span_covers_iff hid).mp h
  rw [lineAt?_inFile hid hstart hstop, startCount_eq hstart]
  rfl

theorem lineAt?_of_not_covers (hid : f.id? = some id) (h : ¬ f.span.Covers p) :
    f.lineAt? p = none := by
  cases p with
  | nowhere => rfl
  | inFile other offset =>
      by_cases hother : f.id? = some other
      · cases hid.symm.trans hother
        refine lineAt?_eq_none id ?_
        by_contra hinside
        rw [not_or, Nat.not_lt, Nat.not_lt] at hinside
        exact h ((span_covers_iff hid).mpr ⟨offset, rfl, hinside⟩)
      · rw [lineAt?, if_neg hother]

theorem lineAt?_isSome_iff (hid : f.id? = some id) :
    (f.lineAt? p).isSome = true ↔ f.span.Covers p := by
  constructor
  · intro hsome
    by_contra h
    rw [lineAt?_of_not_covers hid h] at hsome
    cases hsome
  · intro h
    rw [lineAt?_of_covers hid h]
    rfl

theorem terminatorCount_lt_count {offset : Nat} (h : f.bodyStart ≤ offset) :
    terminatorCount f.chars offset < f.lines.count := by
  have hle : f.lines.startCount offset ≤ f.lines.count := List.countP_le_length
  rwa [startCount_eq h] at hle

theorem holds_of_covers (hid : f.id? = some id) (h : f.span.Covers p) :
    f.Holds (terminatorCount f.chars p.offset) p := by
  obtain ⟨offset, rfl, hstart, hstop⟩ := (span_covers_iff hid).mp h
  have hcount := startCount_eq hstart
  have hn := terminatorCount_lt_count hstart
  change f.Holds (terminatorCount f.chars offset) (.inFile id offset)
  generalize terminatorCount f.chars offset = n at hcount hn ⊢
  have hbegins : f.lines.startOf n ≤ offset :=
    (LineTable.startOf_le_iff f.pairwise_starts hn).mpr (hcount ▸ Nat.lt_succ_self n)
  have hends : offset ≤ f.lines.startOf (n + 1) :=
    hcount ▸ LineTable.lt_startOf_startCount f.pairwise_starts hstop
  refine ⟨hn, exists_lineIs hn, ?_, ?_, ?_⟩
  · rw [lineSpan_eq hid]
    exact .within hbegins hends
  · rw [lineSpan_eq hid]
    intro hoffset
    obtain rfl : offset = f.lines.startOf (n + 1) := (Position.inFile.inj hoffset).2
    by_contra hlast
    have hnext : n + 1 < f.lines.count := Nat.lt_of_le_of_ne hn hlast
    have hlater := (LineTable.startOf_le_iff f.pairwise_starts hnext).mp (Nat.le_refl _)
    omega
  · intro result hsearch
    rcases LineTable.eq_of_searchedFor f.pairwise_starts hsearch with ⟨i, rfl, hi⟩ | rfl
    · have hsame : n + 1 = i + 1 := hcount.symm.trans hi
      exact .inl (congrArg Except.ok (Nat.succ.inj hsame).symm)
    · exact .inr (congrArg Except.error hcount)

theorem linesOf?_isSome_iff (hid : f.id? = some id) :
    (f.linesOf? s).isSome = true ↔ f.span.Covers s.start ∧ f.span.Covers s.stop := by
  rw [← lineAt?_isSome_iff hid, ← lineAt?_isSome_iff hid, linesOf?, Option.isSome_map, lineEnds?]
  cases f.lineAt? s.start with
  | none => simp
  | some first =>
      cases f.lineAt? s.stop with
      | none => simp
      | some last => simp

theorem lineEnds?_of_covers (hid : f.id? = some id) (hstart : f.span.Covers s.start)
    (hstop : f.span.Covers s.stop) : f.lineEnds? s =
      some (terminatorCount f.chars s.start.offset, terminatorCount f.chars s.stop.offset) := by
  rw [lineEnds?, lineAt?_of_covers hid hstart, lineAt?_of_covers hid hstop]
  rfl

theorem lineEnds?_of_linesOf? {range : LineRange} (h : f.linesOf? s = some range) :
    f.lineEnds? s = some (range.first, range.last) := by
  obtain ⟨⟨first, last⟩, hends, rfl⟩ := Option.map_eq_some_iff.mp h
  exact hends

theorem touched_of_linesOf? (hid : f.id? = some id) {range : LineRange} (hordered : s.Ordered)
    (h : f.linesOf? s = some range) : f.Touched s range := by
  obtain ⟨hstart, hstop⟩ := (linesOf?_isSome_iff hid).mp (Option.isSome_of_eq_some h)
  have hends := Option.some.inj ((lineEnds?_of_linesOf? h).symm.trans
    (lineEnds?_of_covers hid hstart hstop))
  obtain ⟨hfirst, hlast⟩ := Prod.mk.inj hends
  have hholdsStart := holds_of_covers hid hstart
  have hholdsStop := holds_of_covers hid hstop
  have hle : terminatorCount f.chars s.start.offset ≤ terminatorCount f.chars s.stop.offset :=
    terminatorCount_mono hordered
  rw [← hfirst] at hholdsStart hle
  rw [← hlast] at hholdsStop hle
  have hlt := hholdsStop.lt_count
  have hspans := spans_of_linesOf? h
  rw [show range.last + 1 - range.first = range.last - range.first + 1 from Nat.succ_sub hle]
    at hspans
  have hslice : range.last + 2 - range.first = range.last - range.first + 1 + 1 := by omega
  have hwithin : range.first + (range.last - range.first + 1) ≤ f.lines.count := by omega
  refine ⟨hfirst, hlast, hle, ?_, ?_, hspans, ?_, hholdsStart, hholdsStop⟩
  · rw [LineTable.length_offsets]
    exact Nat.succ_le_succ hlt
  · rw [hslice, LineTable.offsetPairs_offsets hwithin, List.map_map, hspans]
    rfl
  · rw [hspans, List.length_map, List.length_range']

/-- The line of a position is told by the terminators before it, if the position lies within the
span of the file. The lines that a span touches are told by its two ends. -/
theorem line_queries_exact {files : List SourceFile}
    (hf : (Registry.ofFiles files).file? id = some f) :
    (∀ p n line, (f.lineAt? p).map (fun i => (i, f.lineSpan i)) = some (n, line) ↔
      f.span.Covers p ∧ n = terminatorCount f.chars p.offset ∧ line = f.lineSpan n) ∧
    (∀ p, f.span.Covers p → f.Holds (terminatorCount f.chars p.offset) p) ∧
    (∀ s, (f.linesOf? s).isSome = true ↔ f.span.Covers s.start ∧ f.span.Covers s.stop) ∧
    ∀ s range, s.Ordered → f.linesOf? s = some range → f.Touched s range := by
  have hid := Registry.numbered_ofFiles files id f hf
  refine ⟨?_, fun p => holds_of_covers hid, fun s => linesOf?_isSome_iff hid,
    fun s range => touched_of_linesOf? hid⟩
  intro p n line
  by_cases hcovers : f.span.Covers p
  · rw [lineAt?_of_covers hid hcovers]
    constructor
    · rintro ⟨⟩
      exact ⟨hcovers, rfl, rfl⟩
    · rintro ⟨_, rfl, rfl⟩
      rfl
  · rw [lineAt?_of_not_covers hid hcovers]
    exact iff_of_false nofun fun h => hcovers h.1

/-- A position between the two characters of a terminator, and the end of the file, where the last
line starts and holds nothing. -/
theorem line_queries_exact_mixed :
    let f : SourceFile := ⟨"mixed", ['\ufeff', 'a', '\r', '\n'], some ⟨0⟩⟩
    (Registry.ofFiles [f]).file? ⟨0⟩ = some f ∧ f.lineAt? (.inFile ⟨0⟩ 3) = some 0 ∧
      f.Holds 1 (.inFile ⟨0⟩ 4) ∧ (Span.within ⟨0⟩ 3 4).Ordered ∧
      f.Touched (.within ⟨0⟩ 3 4) ⟨0, 1, [.within ⟨0⟩ 1 4, .within ⟨0⟩ 4 4]⟩ := by
  intro f
  have hfile : (Registry.ofFiles [f]).file? ⟨0⟩ = some f := rfl
  have hordered : (Span.within ⟨0⟩ 3 4).Ordered := Nat.le_succ 3
  obtain ⟨_, hholds, _, htouched⟩ := line_queries_exact hfile
  exact ⟨hfile, by decide, hholds (.inFile ⟨0⟩ 4) (.within (by decide) (by decide)), hordered,
    htouched _ _ hordered (by decide)⟩

end

end SourceFile

end Frontend
