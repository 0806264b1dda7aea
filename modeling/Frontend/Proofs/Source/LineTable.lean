/- Which offsets start a line, and which line holds an offset. -/
import Frontend.Source.File
import Mathlib.Data.List.Nodup

namespace Frontend

/-- The character at the offset `k` is the last one of a line terminator. -/
def EndsLine (text : List Char) (k : Nat) : Prop :=
  text[k]? = some '\n' ∨ (text[k]? = some '\r' ∧ text[k + 1]? ≠ some '\n')

instance (text : List Char) (k : Nat) : Decidable (EndsLine text k) :=
  inferInstanceAs (Decidable (_ ∨ _))

theorem endsLine_zero {c : Char} {cs : List Char} :
    EndsLine (c :: cs) 0 ↔ c = '\n' ∨ (c = '\r' ∧ cs.head? ≠ some '\n') := by
  simp [EndsLine, List.head?_eq_getElem?]

theorem endsLine_succ {c : Char} {cs : List Char} {k : Nat} :
    EndsLine (c :: cs) (k + 1) ↔ EndsLine cs k := by
  simp [EndsLine]

theorem endsLine_drop {text : List Char} {n k : Nat} :
    EndsLine (text.drop n) k ↔ EndsLine text (n + k) := by
  simp [EndsLine, Nat.add_assoc]

/-- The number of line terminators that end at or before the offset `p`. -/
def terminatorCount (text : List Char) (p : Nat) : Nat :=
  (List.range p).countP fun k => EndsLine text k

theorem terminatorCount_succ (text : List Char) (p : Nat) :
    terminatorCount text (p + 1) = terminatorCount text p + if EndsLine text p then 1 else 0 := by
  simp [terminatorCount, List.range_succ, List.countP_append, List.countP_singleton]

theorem terminatorCount_mono {text : List Char} {p q : Nat} (h : p ≤ q) :
    terminatorCount text p ≤ terminatorCount text q := by
  induction h with
  | refl => exact Nat.le_refl _
  | step _ ih =>
      rw [Nat.succ_eq_add_one, terminatorCount_succ]
      exact Nat.le_add_right_of_le ih

theorem lineStartsAfter_cons (offset : Nat) (c : Char) (cs : List Char) :
    lineStartsAfter offset (c :: cs) =
      if EndsLine (c :: cs) 0 then (offset + 1) :: lineStartsAfter (offset + 1) cs
      else lineStartsAfter (offset + 1) cs := by
  by_cases hreturn : c = '\r'
  · subst hreturn
    cases cs with
    | nil => rfl
    | cons d ds =>
        by_cases hline : d = '\n'
        · subst hline
          simp [lineStartsAfter, endsLine_zero]
        · simp [lineStartsAfter, endsLine_zero, hline]
  · by_cases hline : c = '\n'
    · subst hline
      simp [lineStartsAfter, endsLine_zero]
    · simp [lineStartsAfter, endsLine_zero, hreturn, hline]

/-- A line starts right after each character that ends one. -/
theorem mem_lineStartsAfter_iff {offset k : Nat} {text : List Char} :
    k ∈ lineStartsAfter offset text ↔ ∃ j, k = offset + j + 1 ∧ EndsLine text j := by
  induction text generalizing offset with
  | nil => simp [lineStartsAfter, EndsLine]
  | cons c cs ih =>
      have hlater : k ∈ lineStartsAfter (offset + 1) cs ↔
          ∃ j, k = offset + (j + 1) + 1 ∧ EndsLine (c :: cs) (j + 1) := by
        rw [ih]
        refine exists_congr fun j => ?_
        rw [endsLine_succ, Nat.add_right_comm offset 1 j, Nat.add_assoc offset j 1]
      rw [lineStartsAfter_cons]
      constructor
      · intro h
        by_cases hfirst : EndsLine (c :: cs) 0
        · rw [if_pos hfirst] at h
          rcases List.mem_cons.mp h with rfl | h
          · exact ⟨0, rfl, hfirst⟩
          · obtain ⟨j, hj⟩ := hlater.mp h
            exact ⟨j + 1, hj⟩
        · rw [if_neg hfirst] at h
          obtain ⟨j, hj⟩ := hlater.mp h
          exact ⟨j + 1, hj⟩
      · rintro ⟨j, rfl, hj⟩
        cases j with
        | zero =>
            rw [if_pos hj]
            exact List.mem_cons_self
        | succ j =>
            have h := hlater.mpr ⟨j, rfl, hj⟩
            split
            · exact List.mem_cons_of_mem _ h
            · exact h

theorem pairwise_lineStartsAfter (offset : Nat) (text : List Char) :
    (lineStartsAfter offset text).Pairwise (· < ·) := by
  induction text generalizing offset with
  | nil => exact .nil
  | cons c cs ih =>
      rw [lineStartsAfter_cons]
      split
      · refine .cons ?_ (ih _)
        intro k hk
        obtain ⟨j, rfl, _⟩ := mem_lineStartsAfter_iff.mp hk
        omega
      · exact ih _

section
variable {starts : List Nat}

/-- In a list of line starts in order, the starts up to `p` are those that come first. -/
theorem le_iff_lt_countP (h : starts.Pairwise (· < ·)) {p i x : Nat} (hx : starts[i]? = some x) :
    x ≤ p ↔ i < starts.countP (· ≤ p) := by
  induction starts generalizing i with
  | nil => cases hx
  | cons a starts ih =>
      obtain ⟨hfirst, hlater⟩ := List.pairwise_cons.mp h
      have hnone : ¬ a ≤ p → starts.countP (· ≤ p) = 0 := by
        intro ha
        refine List.countP_eq_zero.mpr ?_
        intro y hy
        have := hfirst y hy
        simp
        omega
      rw [List.countP_cons]
      cases i with
      | zero =>
          cases hx
          by_cases ha : x ≤ p
          · simp [ha]
          · simp [ha, hnone ha]
      | succ i =>
          have hx : starts[i]? = some x := hx
          have hmem := hfirst x (List.mem_of_getElem? hx)
          rw [ih hlater hx]
          by_cases ha : a ≤ p
          · simp [ha]
          · simp [ha, hnone ha]

theorem countP_le_succ (h : starts.Pairwise (· < ·)) (p : Nat) :
    starts.countP (· ≤ p + 1) = starts.countP (· ≤ p) + if p + 1 ∈ starts then 1 else 0 := by
  induction starts with
  | nil => rfl
  | cons a starts ih =>
      obtain ⟨hfirst, hlater⟩ := List.pairwise_cons.mp h
      have hone : p + 1 = a → p + 1 ∉ starts := by
        rintro rfl hmem
        exact Nat.lt_irrefl _ (hfirst _ hmem)
      rw [List.countP_cons, List.countP_cons, ih hlater]
      by_cases ha : p + 1 = a
      · subst ha
        simp [hone rfl]
      · have hsame : decide (a ≤ p + 1) = decide (a ≤ p) := by
          rw [decide_eq_decide]
          omega
        rw [hsame]
        simp only [List.mem_cons, ha, false_or]
        omega

end

namespace LineTable

variable {t : LineTable} {p : Nat}

/-- How many lines start up to an offset. -/
def startCount (t : LineTable) (p : Nat) : Nat := t.starts.countP (· ≤ p)

/-- The start of the last line that starts up to an offset. -/
def lastStart (t : LineTable) (p : Nat) : Nat := t.startOf (t.startCount p - 1)

theorem startOf_eq {i : Nat} (hi : i < t.count) : t.startOf i = t.starts[i] := by
  rw [startOf, List.getD_eq_getElem?_getD, List.getElem?_eq_getElem hi, Option.getD_some]

theorem startOf_count (t : LineTable) : t.startOf t.count = t.stop := by
  rw [startOf, count, List.getD_eq_getElem?_getD, List.getElem?_eq_none (Nat.le_refl _),
    Option.getD_none]

theorem startOf_le_iff (h : t.starts.Pairwise (· < ·)) {i : Nat} (hi : i < t.count) :
    t.startOf i ≤ p ↔ i < t.startCount p := by
  rw [startOf_eq hi]
  exact le_iff_lt_countP h (List.getElem?_eq_getElem hi)

theorem lastStart_le (h : t.starts.Pairwise (· < ·)) (hp : 0 < t.startCount p) :
    t.lastStart p ≤ p := by
  have hlt : t.startCount p - 1 < t.count :=
    Nat.lt_of_lt_of_le (Nat.sub_lt hp Nat.one_pos) List.countP_le_length
  exact (startOf_le_iff h hlt).mpr (Nat.sub_lt hp Nat.one_pos)

theorem lt_startOf_startCount (h : t.starts.Pairwise (· < ·)) (hstop : p ≤ t.stop) :
    p ≤ t.startOf (t.startCount p) := by
  rw [startOf, List.getD_eq_getElem?_getD]
  cases hget : t.starts[t.startCount p]? with
  | none => exact hstop
  | some x =>
      refine Nat.le_of_not_le ?_
      intro hle
      exact Nat.lt_irrefl _ ((le_iff_lt_countP h hget).mp hle)

theorem lineAt?_eq (h : t.starts.Pairwise (· < ·)) (hp : 0 < t.startCount p)
    (hstop : p ≤ t.stop) : t.lineAt? p = some (t.startCount p - 1) := by
  have hnext := lt_startOf_startCount h hstop
  unfold startCount at hp hnext ⊢
  unfold lineAt?
  split
  · rename_i hzero
    omega
  · rename_i i hcount
    rw [hcount] at hnext ⊢
    rw [if_pos hnext]
    rfl

theorem startCount_succ (h : t.starts.Pairwise (· < ·)) (p : Nat) :
    t.startCount (p + 1) = t.startCount p + if p + 1 ∈ t.starts then 1 else 0 :=
  countP_le_succ h p

theorem lastStart_succ_of_mem (h : t.starts.Pairwise (· < ·)) (hp : p + 1 ∈ t.starts) :
    t.lastStart (p + 1) = p + 1 := by
  obtain ⟨j, hj⟩ := List.mem_iff_getElem?.mp hp
  have hcount := startCount_succ h p
  rw [if_pos hp] at hcount
  have hupper := (le_iff_lt_countP h hj).mp (Nat.le_refl _)
  have hlower := (not_congr (le_iff_lt_countP h (p := p) hj)).mp (Nat.not_succ_le_self p)
  have hj' : t.startCount (p + 1) - 1 = j := by
    unfold startCount at hcount ⊢
    omega
  rw [lastStart, hj', startOf, List.getD_eq_getElem?_getD, hj]
  rfl

theorem lastStart_succ_of_not_mem (h : t.starts.Pairwise (· < ·)) (hp : p + 1 ∉ t.starts) :
    t.lastStart (p + 1) = t.lastStart p := by
  rw [lastStart, startCount_succ h, if_neg hp]
  rfl

end LineTable

namespace SourceFile

variable {f : SourceFile} {p : Nat}

theorem pairwise_starts (f : SourceFile) : f.lines.starts.Pairwise (· < ·) := by
  refine .cons ?_ (pairwise_lineStartsAfter _ _)
  intro k hk
  obtain ⟨j, rfl, _⟩ := mem_lineStartsAfter_iff.mp hk
  omega

/-- After the first line, a line starts right after each character that ends one. -/
theorem succ_mem_starts_iff (h : f.bodyStart ≤ p) :
    p + 1 ∈ f.lines.starts ↔ EndsLine f.chars p := by
  have hmem : p + 1 ∈ f.lines.starts ↔ p + 1 ∈ lineStartsAfter f.bodyStart f.body := by
    constructor
    · intro hp
      rcases List.mem_cons.mp hp with hfirst | hp
      · omega
      · exact hp
    · exact List.mem_cons_of_mem _
  rw [hmem, mem_lineStartsAfter_iff]
  constructor
  · rintro ⟨j, hj, hends⟩
    obtain rfl : p = f.bodyStart + j := by omega
    exact endsLine_drop.mp hends
  · intro hends
    obtain ⟨j, rfl⟩ := Nat.exists_eq_add_of_le h
    exact ⟨j, rfl, endsLine_drop.mpr hends⟩

theorem startCount_pos (h : f.bodyStart ≤ p) : 0 < f.lines.startCount p := by
  refine List.countP_pos_iff.mpr ⟨f.bodyStart, List.mem_cons_self, ?_⟩
  exact decide_eq_true h

theorem lineAt?_inFile {id : FileId} (hid : f.id? = some id) (hstart : f.bodyStart ≤ p)
    (hstop : p ≤ f.lines.stop) :
    f.lineAt? (.inFile id p) = some (f.lines.startCount p - 1) := by
  rw [lineAt?, if_pos hid]
  exact LineTable.lineAt?_eq f.pairwise_starts (startCount_pos hstart) hstop

theorem lineEnds?_within {id : FileId} {q : Nat} (hid : f.id? = some id) (hstart : f.bodyStart ≤ p)
    (hle : p ≤ q) (hstop : q ≤ f.lines.stop) : f.lineEnds? (.within id p q) =
      some (f.lines.startCount p - 1, f.lines.startCount q - 1) := by
  have hfirst := lineAt?_inFile hid hstart (Nat.le_trans hle hstop)
  have hlast := lineAt?_inFile hid (Nat.le_trans hstart hle) hstop
  rw [lineEnds?, Span.start, Span.stop, hfirst, hlast]
  rfl

theorem linesOf?_of_lineEnds? {s : Span} {first last : Nat}
    (h : f.lineEnds? s = some (first, last)) : f.linesOf? s =
      some ⟨first, last, (List.range' first (last + 1 - first)).map f.lineSpan⟩ := by
  rw [linesOf?, h]
  rfl

theorem lineSpan_eq {id : FileId} (hid : f.id? = some id) (i : Nat) :
    f.lineSpan i = .within id (f.lines.startOf i) (f.lines.startOf (i + 1)) := by
  rw [lineSpan, spanBetween, hid]
  rfl

end SourceFile

end Frontend
