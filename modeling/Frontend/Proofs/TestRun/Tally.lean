/- A tally weighs the reports that came against the expected ones, each as often as it occurs. -/
import Frontend.TestRun.Tally
import Mathlib.Data.List.Basic
import Mathlib.Data.Multiset.Count

namespace Frontend.Tally

variable {t : Tally} {keys expected collected : List Expectation} {e : Expectation}
variable {count count' : Expectation → Int}

/-- Counts that stand once for each key. -/
def graph (keys : List Expectation) (count : Expectation → Int) : List (Expectation × Int) :=
  keys.map fun key => (key, count key)

theorem graph_congr (h : ∀ key ∈ keys, count key = count' key) :
    graph keys count = graph keys count' :=
  List.map_congr_left fun key hkey => congrArg (Prod.mk key) (h key hkey)

theorem lookup_graph (keys : List Expectation) (count : Expectation → Int) (e : Expectation) :
    (graph keys count).lookup e = if e ∈ keys then some (count e) else none := by
  by_cases he : e ∈ keys
  · rw [if_pos he]
    exact List.lookup_graph count he
  · rw [if_neg he, List.lookup_eq_none_iff]
    intro entry hentry
    obtain ⟨key, hkey, rfl⟩ := List.mem_map.mp hentry
    have hne : e ≠ key := fun heq => he (heq ▸ hkey)
    exact bne_iff_ne.mpr hne

theorem adjust_graph (hkeys : keys.Nodup) (e : Expectation) (change : Int) :
    adjust e change (graph keys count) =
      graph keys fun key => if key = e then count key + change else count key := by
  induction keys with
  | nil => rfl
  | cons key keys ih =>
      obtain ⟨hkey, hrest⟩ := List.nodup_cons.mp hkeys
      change (if key = e then (key, count key + change) :: graph keys count
        else (key, count key) :: adjust e change (graph keys count)) =
          (key, if key = e then count key + change else count key) :: graph keys _
      split
      · rename_i heq
        refine congrArg _ (graph_congr fun other hother => ?_)
        have hne : other ≠ e := fun h => hkey (heq.trans h.symm ▸ hother)
        rw [if_neg hne]
      · exact congrArg _ (ih hrest)

theorem count_append_singleton (es : List Expectation) (e key : Expectation) :
    ((es ++ [e]).count key : Int) = es.count key + if key = e then 1 else 0 := by
  rw [List.count_append, List.count_singleton]
  by_cases hkey : key = e
  · simp [hkey]
  · simp [hkey, Ne.symm hkey]

/-- A tally after expected and collected reports: it has a count for each report that is expected,
and of the others it knows only whether there are any. -/
structure Weighs (t : Tally) (keys expected collected : List Expectation) : Prop where
  nodup : keys.Nodup
  mem_keys : ∀ e, e ∈ keys ↔ e ∈ expected
  counts : t.counts = graph keys fun e => (expected.count e : Int) - collected.count e
  unforeseen : t.unforeseen = true ↔ ∃ e ∈ collected, e ∉ expected

theorem weighs_nil : Weighs {} [] [] [] :=
  ⟨List.nodup_nil, fun _ => Iff.rfl, rfl, by simp⟩

namespace Weighs

theorem count? (h : t.Weighs keys expected collected) (e : Expectation) :
    t.count? e =
      if e ∈ expected then some ((expected.count e : Int) - collected.count e) else none := by
  rw [Tally.count?, h.counts, lookup_graph]
  simp only [h.mem_keys]

/-- A report that is expected once more has its count raised, and one that is new gets a count. -/
theorem expect (h : t.Weighs keys expected []) (e : Expectation) :
    ∃ keys, (t.expect e).Weighs keys (expected ++ [e]) [] := by
  have hcount := h.count? e
  by_cases he : e ∈ expected
  · -- The report keeps its place among the keys.
    rw [if_pos he] at hcount
    rw [Tally.expect, hcount, Option.isSome_some, if_pos rfl]
    refine ⟨keys, h.nodup, fun other => ?_, ?_, by simpa using h.unforeseen⟩
    · rw [h.mem_keys, List.mem_append, List.mem_singleton]
      exact ⟨.inl, fun hother => hother.elim id fun heq => heq ▸ he⟩
    · simp only [h.counts, adjust_graph h.nodup]
      refine graph_congr fun key _ => ?_
      rw [count_append_singleton]
      split <;> omega
  · rw [if_neg he] at hcount
    rw [Tally.expect, hcount, Option.isSome_none, if_neg Bool.false_ne_true]
    have hnew : e ∉ keys := fun hkey => he ((h.mem_keys e).mp hkey)
    refine ⟨keys ++ [e], ?_, fun other => ?_, ?_, by simpa using h.unforeseen⟩
    · exact List.nodup_append'.mpr ⟨h.nodup, List.nodup_singleton e,
        List.disjoint_singleton.mpr hnew⟩
    · rw [List.mem_append, List.mem_append, h.mem_keys]
    · simp only [h.counts, graph, List.map_append, List.map_cons, List.map_nil]
      refine congrArg₂ (· ++ ·) (graph_congr fun key hkey => ?_) ?_
      · have hne : key ≠ e := fun heq => hnew (heq ▸ hkey)
        rw [count_append_singleton, if_neg hne, Int.add_zero]
      · rw [count_append_singleton, List.count_eq_zero.mpr he, if_pos rfl]
        rfl

/-- A report that came has its count lowered, if it has one. -/
theorem collect (h : t.Weighs keys expected collected) (e : Expectation) :
    (t.collect e).Weighs keys expected (collected ++ [e]) := by
  have hcount := h.count? e
  by_cases he : e ∈ expected
  · rw [if_pos he] at hcount
    rw [Tally.collect, hcount, Option.isSome_some, if_pos rfl]
    refine ⟨h.nodup, h.mem_keys, ?_, ?_⟩
    · simp only [h.counts, adjust_graph h.nodup]
      refine graph_congr fun key _ => ?_
      rw [count_append_singleton]
      split <;> omega
    · rw [h.unforeseen]
      simp [or_and_right, exists_or, he]
  · rw [if_neg he] at hcount
    rw [Tally.collect, hcount, Option.isSome_none, if_neg Bool.false_ne_true]
    refine ⟨h.nodup, h.mem_keys, ?_, ?_⟩
    · refine h.counts.trans (graph_congr fun key hkey => ?_)
      have hne : key ≠ e := fun heq => he ((h.mem_keys e).mp (heq ▸ hkey))
      rw [count_append_singleton, if_neg hne, Int.add_zero]
    · exact iff_of_true rfl ⟨e, List.mem_append_right _ List.mem_cons_self, he⟩

theorem foldl_expect (h : t.Weighs keys expected []) (es : List Expectation) :
    ∃ keys, (es.foldl Tally.expect t).Weighs keys (expected ++ es) [] := by
  induction es generalizing t keys expected with
  | nil => exact ⟨keys, by rwa [List.append_nil]⟩
  | cons e es ih =>
      obtain ⟨keys', hstep⟩ := h.expect e
      rw [List.append_cons]
      exact ih hstep

theorem foldl_collect (h : t.Weighs keys expected collected) (es : List Expectation) :
    (es.foldl Tally.collect t).Weighs keys expected (collected ++ es) := by
  induction es generalizing t collected with
  | nil => rwa [List.append_nil]
  | cons e es ih =>
      rw [List.append_cons]
      exact ih (h.collect e)

end Weighs

theorem exists_weighs_ofReports (expected collected : List Expectation) :
    ∃ keys, (ofReports expected collected).Weighs keys expected collected := by
  obtain ⟨keys, h⟩ := weighs_nil.foldl_expect expected
  exact ⟨keys, h.foldl_collect collected⟩

theorem Weighs.all_counts_iff (h : t.Weighs keys expected collected) (ok : Int → Bool) :
    t.counts.all (fun entry => ok entry.2) = true ↔
      ∀ e ∈ expected, ok ((expected.count e : Int) - collected.count e) = true := by
  rw [h.counts, graph, List.all_map, List.all_eq_true]
  exact forall_congr' fun e => imp_congr_left (h.mem_keys e)

/-- Without exact matching the reports that came have to contain the expected ones. -/
theorem isSatisfied_iff_le (expected collected : List Expectation) :
    (ofReports expected collected).isSatisfied false = true ↔
      (expected : Multiset Expectation) ≤ collected := by
  obtain ⟨keys, h⟩ := exists_weighs_ofReports expected collected
  rw [isSatisfied, if_neg Bool.false_ne_true, h.all_counts_iff (fun n => n ≤ 0),
    Multiset.le_iff_count]
  refine forall_congr' fun e => ?_
  rw [Multiset.coe_count, Multiset.coe_count, decide_eq_true_iff]
  by_cases he : e ∈ expected
  · rw [imp_iff_right he]
    omega
  · rw [List.count_eq_zero.mpr he]
    exact iff_of_true (fun h => absurd h he) (Nat.zero_le _)

/-- With exact matching they have to be the expected ones. -/
theorem isSatisfied_iff_eq (expected collected : List Expectation) :
    (ofReports expected collected).isSatisfied true = true ↔
      (collected : Multiset Expectation) = expected := by
  obtain ⟨keys, h⟩ := exists_weighs_ofReports expected collected
  rw [isSatisfied, if_pos rfl, Bool.and_eq_true, h.all_counts_iff (fun n => n == 0),
    Bool.not_eq_true', Bool.eq_false_iff, Ne, h.unforeseen, Multiset.ext]
  simp only [Multiset.coe_count, beq_iff_eq]
  constructor
  · rintro ⟨hknown, hcounts⟩ e
    by_cases he : e ∈ expected
    · have := hcounts e he
      omega
    · have hout : e ∉ collected := fun hin => hknown ⟨e, hin, he⟩
      rw [List.count_eq_zero.mpr he, List.count_eq_zero.mpr hout]
  · intro hcounts
    refine ⟨?_, fun e _ => by rw [hcounts e, Int.sub_self]⟩
    rintro ⟨e, hin, he⟩
    have hpos := List.count_pos_iff.mpr hin
    rw [hcounts e, List.count_eq_zero.mpr he] at hpos
    exact Nat.lt_irrefl 0 hpos

theorem isExcess_iff (h : e ∈ collected) :
    (ofReports expected collected).isExcess e = true ↔ expected.count e < collected.count e := by
  obtain ⟨keys, hweighs⟩ := exists_weighs_ofReports expected collected
  rw [isExcess, hweighs.count? e]
  by_cases he : e ∈ expected
  · rw [if_pos he]
    simp only [decide_eq_true_iff]
    omega
  · rw [if_neg he, List.count_eq_zero.mpr he]
    exact iff_of_true rfl (List.count_pos_iff.mpr h)

/-- What a tally answers about expected and collected reports. -/
structure Compares (t : Tally) (expected collected : List Expectation) : Prop where
  exact : t.isSatisfied true = true ↔ (collected : Multiset Expectation) = expected
  within : t.isSatisfied false = true ↔ ∀ e, expected.count e ≤ collected.count e
  excess : ∀ e ∈ collected, t.isExcess e = true ↔ expected.count e < collected.count e

theorem compares_ofReports (expected collected : List Expectation) :
    (ofReports expected collected).Compares expected collected := by
  refine ⟨isSatisfied_iff_eq expected collected, ?_, fun e he => isExcess_iff he⟩
  rw [isSatisfied_iff_le, Multiset.le_iff_count]
  simp only [Multiset.coe_count]

/-- Tallies that compare rearranged reports give the same answers. -/
theorem Compares.answers_eq {t' : Tally} {expected' collected' : List Expectation}
    (h : t.Compares expected collected) (h' : t'.Compares expected' collected')
    (hexpected : expected.Perm expected') (hcollected : collected.Perm collected') :
    (∀ exact, t'.isSatisfied exact = t.isSatisfied exact) ∧
      ∀ e ∈ collected, t'.isExcess e = t.isExcess e := by
  refine ⟨?_, ?_⟩
  · rintro (_ | _)
    · rw [Bool.eq_iff_iff, h'.within, h.within]
      simp only [hexpected.count_eq, hcollected.count_eq]
    · rw [Bool.eq_iff_iff, h'.exact, h.exact, Multiset.coe_eq_coe.mpr hexpected,
        Multiset.coe_eq_coe.mpr hcollected]
  · intro e he
    rw [Bool.eq_iff_iff, h'.excess e (hcollected.mem_iff.mp he), h.excess e he,
      hexpected.count_eq, hcollected.count_eq]

/-- A tally compares multisets: its answers depend neither on the order in which reports are
expected nor on the order in which they come. -/
theorem ofReports_unordered {expected expected' collected collected' : List Expectation}
    (hexpected : expected.Perm expected') (hcollected : collected.Perm collected') :
    (ofReports expected collected).Compares expected collected ∧
      (∀ exact, (ofReports expected' collected').isSatisfied exact =
        (ofReports expected collected).isSatisfied exact) ∧
      ∀ e ∈ collected, (ofReports expected' collected').isExcess e =
        (ofReports expected collected).isExcess e := by
  have h := compares_ofReports expected collected
  exact ⟨h, h.answers_eq (compares_ofReports expected' collected') hexpected hcollected⟩

/-- One report came twice and is expected once, and another one is not expected at all. -/
theorem ofReports_unordered_excess :
    let a : Expectation := ⟨some (1, 1), .error, ['a']⟩
    let b : Expectation := ⟨none, .note, ['b']⟩
    let c : Expectation := ⟨some (2, 3), .error, ['a']⟩
    [a, b, b].Perm [b, a, b] ∧ [b, a, c, b, a].Perm [a, a, b, b, c] ∧ a ∈ [b, a, c, b, a] ∧
      (ofReports [a, b, b] [b, a, c, b, a]).Compares [a, b, b] [b, a, c, b, a] ∧
      (ofReports [b, a, b] [a, a, b, b, c]).isSatisfied true = false ∧
      (ofReports [b, a, b] [a, a, b, b, c]).isSatisfied false = true ∧
      (ofReports [b, a, b] [a, a, b, b, c]).isExcess a = true := by
  intro a b c
  have hexpected : [a, b, b].Perm [b, a, b] := by decide
  have hcollected : [b, a, c, b, a].Perm [a, a, b, b, c] := by decide
  have ha : a ∈ [b, a, c, b, a] := by decide
  obtain ⟨hcompares, hsatisfied, hexcess⟩ := ofReports_unordered hexpected hcollected
  refine ⟨hexpected, hcollected, ha, hcompares, ?_, ?_, ?_⟩
  · rw [hsatisfied]
    decide
  · rw [hsatisfied]
    decide
  · rw [hexcess a ha]
    decide

end Frontend.Tally
