/- The marker of an excerpt stands right below what it marks: tabs are expanded to the same stops in
the whole line and in its three parts, and the marker counts the columns that those take. -/
import Frontend.Proofs.Diagnostic.Excerpt
import Frontend.Proofs.Text.Cut

namespace Frontend

/-- The columns that the characters of a text take. -/
def displayWidth (text : List Char) : Nat := (text.map Text.columnWidth).sum

theorem displayWidth_append (text more : List Char) :
    displayWidth (text ++ more) = displayWidth text + displayWidth more := by
  rw [displayWidth, List.map_append, List.sum_append]
  rfl

theorem displayWidth_blanks (n : Nat) : displayWidth (List.replicate n ' ') = n := by
  have hblank : Text.columnWidth ' ' = 1 := by decide
  rw [displayWidth, List.map_replicate, hblank, List.sum_replicate_nat, Nat.mul_one]

/-- A text that starts at a column is shown with blanks in place of each tab, up to the next column
that is a multiple of eight; any other character is shown as it is. -/
inductive TabsExpanded : Nat → List Char → List Char → Prop
  | nil {column} : TabsExpanded column [] []
  | tab {column stop text shown} : 8 ∣ stop → column < stop → stop ≤ column + 8 →
      TabsExpanded stop text shown →
      TabsExpanded column ('\t' :: text) (List.replicate (stop - column) ' ' ++ shown)
  | char {column c text shown} : c ≠ '\t' →
      TabsExpanded (column + Text.columnWidth c) text shown →
      TabsExpanded column (c :: text) (c :: shown)

namespace TabsExpanded

variable {column : Nat} {text more shown shownMore : List Char}

theorem eq_nextTabStop {stop : Nat} (hstop : 8 ∣ stop) (hlt : column < stop)
    (hle : stop ≤ column + 8) : stop = nextTabStop column := by
  rw [nextTabStop]
  omega

theorem width (h : TabsExpanded column text shown) :
    column + displayWidth shown = columnAfter column text := by
  induction h with
  | nil => rfl
  | @tab column stop text shown hstop hlt hle _ ih =>
      rw [displayWidth_append, displayWidth_blanks, ← Nat.add_assoc,
        Nat.add_sub_cancel' (Nat.le_of_lt hlt), ih, eq_nextTabStop hstop hlt hle]
      rfl
  | @char column c text shown hc _ ih =>
      rw [columnAfter, List.foldl_cons, advanceColumn, if_neg hc, ← columnAfter, ← ih, displayWidth,
        List.map_cons, List.sum_cons, Nat.add_assoc]
      rfl

/-- A text is expanded part by part, each part from the column after the one before it. -/
theorem append (h : TabsExpanded column text shown)
    (hmore : TabsExpanded (column + displayWidth shown) more shownMore) :
    TabsExpanded column (text ++ more) (shown ++ shownMore) := by
  rw [h.width] at hmore
  induction h with
  | nil => exact hmore
  | @tab column stop text shown hstop hlt hle _ ih =>
      rw [List.append_assoc]
      refine .tab hstop hlt hle (ih ?_)
      rw [eq_nextTabStop hstop hlt hle]
      exact hmore
  | @char column c text shown hc _ ih =>
      refine .char hc (ih ?_)
      rw [columnAfter, List.foldl_cons, advanceColumn, if_neg hc] at hmore
      exact hmore

theorem tab_not_mem (h : TabsExpanded column text shown) : '\t' ∉ shown := by
  induction h with
  | nil => exact List.not_mem_nil
  | tab _ _ _ _ ih =>
      refine fun hmem => (List.mem_append.mp hmem).elim (fun htab => ?_) ih
      cases List.eq_of_mem_replicate htab
  | char hc _ ih => exact fun hmem => (List.mem_cons.mp hmem).elim (fun htab => hc htab.symm) ih

end TabsExpanded

/-- There is one way to expand the tabs of a text, and this is how it is done. -/
theorem tabsExpanded_iff {column : Nat} {text shown : List Char} :
    TabsExpanded column text shown ↔ shown = (expandTabs column text).1 := by
  constructor
  · intro h
    induction h with
    | nil => rfl
    | @tab column stop text shown hstop hlt hle _ ih =>
        obtain rfl := TabsExpanded.eq_nextTabStop hstop hlt hle
        rw [expandTabs, if_pos rfl, ih]
    | char hc _ ih => rw [expandTabs, if_neg hc, ih]
  · rintro rfl
    induction text generalizing column with
    | nil => exact .nil
    | cons c text ih =>
        rw [expandTabs]
        split
        · rename_i htab
          subst htab
          have hstop : 8 ∣ nextTabStop column := Nat.dvd_mul_left 8 _
          refine .tab hstop ?_ ?_ ih <;> rw [nextTabStop] <;> omega
        · rename_i hc
          exact .char hc ih

namespace Excerpt

/-- An excerpt frames the characters of a text from `first` to `last`, as far as the text has them:
it shows the text in three parts, with a marker below the second one. -/
structure Frames (e : Excerpt) (text : List Char) (first last : Nat) : Prop where
  whole : TabsExpanded 0 text (e.before.toList ++ e.marked.toList ++ e.after.toList)
  before : TabsExpanded 0 (text.take (min first last)) e.before.toList
  marked : TabsExpanded e.column ((text.take last).drop first) e.marked.toList
  tab_not_mem : '\t' ∉ e.before.toList ++ e.marked.toList ++ e.after.toList
  column : e.column = displayWidth e.before.toList
  marker : e.marker.toList = List.replicate e.column ' ' ++
    if displayWidth e.marked.toList = 0 then ['*']
    else List.replicate (displayWidth e.marked.toList) '^'

variable {e : Excerpt} {text : List Char} {first last : Nat}

theorem Marks.frames (h : e.Marks text first last) (hle : first ≤ last) :
    e.Frames text first last := by
  have hbefore : TabsExpanded 0 (text.take first) e.before.toList :=
    tabsExpanded_iff.mpr (by rw [h.before, String.toList_ofList])
  have hmarked : TabsExpanded e.column ((text.take last).drop first) e.marked.toList :=
    tabsExpanded_iff.mpr (by rw [h.marked, String.toList_ofList])
  have hafter : TabsExpanded (columnAfter 0 (text.take last)) (text.drop last) e.after.toList :=
    tabsExpanded_iff.mpr (by rw [h.after, String.toList_ofList])
  have hcolumn : e.column = displayWidth e.before.toList := by
    rw [h.column, ← hbefore.width, Nat.zero_add]
  have hsplit : text.take first ++ (text.take last).drop first = text.take last := by
    have htake := List.take_append_drop first (text.take last)
    rwa [List.take_take, Nat.min_eq_left hle] at htake
  have hshown : TabsExpanded 0 (text.take last) (e.before.toList ++ e.marked.toList) := by
    rw [← hsplit]
    refine hbefore.append ?_
    rwa [Nat.zero_add, ← hcolumn]
  have hstop : e.column + displayWidth e.marked.toList = columnAfter 0 (text.take last) := by
    rw [hcolumn, ← displayWidth_append, ← hshown.width, Nat.zero_add]
  have hwhole : TabsExpanded 0 text (e.before.toList ++ e.marked.toList ++ e.after.toList) := by
    have happend := hshown.append (hshown.width ▸ hafter)
    rwa [List.take_append_drop] at happend
  exact {
    whole := hwhole
    before := by rwa [Nat.min_eq_left hle]
    marked := hmarked
    tab_not_mem := hwhole.tab_not_mem
    column := hcolumn
    marker := by
      rw [h.marker, markerLine, String.toList_ofList, ← hstop, Nat.add_sub_cancel_left] }

theorem ofLine_min (line : List Char) (first last : Nat) :
    ofLine line (min first last) last = ofLine line first last := by
  have hfirst : min (min first last) (min last (Text.trimEnd isLineEnd line).length) =
      min first (min last (Text.trimEnd isLineEnd line).length) := by
    omega
  simp only [ofLine, hfirst]

theorem frames_ofLine (line : List Char) (first last : Nat) :
    (ofLine line first last).Frames (Text.trimEnd isLineEnd line) first last := by
  have h := (marks_trimEnd line (Nat.min_le_right first last)).frames (Nat.min_le_right first last)
  rw [ofLine_min] at h
  refine { h with before := ?_, marked := ?_ }
  · have hbefore := h.before
    rwa [Nat.min_eq_left (Nat.min_le_right first last)] at hbefore
  · have hdrop : ((Text.trimEnd isLineEnd line).take last).drop (min first last) =
        ((Text.trimEnd isLineEnd line).take last).drop first := by
      rw [List.drop_eq_drop_iff, List.length_take]
      omega
    rw [← hdrop]
    exact h.marked

/-- There is one excerpt that frames a part of a text. -/
theorem Frames.unique {e' : Excerpt} (h : e.Frames text first last)
    (h' : e'.Frames text first last) : e = e' := by
  have hbefore : e.before = e'.before :=
    String.toList_inj.mp ((tabsExpanded_iff.mp h.before).trans (tabsExpanded_iff.mp h'.before).symm)
  have hcolumn : e.column = e'.column := by rw [h.column, h'.column, hbefore]
  have hmarked : e.marked = e'.marked := by
    have hshown := tabsExpanded_iff.mp h.marked
    rw [hcolumn] at hshown
    exact String.toList_inj.mp (hshown.trans (tabsExpanded_iff.mp h'.marked).symm)
  have hafter : e.after = e'.after := by
    have hwhole := (tabsExpanded_iff.mp h.whole).trans (tabsExpanded_iff.mp h'.whole).symm
    rw [hbefore, hmarked] at hwhole
    exact String.toList_inj.mp (List.append_cancel_left hwhole)
  have hmarker : e.marker = e'.marker :=
    String.toList_inj.mp (by rw [h.marker, h'.marker, hcolumn, hmarked])
  exact Excerpt.ext hcolumn hbefore hmarked hafter hmarker

theorem Frames.isDrawable_iff (h : e.Frames text first last) : e.isDrawable = true ↔
    displayWidth e.before.toList < 65536 ∧ displayWidth e.marked.toList < 65536 := by
  have hlength : e.marker.length - e.column =
      if displayWidth e.marked.toList = 0 then 1 else displayWidth e.marked.toList := by
    rw [← String.length_toList, h.marker, List.length_append, List.length_replicate,
      Nat.add_sub_cancel_left]
    split
    · rfl
    · exact List.length_replicate
  have hlimit : countLimit = 65536 := rfl
  rw [isDrawable, hlength, hlimit, ← h.column, Bool.and_eq_true, decide_eq_true_iff,
    decide_eq_true_iff]
  split <;> omega

theorem column_lt_of_isDrawable (h : e.isDrawable = true) : e.column < 65536 := by
  rw [isDrawable, Bool.and_eq_true, decide_eq_true_iff] at h
  exact h.1

theorem columnAfter_tabs (n : Nat) : columnAfter 0 (List.replicate n '\t') = 8 * n := by
  induction n with
  | zero => rfl
  | succ n ih =>
      rw [List.replicate_succ', columnAfter_append, ih, columnAfter, List.foldl_cons,
        List.foldl_nil, advanceColumn, if_pos rfl, nextTabStop]
      omega

theorem column_ofLine_tabs (n : Nat) :
    (ofLine (List.replicate n '\t' ++ ['x', ' ']) n (n + 1)).column = 8 * n := by
  have hline : IsLine (List.replicate n '\t' ++ ['x', ' ']) := by
    constructor <;> simp [List.mem_replicate]
  have hcolumn := (@marks_ofLine _ [] n (n + 1) hline nofun (Nat.le_succ n)).column
  rwa [List.append_nil, List.take_left' List.length_replicate, columnAfter_tabs] at hcolumn

/-- The marker of an excerpt stands right below the marked part of its line, of which the
terminators are not shown. It can be drawn as long as it takes less than 65536 blanks and carets. -/
theorem ofLine_aligned (line : List Char) (first last : Nat) :
    ∃ text ends, line = text ++ ends ∧ (∀ c ∈ ends, c = '\r' ∨ c = '\n') ∧
      (∀ c ∈ text.getLast?, c ≠ '\r' ∧ c ≠ '\n') ∧
      (ofLine line first last).Frames text first last ∧
      ((ofLine line first last).isDrawable = true ↔
        displayWidth (ofLine line first last).before.toList < 65536 ∧
          displayWidth (ofLine line first last).marked.toList < 65536) := by
  obtain ⟨ends, hline, hends, hlast⟩ := Text.exists_trimEnd_append isLineEnd line
  have hframes := frames_ofLine line first last
  refine ⟨_, ends, hline, fun c hc => isLineEnd_eq_true_iff.mp (hends c hc), fun c hc => ?_,
    hframes, hframes.isDrawable_iff⟩
  rw [← not_or, ← isLineEnd_eq_true_iff, Bool.not_eq_true]
  exact hlast c hc

example : ofLine "\tlet 한 = x\r\n".toList 5 6 =
    { column := 12, before := "        let ", marked := "한", after := " = x",
      marker := "            ^^" } := by decide

/-- What stands after 8192 tabs cannot be marked. -/
theorem not_isDrawable_after_tabs :
    ¬ (ofLine (List.replicate 8192 '\t' ++ ['x', ' ']) 8192 8193).isDrawable = true := by
  have hcolumn : (ofLine (List.replicate 8192 '\t' ++ ['x', ' ']) 8192 8193).column = 65536 :=
    column_ofLine_tabs 8192
  exact fun hdrawable => absurd (column_lt_of_isDrawable hdrawable) (hcolumn ▸ Nat.lt_irrefl _)

end Excerpt

end Frontend
