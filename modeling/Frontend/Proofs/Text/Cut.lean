/- Where a text is cut: at the first place where the mark stands. -/
import Frontend.Text.Cut
import Mathlib.Data.List.Infix

namespace Frontend.Text

variable {mark text before after : List Char}

theorem after?_eq_some_iff : after? mark text = some after ↔ text = mark ++ after := by
  unfold after?
  constructor
  · intro h
    split at h
    · rename_i hstarts
      cases h
      exact (List.prefix_append_drop (List.isPrefixOf_iff_prefix.mp hstarts))
    · cases h
  · rintro rfl
    rw [if_pos (List.isPrefixOf_iff_prefix.mpr (List.prefix_append _ _)), List.drop_left]

theorem after?_eq_none_iff : after? mark text = none ↔ ¬ mark <+: text := by
  simp [after?, ← List.isPrefixOf_iff_prefix]

theorem cut?_cons_of_starts {c : Char} {cs : List Char} (h : mark <+: c :: cs) :
    cut? mark (c :: cs) = some ([], (c :: cs).drop mark.length) := by
  rw [cut?, if_pos (List.isPrefixOf_iff_prefix.mpr h)]

theorem cut?_cons_of_not_starts {c : Char} {cs : List Char} (h : ¬ mark <+: c :: cs) :
    cut? mark (c :: cs) = (cut? mark cs).map fun (before, after) => (c :: before, after) := by
  rw [cut?, if_neg (mt List.isPrefixOf_iff_prefix.mp h)]

theorem cut?_isSome_iff : (cut? mark text).isSome = true ↔ mark <:+: text := by
  induction text with
  | nil => simp [cut?, apply_ite Option.isSome]
  | cons c cs ih =>
      rw [List.infix_cons_iff]
      by_cases h : mark <+: c :: cs
      · simp [cut?_cons_of_starts h, h]
      · rw [cut?_cons_of_not_starts h, Option.isSome_map, ih]
        exact ⟨.inr, fun hmark => hmark.resolve_left h⟩

theorem occursIn_iff : occursIn mark text = true ↔ mark <:+: text := cut?_isSome_iff

theorem cut?_eq_none_iff : cut? mark text = none ↔ ¬ mark <:+: text := by
  rw [← cut?_isSome_iff, Bool.not_eq_true, Option.isSome_eq_false_iff, Option.isNone_iff_eq_none]

theorem before_starts_of_cut? (h : cut? mark text = some (before, after)) : before <+: text :=
  ⟨mark ++ after, by rw [← List.append_assoc, append_of_cut? h]⟩

theorem after_ends_of_cut? (h : cut? mark text = some (before, after)) : after <:+ text :=
  ⟨before ++ mark, append_of_cut? h⟩

/-- A text is cut at its start or after it. -/
theorem cut?_cons_cases {c : Char} {cs : List Char}
    (h : cut? mark (c :: cs) = some (before, after)) :
    (mark <+: c :: cs ∧ before = [] ∧ after = (c :: cs).drop mark.length) ∨
      (¬ mark <+: c :: cs ∧ ∃ before', before = c :: before' ∧
        cut? mark cs = some (before', after)) := by
  by_cases hstarts : mark <+: c :: cs
  · rw [cut?_cons_of_starts hstarts] at h
    cases h
    exact .inl ⟨hstarts, rfl, rfl⟩
  · rw [cut?_cons_of_not_starts hstarts] at h
    obtain ⟨⟨before', after'⟩, hcut, hpair⟩ := Option.map_eq_some_iff.mp h
    cases hpair
    exact .inr ⟨hstarts, before', rfl, hcut⟩

/-- The text before a cut and all but the last character of the mark do not hold the mark: it
stands nowhere earlier. -/
theorem not_infix_dropLast_of_cut? (hmark : mark ≠ []) (h : cut? mark text = some (before, after)) :
    ¬ mark <:+: before ++ mark.dropLast := by
  induction text generalizing before with
  | nil =>
      rw [cut?, if_neg (by simpa using hmark)] at h
      cases h
  | cons c cs ih =>
      rcases cut?_cons_cases h with ⟨_, rfl, _⟩ | ⟨hstarts, before, rfl, hcut⟩
      · intro hstands
        have hlength := hstands.length_le
        have hpos := List.length_pos_iff.mpr hmark
        rw [List.nil_append, List.length_dropLast] at hlength
        omega
      · have htext : c :: before ++ mark.dropLast <+: c :: cs := by
          rw [← append_of_cut? h, List.append_assoc]
          exact (List.prefix_append_right_inj _).mpr
            ((List.dropLast_prefix mark).trans (List.prefix_append _ _))
        rw [List.cons_append] at htext ⊢
        rw [List.infix_cons_iff]
        rintro (hstart | hlater)
        · exact hstarts (hstart.trans htext)
        · exact ih hcut hlater

/-- The mark does not stand in the text before it. -/
theorem not_infix_of_cut? (hmark : mark ≠ []) (h : cut? mark text = some (before, after)) :
    ¬ mark <:+: before :=
  fun hstands => not_infix_dropLast_of_cut? hmark h (hstands.trans (List.prefix_append _ _).isInfix)

/-- A text is cut at the mark that no other one starts before. -/
theorem cut?_eq_some_iff (hmark : mark ≠ []) : cut? mark text = some (before, after) ↔
    text = before ++ mark ++ after ∧ ¬ mark <:+: before ++ mark.dropLast := by
  constructor
  · intro h
    exact ⟨(append_of_cut? h).symm, not_infix_dropLast_of_cut? hmark h⟩
  · rintro ⟨rfl, hfirst⟩
    induction before with
    | nil =>
        obtain ⟨c, cs, rfl⟩ := List.exists_cons_of_ne_nil hmark
        have hstarts : c :: cs <+: c :: (cs ++ after) := List.prefix_append (c :: cs) after
        rw [List.nil_append, List.cons_append, cut?_cons_of_starts hstarts, ← List.cons_append,
          List.drop_left]
    | cons c before ih =>
        rw [List.cons_append, List.infix_cons_iff, not_or] at hfirst
        -- a mark that starts here would end before the last character of the other one
        have hstarts : ¬ mark <+: c :: (before ++ mark ++ after) := by
          intro hstart
          refine hfirst.1 (List.prefix_of_prefix_length_le hstart ?_ ?_)
          · rw [List.append_assoc]
            exact (List.prefix_append_right_inj (c :: before)).mpr
              ((List.dropLast_prefix mark).trans (List.prefix_append _ _))
          · simp only [List.length_cons, List.length_append, List.length_dropLast]
            omega
        rw [List.cons_append, List.cons_append, cut?_cons_of_not_starts hstarts, ih hfirst.2]
        rfl

/-- What comes after a text does not change where it is cut. -/
theorem cut?_append (h : cut? mark text = some (before, after)) (rest : List Char) :
    cut? mark (text ++ rest) = some (before, after ++ rest) := by
  induction text generalizing before with
  | nil =>
      rw [cut?] at h
      split at h
      · rename_i hmark
        cases h
        rw [List.isEmpty_iff] at hmark
        subst hmark
        cases rest with
        | nil => rfl
        | cons c cs => exact cut?_cons_of_starts List.nil_prefix
      · cases h
  | cons c cs ih =>
      rcases cut?_cons_cases h with ⟨hstarts, rfl, rfl⟩ | ⟨hstarts, before, rfl, hcut⟩
      · have hrest : mark <+: c :: (cs ++ rest) := hstarts.trans (List.prefix_append _ rest)
        rw [List.cons_append, cut?_cons_of_starts hrest, ← List.cons_append,
          List.drop_append_of_le_length hstarts.length_le]
      · -- the mark stands in `cs`, so it is too short to start in `c :: cs` and end after it
        have hlength : mark.length ≤ (c :: cs).length := by
          have hmark := cut?_isSome_iff.mp (Option.isSome_of_eq_some hcut)
          exact Nat.le_succ_of_le hmark.length_le
        have hrest : ¬ mark <+: c :: (cs ++ rest) := by
          intro hmark
          exact hstarts (List.prefix_of_prefix_length_le hmark (List.prefix_append _ rest) hlength)
        rw [List.cons_append, cut?_cons_of_not_starts hrest, ih hcut]
        rfl

end Frontend.Text
