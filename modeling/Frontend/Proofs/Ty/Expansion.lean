/- What a type becomes when the variables in it are expanded. -/
import Frontend.Proofs.Ty.Dependency

namespace Frontend.Ty

open Substitution

section
variable {m : Substitution} {active trail : List String} {t s u p : Ty} {x y : String}

theorem equiv_var_iff : u.equiv (var x) = true ↔ u = var x := by
  cases u <;> simp [equiv]

theorem expansion_of_fixes (h : m.Fixes x) : expansion m active x = .unbound := by
  unfold expansion
  split
  · rfl
  · rename_i u hu
    rcases h with hnone | hself
    · cases hnone.symm.trans hu
    · obtain rfl := Option.some.inj (hu.symm.trans hself)
      rw [if_pos (equiv_self _)]

theorem expansion_of_mem (hu : m.Replaces x u) (hmem : x ∈ active) :
    expansion m active x = .cyclic := by
  unfold expansion
  split
  · rename_i hnone
    cases hnone.symm.trans hu.1
  · rename_i v hv
    obtain rfl := Option.some.inj (hu.1.symm.trans hv)
    rw [if_neg (mt equiv_var_iff.mp hu.2)]
    split
    · rfl
    · rename_i hidle
      simp [hmem] at hidle

theorem expansion_of_idle (hu : m.Replaces x u) (hidle : x ∉ active) :
    ∃ h h', expansion m active x = .replaced u h h' := by
  unfold expansion
  split
  · rename_i hnone
    cases hnone.symm.trans hu.1
  · rename_i v hv
    obtain rfl := Option.some.inj (hu.1.symm.trans hv)
    rw [if_neg (mt equiv_var_iff.mp hu.2)]
    split
    · rename_i hmem
      simp [hidle] at hmem
    · exact ⟨hu.1, by simpa using hidle, rfl⟩

theorem expand_var_of_stays (h : Stays m active x) : (var x).expand m active = var x := by
  rw [expand]
  rcases fixes_or_replaces m x with hfixes | ⟨u, hu⟩
  · rw [expansion_of_fixes hfixes]
  · rcases h with hfixes | hmem
    · exact absurd hu hfixes.not_replaces
    · rw [expansion_of_mem hu hmem]

theorem expand_var_of_idle (hu : m.Replaces x u) (hidle : x ∉ active) :
    (var x).expand m active = u.expand m (x :: active) := by
  obtain ⟨_, _, h⟩ := expansion_of_idle hu hidle
  rw [expand, h]

theorem cyclesMet_var_of_fixes (h : m.Fixes x) : (var x).cyclesMet m active = [] := by
  rw [cyclesMet, expansion_of_fixes h]

theorem cyclesMet_var_of_mem (hu : m.Replaces x u) (hmem : x ∈ active) :
    (var x).cyclesMet m active = [x] := by
  rw [cyclesMet, expansion_of_mem hu hmem]

theorem cyclesMet_var_of_idle (hu : m.Replaces x u) (hidle : x ∉ active) :
    (var x).cyclesMet m active = u.cyclesMet m (x :: active) := by
  obtain ⟨_, _, h⟩ := expansion_of_idle hu hidle
  rw [cyclesMet, h]

theorem cyclesMet_eq_flatMap (ht : t.var? = none) (m : Substitution) (active : List String) :
    t.cyclesMet m active = t.children.flatMap (·.cyclesMet m active) := by
  cases t with
  | var other => cases ht
  | _ => rw [cyclesMet]; simp [List.flatMap_subtype]; simp

/-- The recursion of an expansion: into what replaces a variable, and into the types right below. -/
theorem expand_induction (m : Substitution) {motive : List String → Ty → Prop}
    (stays : ∀ active x, Stays m active x → motive active (var x))
    (replaced : ∀ active x u, m.Replaces x u → x ∉ active → motive (x :: active) u →
      motive active (var x))
    (node : ∀ active t, t.var? = none → (∀ c ∈ t.children, motive active c) → motive active t)
    (active : List String) (t : Ty) : motive active t := by
  cases ht : t.var? with
  | none =>
      refine node active t ht ?_
      intro c _h
      exact expand_induction m stays replaced node active c
  | some x =>
      obtain rfl := var?_eq_some_iff.mp ht
      by_cases hmem : x ∈ active
      · exact stays active x (.inr hmem)
      · rcases fixes_or_replaces m x with hfixes | ⟨u, hu⟩
        · exact stays active x (.inl hfixes)
        · exact replaced active x u hu hmem (expand_induction m stays replaced node _ u)
termination_by ((m.idle active).length, sizeOf t)
decreasing_by
  · exact Prod.Lex.right _ (sizeOf_lt_of_mem_children _h)
  · exact Prod.Lex.left _ _ (idle_length_lt hu.1 (by simpa using hmem))

/-- Every part of a type is expanded to a part of the result. -/
theorem expand_mem_parts (h : s ∈ t.parts) : s.expand m active ∈ (t.expand m active).parts := by
  induction t using inductionOnChildren with
  | step t ih =>
      rcases mem_parts_iff.mp h with rfl | ⟨c, hc, hs⟩
      · exact self_mem_parts _
      · have ht : t.var? = none := by
          cases t with
          | var => cases hc
          | _ => rfl
        rw [expand_eq_mapChildren ht]
        refine mem_parts_of_mem_children ?_ (ih c hc hs)
        rw [children_mapChildren]
        exact List.mem_map_of_mem hc

theorem Expands.mem_parts (h : Expands m active t trail s) :
    s.expand m trail ∈ (t.expand m active).parts := by
  induction h with
  | start => exact self_mem_parts _
  | next h hx hidle hu ih =>
      rw [← expand_var_of_idle hu hidle]
      exact mem_parts_trans ih (expand_mem_parts (mem_freeVariables_iff.mp hx))

/-- A part without types in it, below these names, that is not a variable to be replaced. -/
def Remains (m : Substitution) (trail : List String) (p : Ty) : Prop :=
  p.children = [] ∧ ∀ x, p = var x → Stays m trail x

theorem Remains.expand_eq (h : Remains m trail p) : p.expand m trail = p := by
  cases hp : p.var? with
  | none =>
      rw [expand_eq_mapChildren hp]
      exact mapChildren_eq_self (by simp [h.1])
  | some x =>
      obtain rfl := var?_eq_some_iff.mp hp
      exact expand_var_of_stays (h.2 x rfl)

/-- The parts of the result without types in them are those met on the way that remain. -/
theorem mem_parts_expand_iff (hp : p.children = []) :
    p ∈ (t.expand m active).parts ↔
      ∃ trail s, Expands m active t trail s ∧ p ∈ s.parts ∧ Remains m trail p := by
  constructor
  · intro h
    induction active, t using expand_induction m with
    | stays active x hstays =>
        rw [expand_var_of_stays hstays] at h
        refine ⟨active, var x, .start, h, hp, ?_⟩
        rintro y rfl
        obtain rfl := mem_freeVariables_var.mp (mem_freeVariables_iff.mpr h)
        exact hstays
    | replaced active x u hu hidle ih =>
        rw [expand_var_of_idle hu hidle] at h
        obtain ⟨trail, s, hs, hrest⟩ := ih h
        exact ⟨trail, s, hs.head (mem_freeVariables_var.mpr rfl) hidle hu, hrest⟩
    | node active t ht ih =>
        rw [expand_eq_mapChildren ht, mem_parts_mapChildren_iff hp] at h
        rcases h with ⟨_, rfl⟩ | ⟨c, hc, hexpanded⟩
        · refine ⟨active, p, .start, self_mem_parts p, hp, ?_⟩
          rintro x rfl
          cases ht
        · obtain ⟨trail, s, hs, hpart, hremains⟩ := ih c hc hexpanded
          rcases hs.of_child hc with ⟨rfl, rfl⟩ | hs
          · exact ⟨trail, t, .start, mem_parts_of_mem_children hc hpart, hremains⟩
          · exact ⟨trail, s, hs, hpart, hremains⟩
  · rintro ⟨trail, s, hs, hpart, hremains⟩
    have hmem : p.expand m trail ∈ (s.expand m trail).parts := expand_mem_parts hpart
    rw [hremains.expand_eq] at hmem
    exact mem_parts_trans hs.mem_parts hmem

theorem mem_freeVariables_expand_iff :
    x ∈ (t.expand m active).freeVariables ↔
      ∃ trail s, Expands m active t trail s ∧ x ∈ s.freeVariables ∧ Stays m trail x := by
  rw [mem_freeVariables_iff, mem_parts_expand_iff rfl]
  constructor
  · rintro ⟨trail, s, hs, hx, _, hstays⟩
    exact ⟨trail, s, hs, mem_freeVariables_iff.mpr hx, hstays x rfl⟩
  · rintro ⟨trail, s, hs, hx, hstays⟩
    refine ⟨trail, s, hs, mem_freeVariables_iff.mp hx, rfl, ?_⟩
    intro y hy
    cases hy
    exact hstays

theorem mem_parts_expand_of_isTransient (hp : p.isTransient = true) :
    p ∈ (t.expand m active).parts ↔ ∃ trail s, Expands m active t trail s ∧ p ∈ s.parts := by
  rw [mem_parts_expand_iff (children_eq_nil_of_isTransient hp)]
  constructor
  · rintro ⟨trail, s, hs, hpart, _⟩
    exact ⟨trail, s, hs, hpart⟩
  · rintro ⟨trail, s, hs, hpart⟩
    refine ⟨trail, s, hs, hpart, children_eq_nil_of_isTransient hp, ?_⟩
    rintro x rfl
    cases hp

/-- The cycles that are met are the variables left in the result though they are bound. -/
theorem mem_cyclesMet_iff :
    x ∈ t.cyclesMet m active ↔ x ∈ (t.expand m active).freeVariables ∧ ∃ u, m.Replaces x u := by
  induction active, t using expand_induction m with
  | stays active y hstays =>
      rw [expand_var_of_stays hstays, mem_freeVariables_var]
      rcases fixes_or_replaces m y with hfixes | ⟨u, hu⟩
      · rw [cyclesMet_var_of_fixes hfixes]
        constructor
        · intro hx
          cases hx
        · rintro ⟨rfl, u, hu⟩
          exact absurd hu hfixes.not_replaces
      · rcases hstays with hfixes | hmem
        · exact absurd hu hfixes.not_replaces
        · rw [cyclesMet_var_of_mem hu hmem, List.mem_singleton]
          constructor
          · rintro rfl
            exact ⟨rfl, u, hu⟩
          · exact And.left
  | replaced active y u hu hidle ih =>
      rw [cyclesMet_var_of_idle hu hidle, expand_var_of_idle hu hidle]
      exact ih
  | node active t ht ih =>
      rw [cyclesMet_eq_flatMap ht, expand_eq_mapChildren ht, mem_freeVariables_iff,
        mem_parts_mapChildren_iff rfl, List.mem_flatMap]
      constructor
      · rintro ⟨c, hc, hx⟩
        obtain ⟨hfree, hu⟩ := (ih c hc).mp hx
        exact ⟨.inr ⟨c, hc, mem_freeVariables_iff.mp hfree⟩, hu⟩
      · rintro ⟨⟨_, rfl⟩ | ⟨c, hc, hfree⟩, hu⟩
        · cases ht
        · exact ⟨c, hc, (ih c hc).mpr ⟨mem_freeVariables_iff.mpr hfree, hu⟩⟩

/-- What is expanded is the variables of a type, and each of them by itself. -/
theorem expand_eq_substituteAll (t : Ty) (m : Substitution) (active : List String) :
    t.expand m active = t.substituteAll fun x => (var x).expand m active := by
  induction t using inductionOnVariables with
  | atVar x => rw [substituteAll_var]
  | node t ht ih =>
      rw [expand_eq_mapChildren ht, substituteAll_eq_mapChildren ht]
      exact mapChildren_congr_left ih

/-- Nothing changes in a type all of whose variables are left in place. -/
theorem expand_eq_self (h : ∀ x ∈ t.freeVariables, Stays m active x) : t.expand m active = t := by
  rw [expand_eq_substituteAll, substituteAll_eq_self_iff]
  intro x hx
  exact expand_var_of_stays (h x hx)

end

end Frontend.Ty
