/- The types that a type is made of, and its variables among them. -/
import Frontend.Proofs.Ty.Erasure

namespace Frontend.Ty

theorem mem_parts_iff {t p : Ty} : p ∈ t.parts ↔ p = t ∨ ∃ c ∈ t.children, p ∈ c.parts := by
  rw [parts_eq, List.mem_cons, List.mem_flatMap]

theorem self_mem_parts (t : Ty) : t ∈ t.parts := mem_parts_iff.mpr (.inl rfl)

theorem mem_parts_of_mem_children {t c p : Ty} (hc : c ∈ t.children) (hp : p ∈ c.parts) :
    p ∈ t.parts := mem_parts_iff.mpr (.inr ⟨c, hc, hp⟩)

theorem mem_parts_trans {t q p : Ty} (hq : q ∈ t.parts) (hp : p ∈ q.parts) : p ∈ t.parts := by
  induction t using inductionOnChildren with
  | step t ih =>
      rcases mem_parts_iff.mp hq with rfl | ⟨c, hc, hq⟩
      · exact hp
      · exact mem_parts_of_mem_children hc (ih c hc hq)

theorem var?_eq_some_iff {t : Ty} {x : String} : t.var? = some x ↔ t = var x := by
  cases t <;> simp [var?]

/-- A type is a variable, or what holds of it follows from the types right below. -/
theorem inductionOnVariables {motive : Ty → Prop} (atVar : ∀ x, motive (var x))
    (node : ∀ t : Ty, t.var? = none → (∀ c ∈ t.children, motive c) → motive t) (t : Ty) :
    motive t := by
  induction t using inductionOnChildren with
  | step t ih =>
      cases ht : t.var? with
      | none => exact node t ht ih
      | some x =>
          obtain rfl := var?_eq_some_iff.mp ht
          exact atVar x

theorem mem_freeVariables_iff {t : Ty} {x : String} : x ∈ t.freeVariables ↔ var x ∈ t.parts := by
  simp [freeVariables, var?_eq_some_iff]

theorem mentions_eq_true_iff {t : Ty} {x : String} : t.mentions x = true ↔ x ∈ t.freeVariables := by
  rw [mem_freeVariables_iff, mentions, List.any_eq_true]
  constructor
  · rintro ⟨p, hp, hvar⟩
    obtain rfl := var?_eq_some_iff.mp (of_decide_eq_true hvar)
    exact hp
  · intro hp
    exact ⟨var x, hp, decide_eq_true rfl⟩

theorem mem_freeVariables_of_mem_children {t c : Ty} {x : String} (hc : c ∈ t.children)
    (hx : x ∈ c.freeVariables) : x ∈ t.freeVariables :=
  mem_freeVariables_iff.mpr (mem_parts_of_mem_children hc (mem_freeVariables_iff.mp hx))

theorem freeVariables_var (x : String) : (var x).freeVariables = [x] := by
  rw [freeVariables, parts_eq]
  rfl

theorem freeVariables_eq_flatMap {t : Ty} (ht : t.var? = none) :
    t.freeVariables = t.children.flatMap freeVariables := by
  rw [freeVariables, parts_eq, List.filterMap_cons_none ht, List.filterMap_flatMap]
  rfl

theorem mem_freeVariables_var {x y : String} : x ∈ (var y).freeVariables ↔ x = y := by
  rw [freeVariables_var, List.mem_singleton]

theorem children_eq_nil_of_isTransient {t : Ty} (h : t.isTransient = true) : t.children = [] := by
  cases t with
  | function | pointer | array | tuple | composition => cases h
  | _ => rfl

/-- A type is resolved if it has no variables and nothing in it is transient. -/
theorem isResolved_iff {t : Ty} :
    t.isResolved = true ↔ (∀ x, x ∉ t.freeVariables) ∧ ∀ p ∈ t.parts, p.isTransient = false := by
  rw [isResolved, List.all_eq_true]
  constructor
  · intro h
    refine ⟨?_, ?_⟩
    · intro x hx
      have hvar := h _ (mem_freeVariables_iff.mp hx)
      simp [var?] at hvar
    · intro p hp
      have hpart := h p hp
      simp only [Bool.and_eq_true, Bool.not_eq_true'] at hpart
      exact hpart.1
  · rintro ⟨hfree, htransient⟩ p hp
    cases hvar : p.var? with
    | none => simp [htransient p hp]
    | some x => exact absurd (mem_freeVariables_iff.mpr (var?_eq_some_iff.mp hvar ▸ hp)) (hfree x)

theorem mapChildren_congr_left {f g : Ty → Ty} {t : Ty} (h : ∀ c ∈ t.children, f c = g c) :
    t.mapChildren f = t.mapChildren g := by
  cases t with
  | function args result variadic =>
      have hargs := List.map_congr_left fun c hc => h c (List.mem_append_left _ hc)
      have hresult := h result (List.mem_append_right _ (List.mem_singleton_self result))
      rw [mapChildren, mapChildren, hargs, hresult]
  | pointer pointee => exact congrArg pointer (h pointee (List.mem_singleton_self pointee))
  | array element length =>
      exact congrArg (array · length) (h element (List.mem_singleton_self element))
  | tuple elements => exact congrArg tuple (List.map_congr_left h)
  | composition members => exact congrArg composition (List.map_congr_left h)
  | _ => rfl

theorem mapChildren_eq_self {f : Ty → Ty} {t : Ty} (h : ∀ c ∈ t.children, f c = c) :
    t.mapChildren f = t := by
  have hid : t.mapChildren id = t := by
    cases t <;> simp [mapChildren]
  exact (mapChildren_congr_left h).trans hid

theorem mapChildren_eq_mapChildren_iff {f g : Ty → Ty} {t : Ty} :
    t.mapChildren f = t.mapChildren g ↔ ∀ c ∈ t.children, f c = g c := by
  constructor
  · intro h
    have hchildren := congrArg children h
    rw [children_mapChildren, children_mapChildren] at hchildren
    exact List.map_inj_left.mp hchildren
  · exact mapChildren_congr_left

theorem var?_mapChildren (f : Ty → Ty) (t : Ty) : (t.mapChildren f).var? = t.var? := by
  cases t <;> rfl

theorem mapChildren_mapChildren (f g : Ty → Ty) (t : Ty) :
    (t.mapChildren f).mapChildren g = t.mapChildren fun c => g (f c) := by
  cases t <;> simp [mapChildren]

/-- A type with no types in it is part of a changed type only as part of a changed child. -/
theorem mem_parts_mapChildren_iff {f : Ty → Ty} {t p : Ty} (hp : p.children = []) :
    p ∈ (t.mapChildren f).parts ↔
      (t.children = [] ∧ p = t) ∨ ∃ c ∈ t.children, p ∈ (f c).parts := by
  rw [mem_parts_iff, children_mapChildren]
  constructor
  · rintro (rfl | ⟨c, hc, hpart⟩)
    · rw [children_mapChildren, List.map_eq_nil_iff] at hp
      exact .inl ⟨hp, mapChildren_eq_self (by simp [hp])⟩
    · obtain ⟨d, hd, rfl⟩ := List.mem_map.mp hc
      exact .inr ⟨d, hd, hpart⟩
  · rintro (⟨hnone, rfl⟩ | ⟨c, hc, hpart⟩)
    · exact .inl (mapChildren_eq_self (by simp [hnone])).symm
    · exact .inr ⟨f c, List.mem_map_of_mem hc, hpart⟩

end Frontend.Ty
