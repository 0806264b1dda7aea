/- Types put in place of variables: of all variables at once, or of one. -/
import Frontend.Proofs.Ty.Parts
import Frontend.Ty.Substitution
import Mathlib.Data.List.Basic
import Mathlib.Logic.Function.Basic

namespace Frontend.Ty

open Function (update)

/-- Puts in place of every variable what `f` gives for it, and changes nothing in that. -/
def substituteAll (t : Ty) (f : String → Ty) : Ty :=
  match t with
  | var x => f x
  | t => t.mapChildrenMem fun c _h => c.substituteAll f
termination_by sizeOf t
decreasing_by exact sizeOf_lt_of_mem_children _h

section
variable {t u : Ty} {x : String} {f g : String → Ty}

theorem substituteAll_var (x : String) (f : String → Ty) : (var x).substituteAll f = f x := by
  rw [substituteAll]

theorem substituteAll_eq_mapChildren (ht : t.var? = none) (f : String → Ty) :
    t.substituteAll f = t.mapChildren (·.substituteAll f) := by
  cases t with
  | var x => cases ht
  | _ => rw [substituteAll]; exact mapChildrenMem_eq _ _; simp

theorem substituteAll_self (t : Ty) : t.substituteAll var = t := by
  induction t using inductionOnVariables with
  | atVar x => exact substituteAll_var x var
  | node t ht ih =>
      rw [substituteAll_eq_mapChildren ht]
      exact mapChildren_eq_self ih

theorem substituteAll_substituteAll (t : Ty) (f g : String → Ty) :
    (t.substituteAll f).substituteAll g = t.substituteAll fun x => (f x).substituteAll g := by
  induction t using inductionOnVariables with
  | atVar x => rw [substituteAll_var, substituteAll_var]
  | node t ht ih =>
      have hvar := (var?_mapChildren (·.substituteAll f) t).trans ht
      rw [substituteAll_eq_mapChildren ht, substituteAll_eq_mapChildren ht,
        substituteAll_eq_mapChildren hvar, mapChildren_mapChildren]
      exact mapChildren_congr_left ih

/-- Two results are the same tree just if each variable of the type is replaced by the same. -/
theorem substituteAll_eq_iff :
    t.substituteAll f = t.substituteAll g ↔ ∀ x ∈ t.freeVariables, f x = g x := by
  induction t using inductionOnVariables with
  | atVar x => simp [substituteAll_var, freeVariables_var]
  | node t ht ih =>
      rw [substituteAll_eq_mapChildren ht, substituteAll_eq_mapChildren ht,
        mapChildren_eq_mapChildren_iff, freeVariables_eq_flatMap ht]
      simp only [List.mem_flatMap, forall_exists_index, and_imp]
      constructor
      · intro h x c hc
        exact (ih c hc).mp (h c hc) x
      · intro h c hc
        exact (ih c hc).mpr fun x => h x c hc

theorem substituteAll_eq_self_iff :
    t.substituteAll f = t ↔ ∀ x ∈ t.freeVariables, f x = var x := by
  rw [← substituteAll_eq_iff, substituteAll_self]

/-- The variables of the replacements stand where the replaced variables stood. -/
theorem freeVariables_substituteAll (t : Ty) (f : String → Ty) :
    (t.substituteAll f).freeVariables = t.freeVariables.flatMap fun x => (f x).freeVariables := by
  induction t using inductionOnVariables with
  | atVar x => rw [substituteAll_var, freeVariables_var, List.flatMap_singleton]
  | node t ht ih =>
      have hvar := (var?_mapChildren (·.substituteAll f) t).trans ht
      rw [substituteAll_eq_mapChildren ht, freeVariables_eq_flatMap hvar, children_mapChildren,
        freeVariables_eq_flatMap ht, List.flatMap_map, List.flatMap_assoc]
      exact List.flatMap_congr ih

theorem substituteOne_eq_substituteAll (t : Ty) (x : String) (u : Ty) :
    t.substituteOne x u = t.substituteAll (update var x u) := by
  induction t using inductionOnVariables with
  | atVar y => rw [substituteOne_var, substituteAll_var, Function.update_apply]
  | node t ht ih =>
      rw [substituteOne_eq_mapChildren ht, substituteAll_eq_mapChildren ht]
      exact mapChildren_congr_left ih

theorem substituteOne_eq_self_iff :
    t.substituteOne x u = t ↔ (x ∈ t.freeVariables → u = var x) := by
  rw [substituteOne_eq_substituteAll, substituteAll_eq_self_iff]
  constructor
  · intro h hx
    simpa using h x hx
  · intro h y hy
    by_cases hyx : y = x
    · subst hyx
      simpa using h hy
    · exact Function.update_of_ne hyx _ _

theorem substituteOne_of_not_mem (h : x ∉ t.freeVariables) : t.substituteOne x u = t :=
  substituteOne_eq_self_iff.mpr fun hx => absurd hx h

end

end Frontend.Ty
