/- One variable replaced: by a map that binds no other, before or after another variable, and what
is left of the variables. -/
import Frontend.Proofs.Ty.Congruence

namespace Frontend.Ty

open Function (update)
open Substitution

section
variable {m : Substitution} {active : List String} {t u w : Ty} {x y : String}

theorem lookup_ofList_singleton (x y : String) (u : Ty) :
    (ofList [(x, u)]).lookup y = if y = x then some u else none := by
  change [(x, u)].lookup y = _
  rw [List.lookup_cons]
  by_cases hyx : y = x
  · simp [hyx]
  · simp [hyx, beq_false_of_ne hyx]

/-- Where no other variable is bound, a replacement is not expanded any further: its own variable is
active, and left in place wherever it comes back. -/
theorem expand_var_of_only (hothers : ∀ y, y ≠ x → m.Fixes y) (hu : m.lookup x = some u)
    (hidle : x ∉ active) : (var x).expand m active = u := by
  by_cases hself : u = var x
  · subst hself
    exact expand_var_of_stays (.inl (.inr hu))
  · rw [expand_var_of_idle ⟨hu, hself⟩ hidle]
    refine expand_eq_self ?_
    intro y _
    by_cases hyx : y = x
    · exact .inr (hyx ▸ List.mem_cons_self)
    · exact .inl (hothers y hyx)

/-- A map that binds a single variable puts its replacement in place of the variable, and changes
nothing in it, even if the variable occurs there again. -/
theorem substitute_ofList_singleton (t : Ty) (x : String) (u : Ty) :
    t.substitute (.ofList [(x, u)]) = t.substituteOne x u ∧
      (var x).substitute (.ofList [(x, u)]) = u := by
  have hbound : (ofList [(x, u)]).lookup x = some u := by
    rw [lookup_ofList_singleton, if_pos rfl]
  have hothers : ∀ y, y ≠ x → (ofList [(x, u)]).Fixes y := by
    intro y hyx
    refine .inl ?_
    rw [lookup_ofList_singleton, if_neg hyx]
  have hvar : (var x).substitute (.ofList [(x, u)]) = u :=
    expand_var_of_only hothers hbound List.not_mem_nil
  refine ⟨?_, hvar⟩
  rw [substitute, expand_eq_substituteAll, substituteOne_eq_substituteAll]
  refine substituteAll_eq_iff.mpr ?_
  intro y _
  by_cases hyx : y = x
  · subst hyx
    rw [Function.update_self]
    exact hvar
  · rw [Function.update_of_ne hyx]
    exact expand_var_of_stays (.inl (hothers y hyx))

/-- Two variables are replaced in either order, if the first replacement gets what the second one
puts into it, and the second replacement does not mention the first variable. -/
theorem substituteOne_substituteOne (t u : Ty) (hxy : x ≠ y) (hw : w.mentions x = false) :
    (t.substituteOne x u).substituteOne y w =
      (t.substituteOne y w).substituteOne x (u.substituteOne y w) := by
  have hfree : x ∉ w.freeVariables := by
    rw [← mentions_eq_true_iff, hw]
    exact Bool.false_ne_true
  have hvar : ∀ z, (update var x u z).substituteOne y w =
      (update var y w z).substituteOne x (u.substituteOne y w) := by
    intro z
    by_cases hzx : z = x
    · subst hzx
      rw [Function.update_self, Function.update_of_ne hxy, substituteOne_var, if_pos rfl]
    by_cases hzy : z = y
    · subst hzy
      rw [Function.update_self, Function.update_of_ne hzx, substituteOne_var, if_pos rfl,
        substituteOne_of_not_mem hfree]
    · rw [Function.update_of_ne hzx, Function.update_of_ne hzy, substituteOne_var,
        substituteOne_var, if_neg hzy, if_neg hzx]
  simp only [substituteOne_eq_substituteAll] at hvar ⊢
  rw [substituteAll_substituteAll, substituteAll_substituteAll]
  exact substituteAll_eq_iff.mpr fun z _ => hvar z

/-- Either replacement mentions `Y`, and the first one its own variable too. -/
theorem substituteOne_substituteOne_nested :
    let t := function [var "X", pointer (var "Y")] (array (var "X") (some 3)) true
    let u := composition [pointer (var "Y"), var "X"]
    let w := tuple [var "Y", int 8 true]
    "X" ≠ "Y" ∧ w.mentions "X" = false ∧
      (t.substituteOne "X" u).substituteOne "Y" w =
        (t.substituteOne "Y" w).substituteOne "X" (u.substituteOne "Y" w) := by
  intro t u w
  have hxy : "X" ≠ "Y" := by decide
  have hw : w.mentions "X" = false := by decide +kernel
  exact ⟨hxy, hw, substituteOne_substituteOne t u hxy hw⟩

theorem freeVariables_substituteOne (t : Ty) (x : String) (u : Ty) :
    (t.substituteOne x u).freeVariables =
      t.freeVariables.flatMap fun y => if y = x then u.freeVariables else [y] := by
  rw [substituteOne_eq_substituteAll, freeVariables_substituteAll]
  refine List.flatMap_congr ?_
  intro y _
  rw [Function.update_apply]
  split
  · rfl
  · exact freeVariables_var y

/-- A variable that occurs is gone when a type without variables has replaced it, and the result is
not even equal up to lengths. -/
theorem substituteOne_bool_equiv_eq_false (h : x ∈ t.freeVariables) :
    (t.substituteOne x bool).equiv t = false := by
  have hgone : x ∉ (t.substituteOne x bool).freeVariables := by
    rw [freeVariables_substituteOne, List.mem_flatMap]
    rintro ⟨y, _, hx⟩
    split at hx
    · rw [freeVariables_eq_flatMap rfl] at hx
      cases hx
    · rename_i hyx
      exact hyx (List.mem_singleton.mp hx).symm
  rw [Bool.eq_false_iff, Ne, equiv_iff]
  intro hequal
  rw [eq_of_invariant freeVariables_withoutLengths hequal] at hgone
  exact hgone h

/-- In the list of the variables of a type each occurrence of the replaced one gives way to all the
variables of the replacement, in order. A variable is mentioned just if it is in the list, and just
if some replacement makes a difference, in the tree or also under equality. -/
theorem variables_of_substituteOne (t : Ty) (x : String) :
    (∀ u, (t.substituteOne x u).freeVariables =
        t.freeVariables.flatMap fun y => if y = x then u.freeVariables else [y]) ∧
      (t.mentions x = true ↔ x ∈ t.freeVariables) ∧
      (x ∈ t.freeVariables ↔ ∃ u, t.substituteOne x u ≠ t) ∧
      (x ∈ t.freeVariables ↔ ∃ u, (t.substituteOne x u).equiv t = false) := by
  have hdiffer : ∀ u, (t.substituteOne x u).equiv t = false → t.substituteOne x u ≠ t := by
    intro u hequiv heq
    rw [heq, equiv_self] at hequiv
    cases hequiv
  have hmem : ∀ u, t.substituteOne x u ≠ t → x ∈ t.freeVariables := by
    intro u hne
    by_contra hx
    exact hne (substituteOne_of_not_mem hx)
  have hbool := substituteOne_bool_equiv_eq_false (t := t) (x := x)
  refine ⟨freeVariables_substituteOne t x, mentions_eq_true_iff, ?_, ?_⟩
  · constructor
    · intro hx
      exact ⟨bool, hdiffer bool (hbool hx)⟩
    · rintro ⟨u, hne⟩
      exact hmem u hne
  · constructor
    · intro hx
      exact ⟨bool, hbool hx⟩
    · rintro ⟨u, hequiv⟩
      exact hmem u (hdiffer u hequiv)

end

end Frontend.Ty
