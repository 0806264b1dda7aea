/- Equal types stay equal under every operation, and nothing asked of them tells them apart. -/
import Frontend.Proofs.Ty.Expansion
import Mathlib.Data.List.Basic

namespace Frontend

/-- The same variables are bound, each of them to equal types. -/
def Substitution.Alike (m₁ m₂ : Substitution) : Prop :=
  ∀ x, Option.Rel (fun u v => u.equiv v = true) (m₁.lookup x) (m₂.lookup x)

namespace Substitution.Alike

variable {m₁ m₂ : Substitution} {x : String} {u : Ty}

theorem lookup_of_none (h : m₁.Alike m₂) (hx : m₁.lookup x = none) : m₂.lookup x = none := by
  have hrel := h x
  rw [hx] at hrel
  cases hy : m₂.lookup x with
  | none => rfl
  | some v =>
      rw [hy] at hrel
      cases hrel

theorem lookup_of_some (h : m₁.Alike m₂) (hx : m₁.lookup x = some u) :
    ∃ v, m₂.lookup x = some v ∧ u.withoutLengths = v.withoutLengths := by
  have hrel := h x
  rw [hx] at hrel
  cases hy : m₂.lookup x with
  | none =>
      rw [hy] at hrel
      cases hrel
  | some v =>
      rw [hy] at hrel
      cases hrel with
      | some huv => exact ⟨v, rfl, (Ty.equiv_iff u v).mp huv⟩

theorem fixes (h : m₁.Alike m₂) (hx : m₁.Fixes x) : m₂.Fixes x := by
  rcases hx with hnone | hself
  · exact .inl (h.lookup_of_none hnone)
  · obtain ⟨v, hv, hlengths⟩ := h.lookup_of_some hself
    exact .inr (Ty.eq_of_withoutLengths_eq rfl hlengths ▸ hv)

theorem replaces (h : m₁.Alike m₂) (hu : m₁.Replaces x u) :
    ∃ v, m₂.Replaces x v ∧ u.withoutLengths = v.withoutLengths := by
  obtain ⟨v, hv, hlengths⟩ := h.lookup_of_some hu.1
  refine ⟨v, ⟨hv, ?_⟩, hlengths⟩
  rintro rfl
  exact hu.2 (Ty.eq_of_withoutLengths_eq rfl hlengths.symm).symm

end Substitution.Alike

namespace Ty

open Substitution

/-- What is asked of the form of a type alone does not depend on the lengths in it. -/
theorem apply_withoutLengths {α : Type} (q : Ty → α) (hchildren : ∀ f t, q (mapChildren f t) = q t)
    (hlength : ∀ element length, q (array element length) = q (array element none)) (t : Ty) :
    q t.withoutLengths = q t := by
  cases t with
  | array element length =>
      have hform := hchildren withoutLengths (array element none)
      rw [withoutLengths_array, hlength element length, ← hform]
      rfl
  | _ => rw [withoutLengths_eq_mapChildren (by simp), hchildren]

theorem isInteger_withoutLengths (t : Ty) : t.withoutLengths.isInteger = t.isInteger :=
  apply_withoutLengths isInteger (fun _ t => by cases t <;> rfl) (fun _ _ => rfl) t

theorem isFloating_withoutLengths (t : Ty) : t.withoutLengths.isFloating = t.isFloating :=
  apply_withoutLengths isFloating (fun _ t => by cases t <;> rfl) (fun _ _ => rfl) t

theorem isPointer_withoutLengths (t : Ty) : t.withoutLengths.isPointer = t.isPointer :=
  apply_withoutLengths isPointer (fun _ t => by cases t <;> rfl) (fun _ _ => rfl) t

theorem isTransient_withoutLengths (t : Ty) : t.withoutLengths.isTransient = t.isTransient :=
  apply_withoutLengths isTransient (fun _ t => by cases t <;> rfl) (fun _ _ => rfl) t

theorem var?_withoutLengths (t : Ty) : t.withoutLengths.var? = t.var? :=
  apply_withoutLengths var? (fun _ t => by cases t <;> rfl) (fun _ _ => rfl) t

theorem parts_withoutLengths (t : Ty) : t.withoutLengths.parts = t.parts.map withoutLengths := by
  induction t using inductionOnChildren with
  | step t ih =>
      rw [parts_eq, parts_eq, children_withoutLengths, List.map_cons, List.flatMap_map,
        List.map_flatMap]
      exact congrArg _ (List.flatMap_congr ih)

theorem freeVariables_withoutLengths (t : Ty) :
    t.withoutLengths.freeVariables = t.freeVariables := by
  have hvar : var? ∘ withoutLengths = var? := funext var?_withoutLengths
  rw [freeVariables, parts_withoutLengths, List.filterMap_map, hvar]
  rfl

theorem mentions_withoutLengths (t : Ty) (x : String) :
    t.withoutLengths.mentions x = t.mentions x := by
  simp only [mentions, parts_withoutLengths, List.any_map, Function.comp_def, var?_withoutLengths]

theorem isResolved_withoutLengths (t : Ty) : t.withoutLengths.isResolved = t.isResolved := by
  simp only [isResolved, parts_withoutLengths, List.all_map, Function.comp_def,
    isTransient_withoutLengths, var?_withoutLengths]

theorem pointerLevel_withoutLengths (t : Ty) :
    t.withoutLengths.pointerLevel = t.pointerLevel := by
  induction t using inductionOnChildren with
  | step t ih =>
      cases t with
      | pointer pointee =>
          rw [withoutLengths_pointer]
          exact congrArg (1 + ·) (ih pointee (List.mem_singleton_self pointee))
      | array element length => rw [withoutLengths_array]; rfl
      | _ => rw [withoutLengths_eq_mapChildren (by simp)]; rfl

theorem elementType_withoutLengths (t : Ty) :
    t.withoutLengths.elementType = t.elementType.withoutLengths := by
  induction t using inductionOnChildren with
  | step t ih =>
      cases t with
      | pointer pointee =>
          rw [withoutLengths_pointer]
          exact ih pointee (List.mem_singleton_self pointee)
      | array element length => rw [withoutLengths_array]; rfl
      | _ => simp [elementType, withoutLengths_eq_mapChildren, mapChildren]

theorem literalFallback_withoutLengths (t : Ty) :
    t.withoutLengths.literalFallback = t.literalFallback.withoutLengths := by
  have hstring : string.withoutLengths = string := by
    rw [string, withoutLengths_pointer, withoutLengths_eq_self rfl]
  cases t with
  | array element length => rw [withoutLengths_array]; exact (withoutLengths_array _ _).symm
  | integerLiteral => rw [withoutLengths_eq_self rfl]; exact (withoutLengths_eq_self rfl).symm
  | floatingLiteral => rw [withoutLengths_eq_self rfl]; exact (withoutLengths_eq_self rfl).symm
  | stringLiteral => rw [withoutLengths_eq_self rfl]; exact hstring.symm
  | _ => simp [literalFallback, withoutLengths_eq_mapChildren, mapChildren]

/-- Beyond equality, only the forms of two types decide whether they convert to each other. -/
theorem coercesTo_eq (a b : Ty) : a.coercesTo b = (a.equiv b ||
    (a.isInteger && (b.isInteger || b.isFloating || b.isPointer) || a.isFloating && b.isInteger ||
      a.isPointer && (b.isInteger || b.isPointer))) := by
  cases a with
  | int => cases b <;> rfl
  | floating => cases b <;> rfl
  | pointer => cases b <;> rfl
  | _ => rfl

theorem equiv_comm (a b : Ty) : a.equiv b = b.equiv a := by
  rw [Bool.eq_iff_iff, equiv_iff, equiv_iff, eq_comm]

theorem coercesTo_comm (a b : Ty) : a.coercesTo b = b.coercesTo a := by
  rw [coercesTo_eq, coercesTo_eq, equiv_comm, Bool.eq_iff_iff]
  simp only [Bool.or_eq_true, Bool.and_eq_true]
  grind

section
variable {a b a' b' : Ty} {x : String} {f g : Ty → Ty} {m₁ m₂ : Substitution}
variable {active : List String}

theorem eq_of_invariant {α : Type} {q : Ty → α} (hq : ∀ t, q t.withoutLengths = q t)
    (h : a.withoutLengths = b.withoutLengths) : q a = q b := by
  rw [← hq, h, hq]

theorem coercesTo_congr (h : a.withoutLengths = b.withoutLengths)
    (h' : a'.withoutLengths = b'.withoutLengths) : a.coercesTo a' = b.coercesTo b' := by
  have hequiv : a.equiv a' = b.equiv b' := by
    rw [Bool.eq_iff_iff, equiv_iff, equiv_iff, h, h']
  rw [coercesTo_eq, coercesTo_eq, hequiv, eq_of_invariant isInteger_withoutLengths h,
    eq_of_invariant isFloating_withoutLengths h, eq_of_invariant isPointer_withoutLengths h,
    eq_of_invariant isInteger_withoutLengths h', eq_of_invariant isFloating_withoutLengths h',
    eq_of_invariant isPointer_withoutLengths h']

theorem map_withoutLengths_congr {as bs : List Ty}
    (h : as.map withoutLengths = bs.map withoutLengths)
    (hchange : ∀ c ∈ as, ∀ d, c.withoutLengths = d.withoutLengths →
      (f c).withoutLengths = (g d).withoutLengths) :
    (as.map f).map withoutLengths = (bs.map g).map withoutLengths := by
  induction as generalizing bs with
  | nil =>
      obtain rfl := List.map_eq_nil_iff.mp h.symm
      rfl
  | cons a as ih =>
      cases bs with
      | nil => cases h
      | cons b bs =>
          simp only [List.map_cons, List.cons.injEq] at h ⊢
          exact ⟨hchange a List.mem_cons_self b h.1,
            ih h.2 fun c hc => hchange c (List.mem_cons_of_mem a hc)⟩

/-- Equal types are changed to equal types if what stands right below is. -/
theorem mapChildren_congr (h : a.withoutLengths = b.withoutLengths)
    (hchange : ∀ c ∈ a.children, ∀ d, c.withoutLengths = d.withoutLengths →
      (f c).withoutLengths = (g d).withoutLengths) :
    (a.mapChildren f).withoutLengths = (b.mapChildren g).withoutLengths := by
  cases sameForm_of_withoutLengths_eq h with
  | leaf hleaf => rw [mapChildren_eq_self (by simp [hleaf]), mapChildren_eq_self (by simp [hleaf])]
  | function hargs hresult =>
      have hall := map_withoutLengths_congr hargs fun c hc =>
        hchange c (List.mem_append_left _ hc)
      have hone := hchange _ (List.mem_append_right _ (List.mem_singleton_self _)) _ hresult
      rw [mapChildren, mapChildren, withoutLengths_function, withoutLengths_function, hall, hone]
  | pointer hpointee =>
      have hone := hchange _ (List.mem_singleton_self _) _ hpointee
      rw [mapChildren, mapChildren, withoutLengths_pointer, withoutLengths_pointer, hone]
  | array helement =>
      have hone := hchange _ (List.mem_singleton_self _) _ helement
      rw [mapChildren, mapChildren, withoutLengths_array, withoutLengths_array, hone]
  | tuple helements =>
      have hall := map_withoutLengths_congr helements hchange
      rw [mapChildren, mapChildren, withoutLengths_tuple, withoutLengths_tuple, hall]
  | composition hmembers =>
      have hall := map_withoutLengths_congr hmembers hchange
      rw [mapChildren, mapChildren, withoutLengths_composition, withoutLengths_composition, hall]

theorem substituteOne_congr (h : a.withoutLengths = b.withoutLengths)
    (h' : a'.withoutLengths = b'.withoutLengths) :
    (a.substituteOne x a').withoutLengths = (b.substituteOne x b').withoutLengths := by
  induction a using inductionOnVariables generalizing b with
  | atVar y =>
      obtain rfl := eq_of_withoutLengths_eq rfl h
      rw [substituteOne_var, substituteOne_var]
      split
      · exact h'
      · rfl
  | node a ha ih =>
      have hb : b.var? = none := (eq_of_invariant var?_withoutLengths h).symm.trans ha
      rw [substituteOne_eq_mapChildren ha, substituteOne_eq_mapChildren hb]
      exact mapChildren_congr h fun c hc d hd => ih c hc hd

/-- Equal types expand to equal types, for the same active variables. -/
theorem expand_congr (hm : m₁.Alike m₂) (h : a.withoutLengths = b.withoutLengths) :
    (a.expand m₁ active).withoutLengths = (b.expand m₂ active).withoutLengths := by
  induction active, a using expand_induction m₁ generalizing b with
  | stays active x hstays =>
      obtain rfl := eq_of_withoutLengths_eq rfl h
      rw [expand_var_of_stays hstays, expand_var_of_stays (hstays.imp_left hm.fixes)]
  | replaced active x u hu hidle ih =>
      obtain rfl := eq_of_withoutLengths_eq rfl h
      obtain ⟨v, hv, huv⟩ := hm.replaces hu
      rw [expand_var_of_idle hu hidle, expand_var_of_idle hv hidle]
      exact ih huv
  | node active a ha ih =>
      have hb : b.var? = none := (eq_of_invariant var?_withoutLengths h).symm.trans ha
      rw [expand_eq_mapChildren ha, expand_eq_mapChildren hb]
      exact mapChildren_congr h fun c hc d hd => ih c hc hd

end

/-- Equality is an equivalence, every operation gives equal types for equal types and for maps that
bind the same variables to equal types, and every question about a type has the same answer for
equal types. Whether one type converts to another has the same answer in both directions. -/
theorem equiv_isCongruence :
    Equivalence (fun a b : Ty => a.equiv b = true) ∧
      ∀ (a b a' b' : Ty) (m₁ m₂ : Substitution) (x : String), a.equiv b = true →
        a'.equiv b' = true → m₁.Alike m₂ →
          (a.substitute m₁).equiv (b.substitute m₂) = true ∧
          (a.substituteOne x a').equiv (b.substituteOne x b') = true ∧
          a.literalFallback.equiv b.literalFallback = true ∧
          a.elementType.equiv b.elementType = true ∧
          a.freeVariables = b.freeVariables ∧ a.mentions x = b.mentions x ∧
          a.isResolved = b.isResolved ∧ a.pointerLevel = b.pointerLevel ∧
          a.coercesTo a' = b.coercesTo b' ∧ b.coercesTo b' = a'.coercesTo a := by
  refine ⟨⟨equiv_self, ?_, ?_⟩, ?_⟩
  · intro a b h
    rwa [equiv_comm]
  · intro a b c hab hbc
    rw [equiv_iff] at hab hbc ⊢
    exact hab.trans hbc
  · intro a b a' b' m₁ m₂ x h h' hm
    rw [equiv_iff] at h h'
    simp only [equiv_iff]
    have hcoerce := coercesTo_congr h h'
    refine ⟨expand_congr hm h, substituteOne_congr h h', ?_, ?_,
      eq_of_invariant freeVariables_withoutLengths h,
      eq_of_invariant (q := (·.mentions x)) (mentions_withoutLengths · x) h,
      eq_of_invariant isResolved_withoutLengths h, eq_of_invariant pointerLevel_withoutLengths h,
      hcoerce, ?_⟩
    · rw [← literalFallback_withoutLengths, h, literalFallback_withoutLengths]
    · rw [← elementType_withoutLengths, h, elementType_withoutLengths]
    · rw [← hcoerce, coercesTo_comm]

/-- Two maps that bind `X` and `Y` in a circle, in two orders and with arrays of other lengths. -/
theorem equiv_isCongruence_circle :
    let a := array (tuple [var "X", var "Y"]) (some 3)
    let b := array (tuple [var "X", var "Y"]) none
    let m₁ : Substitution :=
      { bindings := [("X", array (var "Y") (some 1)), ("Y", pointer (var "X"))] }
    let m₂ : Substitution :=
      { bindings := [("Y", pointer (var "X")), ("X", array (var "Y") (some 2))] }
    (a.substitute m₁).equiv (b.substitute m₂) = true ∧
      (a.substituteOne "X" a).equiv (b.substituteOne "X" b) = true ∧
      a.coercesTo a = b.coercesTo b := by
  intro a b m₁ m₂
  have hab : a.equiv b = true := by decide +kernel
  have halike : m₁.Alike m₂ := by
    intro x
    by_cases hx : x = "X"
    · subst hx
      exact .some (by decide +kernel)
    · by_cases hy : x = "Y"
      · subst hy
        exact .some (by decide +kernel)
      · have h₁ : m₁.lookup x = none := List.lookup_eq_none_iff.mpr (by simp [m₁, hx, hy])
        have h₂ : m₂.lookup x = none := List.lookup_eq_none_iff.mpr (by simp [m₂, hx, hy])
        rw [h₁, h₂]
        exact .none
  obtain ⟨hsubstitute, hone, _, _, _, _, _, _, hcoerce, _⟩ :=
    equiv_isCongruence.2 a b a b m₁ m₂ "X" hab hab halike
  exact ⟨hsubstitute, hone, hcoerce⟩

end Ty

end Frontend
