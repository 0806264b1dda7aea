/- Which variables lead to which others through the types that they are bound to. -/
import Frontend.Proofs.Ty.Variables
import Frontend.Ty.Substitution
import Mathlib.Logic.Relation

namespace Frontend

open Relation (ReflTransGen TransGen)

namespace Substitution

/-- The variable is bound to something other than itself. -/
def Replaces (m : Substitution) (x : String) (u : Ty) : Prop := m.lookup x = some u ∧ u ≠ .var x

/-- The variable is unbound, or bound to itself. -/
def Fixes (m : Substitution) (x : String) : Prop :=
  m.lookup x = none ∨ m.lookup x = some (.var x)

/-- The second variable occurs in what the first one is replaced by. -/
def Leads (m : Substitution) (x y : String) : Prop := ∃ u, m.Replaces x u ∧ y ∈ u.freeVariables

/-- The variable is free in the type, or in a replacement that the type leads to. -/
def Reaches (m : Substitution) (t : Ty) (x : String) : Prop :=
  ∃ y ∈ t.freeVariables, ReflTransGen m.Leads y x

/-- The variable comes back to itself in one or more steps. -/
def Cyclic (m : Substitution) (x : String) : Prop := TransGen m.Leads x x

variable {m : Substitution} {t u : Ty} {x y : String}

theorem fixes_or_replaces (m : Substitution) (x : String) : m.Fixes x ∨ ∃ u, m.Replaces x u := by
  cases h : m.lookup x with
  | none => exact .inl (.inl h)
  | some u =>
      by_cases hu : u = .var x
      · exact .inl (.inr (hu ▸ h))
      · exact .inr ⟨u, h, hu⟩

theorem Replaces.eq {v : Ty} (hu : m.Replaces x u) (hv : m.Replaces x v) : u = v :=
  Option.some.inj (hu.1.symm.trans hv.1)

theorem Fixes.not_replaces (h : m.Fixes x) : ¬ m.Replaces x u := by
  rintro ⟨hu, hne⟩
  rcases h with hnone | hself
  · cases hnone.symm.trans hu
  · exact hne (Option.some.inj (hself.symm.trans hu)).symm

theorem Reaches.of_mem (h : x ∈ t.freeVariables) : m.Reaches t x := ⟨x, h, .refl⟩

theorem Reaches.tail (h : m.Reaches t x) (hxy : m.Leads x y) : m.Reaches t y := by
  obtain ⟨z, hz, hpath⟩ := h
  exact ⟨z, hz, hpath.tail hxy⟩

end Substitution

namespace Ty

open Substitution

/-- While `t` is expanded below the names in `active`, `s` is expanded below those in `trail`: it is
`t` itself, or replaces a variable that is not being expanded yet. -/
inductive Expands (m : Substitution) (active : List String) (t : Ty) : List String → Ty → Prop
  | start : Expands m active t active t
  | next {trail s x u} (h : Expands m active t trail s) (hx : x ∈ s.freeVariables)
      (hidle : x ∉ trail) (hu : m.Replaces x u) : Expands m active t (x :: trail) u

/-- The variable is left in place below these names. -/
def Stays (m : Substitution) (trail : List String) (x : String) : Prop := m.Fixes x ∨ x ∈ trail

variable {m : Substitution} {active trail : List String} {t s u : Ty} {x y : String}

theorem Expands.head (hx : x ∈ t.freeVariables) (hidle : x ∉ active) (hu : m.Replaces x u)
    (h : Expands m (x :: active) u trail s) : Expands m active t trail s := by
  induction h with
  | start => exact .next .start hx hidle hu
  | next h hy hidle' hv ih => exact .next ih hy hidle' hv

theorem Expands.of_child {c : Ty} (hc : c ∈ t.children) (h : Expands m active c trail s) :
    (trail = active ∧ s = c) ∨ Expands m active t trail s := by
  induction h with
  | start => exact .inl ⟨rfl, rfl⟩
  | next h hx hidle hu ih =>
      rcases ih with ⟨rfl, rfl⟩ | h
      · exact .inr (.next .start (mem_freeVariables_of_mem_children hc hx) hidle hu)
      · exact .inr (.next h hx hidle hu)

/-- A name on the trail leads to every variable that is met below it. -/
theorem Expands.leads (h : Expands m [] t trail s) (hy : y ∈ trail) (hx : x ∈ s.freeVariables) :
    TransGen m.Leads y x := by
  induction h generalizing x with
  | start => cases hy
  | next h hz hidle hu ih =>
      rcases List.mem_cons.mp hy with rfl | hy
      · exact .single ⟨_, hu, hx⟩
      · exact .tail (ih hy hz) ⟨_, hu, hx⟩

theorem Expands.reaches (h : Expands m [] t trail s) (hx : x ∈ s.freeVariables) :
    m.Reaches t x := by
  induction h generalizing x with
  | start => exact .of_mem hx
  | next h hy hidle hu ih => exact (ih hy).tail ⟨_, hu, hx⟩

theorem Expands.source (h : Expands m [] t trail s) :
    s = t ∨ ∃ x, m.Reaches t x ∧ m.Replaces x s := by
  cases h with
  | start => exact .inl rfl
  | next h hx hidle hu => exact .inr ⟨_, h.reaches hx, hu⟩

/-- A name on the trail was met before it was put there. -/
theorem Expands.before (h : Expands m [] t trail s) (hx : x ∈ trail) :
    ∃ trail s, Expands m [] t trail s ∧ x ∈ s.freeVariables ∧ x ∉ trail := by
  induction h with
  | start => cases hx
  | next h hy hidle hu ih =>
      rcases List.mem_cons.mp hx with rfl | hx
      · exact ⟨_, _, h, hy, hidle⟩
      · exact ih hx

/-- Whatever a type reaches is met, and not only below itself: a path that comes back to a name on
its own trail is cut off where it met that name first. -/
theorem exists_expands_of_reaches (h : m.Reaches t x) :
    ∃ trail s, Expands m [] t trail s ∧ x ∈ s.freeVariables ∧ x ∉ trail := by
  obtain ⟨y, hy, hpath⟩ := h
  induction hpath with
  | refl => exact ⟨[], t, .start, hy, List.not_mem_nil⟩
  | @tail x z _ hstep ih =>
      obtain ⟨trail, s, hs, hx, hidle⟩ := ih
      obtain ⟨u, hu, hz⟩ := hstep
      have hnext := hs.next hx hidle hu
      by_cases hagain : z ∈ x :: trail
      · exact hnext.before hagain
      · exact ⟨_, _, hnext, hz, hagain⟩

/-- Along a path from a variable that is not being expanded yet, all names stay on the trail, up to
the end of the path or to a variable that is met below itself. -/
theorem Expands.follow (h : Expands m active t trail s) (hx : x ∈ s.freeVariables)
    (hidle : x ∉ trail) (hpath : TransGen m.Leads x y) :
    ∃ trail s z, Expands m active t trail s ∧ z ∈ s.freeVariables ∧
      ((z = y ∧ x ∈ trail) ∨ (z ∈ trail ∧ ∃ u, m.Replaces z u)) := by
  induction hpath with
  | single hstep =>
      obtain ⟨u, hu, hy⟩ := hstep
      exact ⟨_, _, _, h.next hx hidle hu, hy, .inl ⟨rfl, List.mem_cons_self⟩⟩
  | tail _ hstep ih =>
      obtain ⟨trail', s', z, hs, hz, hcase⟩ := ih
      rcases hcase with ⟨rfl, htrail⟩ | hmet
      · obtain ⟨u, hu, hy⟩ := hstep
        by_cases hmet : z ∈ trail'
        · exact ⟨_, _, _, hs, hz, .inr ⟨hmet, u, hu⟩⟩
        · exact ⟨_, _, _, hs.next hz hmet hu, hy, .inl ⟨rfl, List.mem_cons_of_mem _ htrail⟩⟩
      · exact ⟨_, _, _, hs, hz, .inr hmet⟩

/-- A type that reaches a cycle meets some variable below itself. -/
theorem exists_met_below_itself (h : m.Reaches t x) (hcycle : m.Cyclic x) :
    ∃ trail s z, Expands m [] t trail s ∧ z ∈ s.freeVariables ∧ z ∈ trail ∧
      ∃ u, m.Replaces z u := by
  obtain ⟨trail, s, hs, hx, hidle⟩ := exists_expands_of_reaches h
  obtain ⟨trail', s', z, hs', hz, hcase⟩ := hs.follow hx hidle hcycle
  rcases hcase with ⟨rfl, hmet⟩ | hmet
  · obtain ⟨y, ⟨u, hu, _⟩, _⟩ := TransGen.head'_iff.mp hcycle
    exact ⟨_, _, _, hs', hz, hmet, u, hu⟩
  · exact ⟨_, _, _, hs', hz, hmet⟩

end Ty

end Frontend
