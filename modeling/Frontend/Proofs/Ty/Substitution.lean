/- What a substitution resolves, and what it leaves behind. -/
import Frontend.Proofs.Ty.Expansion

namespace Frontend.Ty

open Substitution
open Relation (TransGen)

section
variable {m : Substitution} {t u p : Ty} {x : String}

/-- What is left in the result is reached; it stands there because it is unbound or bound to itself,
or because it lies on a cycle. -/
theorem reaches_of_mem_substitute (h : x ∈ (t.substitute m).freeVariables) :
    m.Reaches t x ∧ (m.Fixes x ∨ m.Cyclic x) := by
  obtain ⟨trail, s, hs, hx, hstays⟩ := mem_freeVariables_expand_iff.mp h
  refine ⟨hs.reaches hx, hstays.imp_right ?_⟩
  intro hmem
  exact hs.leads hmem hx

theorem mem_substitute_iff_of_fixes (h : m.Fixes x) :
    x ∈ (t.substitute m).freeVariables ↔ m.Reaches t x := by
  constructor
  · intro hx
    exact (reaches_of_mem_substitute hx).1
  · intro hreach
    obtain ⟨trail, s, hs, hx, _⟩ := exists_expands_of_reaches hreach
    exact mem_freeVariables_expand_iff.mpr ⟨trail, s, hs, hx, .inl h⟩

theorem cyclic_of_mem_substitute (h : x ∈ (t.substitute m).freeVariables) (hx : ¬ m.Fixes x) :
    m.Cyclic x :=
  (reaches_of_mem_substitute h).2.resolve_left hx

/-- Some bound variable is left just if a cycle is reached. -/
theorem exists_replaced_mem_substitute_iff :
    (∃ x ∈ (t.substitute m).freeVariables, ∃ u, m.Replaces x u) ↔
      ∃ x, m.Reaches t x ∧ m.Cyclic x := by
  constructor
  · rintro ⟨x, hx, u, hu⟩
    have hbound : ¬ m.Fixes x := fun hfixes => hfixes.not_replaces hu
    exact ⟨x, (reaches_of_mem_substitute hx).1, cyclic_of_mem_substitute hx hbound⟩
  · rintro ⟨x, hreach, hcycle⟩
    obtain ⟨trail, s, z, hs, hz, hmem, hu⟩ := exists_met_below_itself hreach hcycle
    exact ⟨z, mem_freeVariables_expand_iff.mpr ⟨trail, s, hs, hz, .inr hmem⟩, hu⟩

theorem forall_not_mem_substitute_iff :
    (∀ x, x ∉ (t.substitute m).freeVariables) ↔
      ∀ x, m.Reaches t x → (∃ u, m.Replaces x u) ∧ ¬ m.Cyclic x := by
  constructor
  · intro hnone x hreach
    refine ⟨?_, ?_⟩
    · rcases fixes_or_replaces m x with hfixes | hu
      · exact absurd ((mem_substitute_iff_of_fixes hfixes).mpr hreach) (hnone x)
      · exact hu
    · intro hcycle
      obtain ⟨z, hz, _⟩ := exists_replaced_mem_substitute_iff.mpr ⟨x, hreach, hcycle⟩
      exact hnone z hz
  · intro hbound x hx
    obtain ⟨hreach, hleft⟩ := reaches_of_mem_substitute hx
    obtain ⟨⟨u, hu⟩, hacyclic⟩ := hbound x hreach
    rcases hleft with hfixes | hcycle
    · exact hfixes.not_replaces hu
    · exact hacyclic hcycle

theorem not_isTransient_of_mem_parts_var (h : p ∈ (var x).parts) : p.isTransient = false := by
  rcases mem_parts_iff.mp h with rfl | ⟨c, hc, _⟩
  · rfl
  · cases hc

/-- What is transient in the result comes from the type or from a replacement that is reached. -/
theorem transient_mem_parts_substitute_iff (hp : p.isTransient = true) :
    p ∈ (t.substitute m).parts ↔
      p ∈ t.parts ∨ ∃ x u, m.Reaches t x ∧ m.lookup x = some u ∧ p ∈ u.parts := by
  rw [substitute, mem_parts_expand_of_isTransient hp]
  constructor
  · rintro ⟨trail, s, hs, hpart⟩
    rcases hs.source with rfl | ⟨x, hreach, hu⟩
    · exact .inl hpart
    · exact .inr ⟨x, s, hreach, hu.1, hpart⟩
  · rintro (hpart | ⟨x, u, hreach, hu, hpart⟩)
    · exact ⟨[], t, .start, hpart⟩
    · have hself : u ≠ var x := by
        rintro rfl
        cases hp.symm.trans (not_isTransient_of_mem_parts_var hpart)
      obtain ⟨trail, s, hs, hx, hidle⟩ := exists_expands_of_reaches hreach
      exact ⟨x :: trail, u, hs.next hx hidle ⟨hu, hself⟩, hpart⟩

/-- A substitution resolves a type just if every variable that the type reaches is bound, and not to
itself, and lies on no cycle, and nothing transient stands in the type or in what is reached. -/
theorem isResolved_substitute_iff (t : Ty) (m : Substitution) :
    (t.substitute m).isResolved = true ↔
      (∀ x, m.Reaches t x → (∃ u, m.Replaces x u) ∧ ¬ m.Cyclic x) ∧
      (∀ p ∈ t.parts, p.isTransient = false) ∧
      ∀ x u, m.Reaches t x → m.lookup x = some u → ∀ p ∈ u.parts, p.isTransient = false := by
  rw [isResolved_iff, forall_not_mem_substitute_iff]
  refine and_congr_right fun _ => ?_
  simp only [Bool.eq_false_iff]
  constructor
  · intro hresult
    refine ⟨?_, ?_⟩
    · intro p hpart hp
      exact hresult p ((transient_mem_parts_substitute_iff hp).mpr (.inl hpart)) hp
    · intro x u hreach hu p hpart hp
      have hmem := (transient_mem_parts_substitute_iff hp).mpr (.inr ⟨x, u, hreach, hu, hpart⟩)
      exact hresult p hmem hp
  · rintro ⟨htype, hreplacements⟩ p hpart hp
    rcases (transient_mem_parts_substitute_iff hp).mp hpart with hpart | ⟨x, u, hreach, hu, hpart⟩
    · exact htype p hpart hp
    · exact hreplacements x u hreach hu p hpart hp

theorem exists_cycleWarning_iff :
    (∃ x, cycleWarning x ∈ t.substituteRecords m) ↔ ∃ x, m.Reaches t x ∧ m.Cyclic x := by
  rw [← exists_replaced_mem_substitute_iff]
  constructor
  · rintro ⟨x, hx⟩
    rcases List.mem_cons.mp hx with hdebug | hwarning
    · cases congrArg LogRecord.level hdebug
    · obtain ⟨y, hy, _⟩ := List.mem_map.mp hwarning
      exact ⟨y, mem_cyclesMet_iff.mp hy⟩
  · rintro ⟨x, hx⟩
    exact ⟨x, List.mem_cons_of_mem _ (List.mem_map_of_mem (mem_cyclesMet_iff.mpr hx))⟩

theorem substitute_substitute (h : ∀ x, m.Reaches t x → ¬ m.Cyclic x) :
    (t.substitute m).substitute m = t.substitute m := by
  refine expand_eq_self ?_
  intro x hx
  obtain ⟨hreach, hleft⟩ := reaches_of_mem_substitute hx
  exact .inl (hleft.resolve_right (h x hreach))

/-- A substitution leaves the unbound and self-bound variables that a type reaches, and of the other
ones only such as lie on a cycle; it warns just if it reaches a cycle, and if it reaches none, then
to substitute again changes nothing. -/
theorem substitute_leaves (t : Ty) (m : Substitution) :
    (∀ x, m.Fixes x → (x ∈ (t.substitute m).freeVariables ↔ m.Reaches t x)) ∧
      (∀ x ∈ (t.substitute m).freeVariables, ¬ m.Fixes x → m.Cyclic x) ∧
      ((∃ x, cycleWarning x ∈ t.substituteRecords m) ↔ ∃ x, m.Reaches t x ∧ m.Cyclic x) ∧
      ((∀ x, m.Reaches t x → ¬ m.Cyclic x) → (t.substitute m).substitute m = t.substitute m) :=
  ⟨fun _ h => mem_substitute_iff_of_fixes h, fun _ h hx => cyclic_of_mem_substitute h hx,
    exists_cycleWarning_iff, substitute_substitute⟩

end

/-- One variable is shared by two places, and another one is bound to itself. -/
theorem substitute_leaves_shared :
    let m : Substitution :=
      ⟨[("X", tuple [var "Y", pointer (var "Y")]), ("Y", pointer (var "Z")), ("Z", var "Z")],
        by decide⟩
    "Z" ∈ ((var "X").substitute m).freeVariables ∧
      ((var "X").substitute m).substitute m = (var "X").substitute m := by
  intro m
  have hleads : ∀ x y, m.Leads x y ↔ (x = "X" ∧ y = "Y") ∨ (x = "Y" ∧ y = "Z") := by
    have hpair : (tuple [var "Y", pointer (var "Y")]).freeVariables = ["Y", "Y"] := by
      decide +kernel
    have hpointer : (pointer (var "Z")).freeVariables = ["Z"] := by decide +kernel
    intro x y
    constructor
    · rintro ⟨u, ⟨hu, hne⟩, hy⟩
      have hmem := mem_bindings_of_lookup hu
      simp only [m, List.mem_cons, Prod.mk.injEq, List.not_mem_nil, or_false] at hmem
      rcases hmem with ⟨rfl, rfl⟩ | ⟨rfl, rfl⟩ | ⟨rfl, rfl⟩
      · exact .inl ⟨rfl, by simpa [hpair] using hy⟩
      · exact .inr ⟨rfl, by simpa [hpointer] using hy⟩
      · exact absurd rfl hne
    · rintro (⟨rfl, rfl⟩ | ⟨rfl, rfl⟩)
      · exact ⟨_, ⟨rfl, nofun⟩, by simp [hpair]⟩
      · exact ⟨_, ⟨rfl, nofun⟩, by simp [hpointer]⟩
  have horder : ∀ x y, m.Leads x y → x < y := by
    intro x y hstep
    rcases (hleads x y).mp hstep with ⟨rfl, rfl⟩ | ⟨rfl, rfl⟩
    · decide
    · decide
  have hacyclic : ∀ x, ¬ m.Cyclic x := by
    intro x hcycle
    have hpath : ∀ y, TransGen m.Leads x y → x < y := by
      intro y h
      induction h with
      | single hstep => exact horder _ _ hstep
      | tail _ hstep ih => exact String.lt_trans ih (horder _ _ hstep)
    exact String.lt_irrefl x (hpath x hcycle)
  obtain ⟨hleft, _, _, hagain⟩ := substitute_leaves (var "X") m
  refine ⟨(hleft "Z" (.inr rfl)).mpr ?_, hagain fun x _ => hacyclic x⟩
  have hx : m.Reaches (var "X") "X" := .of_mem (mem_freeVariables_var.mpr rfl)
  exact (hx.tail ((hleads _ _).mpr (.inl ⟨rfl, rfl⟩))).tail ((hleads _ _).mpr (.inr ⟨rfl, rfl⟩))

end Frontend.Ty
