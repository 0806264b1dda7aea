/- Replacing all variables at once, and replacing one after another. -/
import Frontend.Proofs.Ty.Expansion

namespace Frontend

namespace Substitution

variable {m : Substitution} {bs : List (String × Ty)} {x y : String} {t u : Ty}

/-- The bindings of the map are those of the list. -/
def Lists (m : Substitution) (bs : List (String × Ty)) : Prop :=
  ∀ x u, m.lookup x = some u ↔ (x, u) ∈ bs

theorem lookup_eq_some_iff : m.lookup x = some u ↔ (x, u) ∈ m.bindings := by
  constructor
  · exact mem_bindings_of_lookup
  · intro hmem
    obtain ⟨before, after, hbindings⟩ := List.append_of_mem hmem
    refine List.lookup_eq_some_iff.mpr ⟨before, after, hbindings, ?_⟩
    have hnodup := m.distinct
    rw [hbindings, List.map_append, List.nodup_append] at hnodup
    intro b hb
    have hne := hnodup.2.2 b.1 (List.mem_map_of_mem hb) x List.mem_cons_self
    simpa using hne.symm

theorem mem_bindings_insert (hx : x ∉ m.bindings.map (·.1)) (b : String × Ty) :
    b ∈ (m.insert x u).bindings ↔ b = (x, u) ∨ b ∈ m.bindings := by
  have hkeep : m.bindings.filter (fun b => b.1 != x) = m.bindings := by
    refine List.filter_eq_self.mpr ?_
    intro b hb
    have hne : b.1 ≠ x := fun heq => hx (heq ▸ List.mem_map_of_mem hb)
    simpa using hne
  change b ∈ (x, u) :: m.bindings.filter (fun b => b.1 != x) ↔ _
  rw [hkeep, List.mem_cons]

theorem mem_bindings_foldl_insert (hnodup : (bs.map (·.1)).Nodup)
    (hnew : ∀ b ∈ bs, b.1 ∉ m.bindings.map (·.1)) (b : String × Ty) :
    b ∈ (bs.foldl (fun m b => m.insert b.1 b.2) m).bindings ↔ b ∈ bs ∨ b ∈ m.bindings := by
  induction bs generalizing m with
  | nil => simp
  | cons c bs ih =>
      obtain ⟨hc, hnodup⟩ := List.nodup_cons.mp hnodup
      have hfirst := mem_bindings_insert (u := c.2) (hnew c List.mem_cons_self)
      have hlater : ∀ d ∈ bs, d.1 ∉ (m.insert c.1 c.2).bindings.map (·.1) := by
        intro d hd hmem
        obtain ⟨e, he, heq⟩ := List.mem_map.mp hmem
        rcases (hfirst e).mp he with rfl | he
        · exact hc (List.mem_map.mpr ⟨d, hd, heq.symm⟩)
        · exact hnew d (List.mem_cons_of_mem _ hd) (List.mem_map.mpr ⟨e, he, heq⟩)
      rw [List.foldl_cons, ih hnodup hlater, hfirst, List.mem_cons, or_left_comm, or_assoc]

theorem lists_ofList (h : (bs.map (·.1)).Nodup) : (ofList bs).Lists bs := by
  intro x u
  have hnew : ∀ b ∈ bs, b.1 ∉ ({} : Substitution).bindings.map (·.1) := fun _ _ => List.not_mem_nil
  rw [lookup_eq_some_iff, ofList, mem_bindings_foldl_insert h hnew]
  exact or_iff_left List.not_mem_nil

end Substitution

namespace Ty

open Substitution
open Relation (TransGen)

/-- Replaces the variables of the bindings one after another. -/
def substituteEach (t : Ty) (bs : List (String × Ty)) : Ty :=
  bs.foldl (fun t b => t.substituteOne b.1 b.2) t

/-- Each variable is bound once, and what it is bound to mentions neither this variable nor any that
comes before it. -/
structure InDependencyOrder (bs : List (String × Ty)) : Prop where
  distinct : (bs.map (·.1)).Nodup
  own : ∀ b ∈ bs, b.2.mentions b.1 = false
  earlier : bs.Pairwise fun b c => c.2.mentions b.1 = false

section
variable {m : Substitution} {bs cs : List (String × Ty)} {x y : String} {t u : Ty}

theorem substituteEach_append (t : Ty) (bs cs : List (String × Ty)) :
    t.substituteEach (bs ++ cs) = (t.substituteEach bs).substituteEach cs :=
  List.foldl_append

theorem substituteEach_of_not_mem (h : ∀ b ∈ bs, b.1 ∉ t.freeVariables) :
    t.substituteEach bs = t := by
  induction bs with
  | nil => rfl
  | cons b bs ih =>
      have hfirst := substituteOne_of_not_mem (u := b.2) (h b List.mem_cons_self)
      have hlater := ih fun c hc => h c (List.mem_cons_of_mem _ hc)
      rw [substituteEach, List.foldl_cons, hfirst]
      exact hlater

theorem substituteEach_eq_mapChildren (ht : t.var? = none) (bs : List (String × Ty)) :
    t.substituteEach bs = t.mapChildren (·.substituteEach bs) := by
  induction bs generalizing t with
  | nil => exact (mapChildren_eq_self fun _ _ => rfl).symm
  | cons b bs ih =>
      have hone := substituteOne_eq_mapChildren ht b.1 b.2
      have hvar := (var?_mapChildren (·.substituteOne b.1 b.2) t).trans ht
      rw [substituteEach, List.foldl_cons, hone]
      exact (ih hvar).trans (mapChildren_mapChildren _ _ t)

/-- In the order of the bindings what replaces a variable is untouched by all that come up to it. -/
theorem InDependencyOrder.split (h : InDependencyOrder bs) (hmem : (x, u) ∈ bs) :
    ∃ before after, bs = before ++ (x, u) :: after ∧ x ∉ u.freeVariables ∧
      ∀ b ∈ before, b.1 ≠ x ∧ b.1 ∉ u.freeVariables := by
  obtain ⟨before, after, rfl⟩ := List.append_of_mem hmem
  have hdistinct := h.distinct
  rw [List.map_append, List.nodup_append] at hdistinct
  have hearlier := (List.pairwise_append.mp h.earlier).2.2
  refine ⟨before, after, rfl, ?_, ?_⟩
  · rw [← mentions_eq_true_iff, h.own (x, u) hmem]
    exact Bool.false_ne_true
  · intro b hb
    refine ⟨hdistinct.2.2 b.1 (List.mem_map_of_mem hb) x List.mem_cons_self, ?_⟩
    rw [← mentions_eq_true_iff, hearlier b hb (x, u) List.mem_cons_self]
    exact Bool.false_ne_true

/-- Whatever a variable leads to is bound further on, or not at all. -/
theorem InDependencyOrder.idxOf_lt (h : InDependencyOrder bs) (hm : m.Lists bs)
    (hstep : m.Leads x y) : (bs.map (·.1)).idxOf x < (bs.map (·.1)).idxOf y := by
  obtain ⟨u, ⟨hu, _⟩, hy⟩ := hstep
  obtain ⟨before, after, rfl, hself, hbefore⟩ := h.split ((hm x u).mp hu)
  have hx : x ∉ before.map (·.1) := by
    intro hmem
    obtain ⟨b, hb, heq⟩ := List.mem_map.mp hmem
    exact (hbefore b hb).1 heq
  have hy' : y ∉ before.map (·.1) := by
    intro hmem
    obtain ⟨b, hb, rfl⟩ := List.mem_map.mp hmem
    exact (hbefore b hb).2 hy
  have hne : x ≠ y := fun heq => hself (heq ▸ hy)
  rw [List.map_append, List.idxOf_append, List.idxOf_append, if_neg hx, if_neg hy',
    List.map_cons, List.idxOf_cons_self, List.idxOf_cons, beq_false_of_ne hne, cond_false]
  omega

theorem InDependencyOrder.not_cyclic (h : InDependencyOrder bs) (hm : m.Lists bs) (x : String) :
    ¬ m.Cyclic x := by
  have hpath : ∀ y, TransGen m.Leads x y → (bs.map (·.1)).idxOf x < (bs.map (·.1)).idxOf y := by
    intro y hpath
    induction hpath with
    | single hstep => exact h.idxOf_lt hm hstep
    | tail _ hstep ih => exact Nat.lt_trans ih (h.idxOf_lt hm hstep)
  intro hcycle
  exact Nat.lt_irrefl _ (hpath x hcycle)

/-- One after another, a variable is replaced by what its replacement becomes. -/
theorem InDependencyOrder.substituteEach_var (h : InDependencyOrder bs) (hmem : (x, u) ∈ bs) :
    (var x).substituteEach bs = u.substituteEach bs := by
  obtain ⟨before, after, rfl, hself, hbefore⟩ := h.split hmem
  have hvar : (var x).substituteEach before = var x := by
    refine substituteEach_of_not_mem ?_
    intro b hb hfree
    exact (hbefore b hb).1 (mem_freeVariables_var.mp hfree)
  have hreplacement : u.substituteEach before = u :=
    substituteEach_of_not_mem fun b hb => (hbefore b hb).2
  have hone : (var x).substituteOne x u = u.substituteOne x u := by
    rw [substituteOne_var, if_pos rfl, substituteOne_of_not_mem hself]
  rw [substituteEach_append, substituteEach_append, hvar, hreplacement]
  exact congrArg (substituteEach · after) hone

/-- Where no cycle is reached, whatever sends a variable to what its replacement is sent to, and
goes into the types right below, is the substitution. -/
theorem expand_eq_of_not_cyclic {f : Ty → Ty} (hfixes : ∀ x, m.Fixes x → f (var x) = var x)
    (hreplaces : ∀ x u, m.Replaces x u → f (var x) = f u)
    (hnode : ∀ t : Ty, t.var? = none → f t = t.mapChildren f) {active : List String} {t : Ty}
    (hidle : ∀ x ∈ active, ¬ m.Reaches t x) (hacyclic : ∀ x, m.Reaches t x → ¬ m.Cyclic x) :
    t.expand m active = f t := by
  induction active, t using expand_induction m with
  | stays active x hstays =>
      have hself : m.Reaches (var x) x := .of_mem (mem_freeVariables_var.mpr rfl)
      rw [expand_var_of_stays hstays]
      rcases hstays with hx | hx
      · exact (hfixes x hx).symm
      · exact absurd hself (hidle x hx)
  | replaced active x u hu hx ih =>
      have hreach : ∀ y, m.Reaches u y → m.Reaches (var x) y ∧ TransGen m.Leads x y := by
        rintro y ⟨z, hz, hpath⟩
        exact ⟨⟨x, mem_freeVariables_var.mpr rfl, .head ⟨u, hu, hz⟩ hpath⟩,
          .head' ⟨u, hu, hz⟩ hpath⟩
      rw [expand_var_of_idle hu hx, hreplaces x u hu]
      refine ih ?_ fun y hy => hacyclic y (hreach y hy).1
      intro y hmem hy
      rcases List.mem_cons.mp hmem with rfl | hmem
      · exact hacyclic y (hreach y hy).1 (hreach y hy).2
      · exact hidle y hmem (hreach y hy).1
  | node active t ht ih =>
      have hreach : ∀ c ∈ t.children, ∀ x, m.Reaches c x → m.Reaches t x := by
        rintro c hc x ⟨y, hy, hpath⟩
        exact ⟨y, mem_freeVariables_of_mem_children hc hy, hpath⟩
      rw [expand_eq_mapChildren ht, hnode t ht]
      refine mapChildren_congr_left ?_
      intro c hc
      exact ih c hc (fun x hx hy => hidle x hx (hreach c hc x hy))
        fun x hx => hacyclic x (hreach c hc x hx)

theorem substitute_eq_of_lists (h : InDependencyOrder bs) (hm : m.Lists bs) (t : Ty) :
    t.substitute m = t.substituteEach bs := by
  have hfixes : ∀ x, m.Fixes x → (var x).substituteEach bs = var x := by
    intro x hx
    refine substituteEach_of_not_mem ?_
    rintro ⟨y, u⟩ hmem hfree
    obtain rfl : y = x := mem_freeVariables_var.mp hfree
    have hself : u ≠ var y := by
      rintro rfl
      obtain ⟨_, _, _, hself, _⟩ := h.split hmem
      exact hself hfree
    exact hx.not_replaces ⟨(hm y u).mpr hmem, hself⟩
  have hreplaces : ∀ x u, m.Replaces x u → (var x).substituteEach bs = u.substituteEach bs := by
    intro x u hu
    exact h.substituteEach_var ((hm x u).mp hu.1)
  exact expand_eq_of_not_cyclic (f := (·.substituteEach bs)) hfixes hreplaces
    (fun t ht => substituteEach_eq_mapChildren ht bs) (fun _ hx => absurd hx List.not_mem_nil)
    fun x _ => h.not_cyclic hm x

/-- To substitute is to replace one variable after another, in any order in which no replacement
mentions its own variable or one before it. -/
theorem substitute_eq_substituteEach (h : InDependencyOrder bs) (t : Ty) :
    t.substitute (.ofList bs) = t.substituteEach bs ∧
      ∀ cs, cs.Perm bs → InDependencyOrder cs → t.substituteEach cs = t.substituteEach bs := by
  have hlists := lists_ofList h.distinct
  have hall := substitute_eq_of_lists h hlists t
  refine ⟨hall, ?_⟩
  intro cs hperm hcs
  have hlists' : (ofList bs).Lists cs := by
    intro x u
    rw [hlists x u, hperm.mem_iff]
  rw [← substitute_eq_of_lists hcs hlists' t, hall]

end

/-- Two variables lead to a third one, so that either of them can come first. -/
theorem substitute_eq_substituteEach_shared :
    let x := ("X", tuple [var "Y", array (var "Z") (some 3), var "T"])
    let y := ("Y", pointer (var "W"))
    let z := ("Z", composition [var "W", var "U"])
    let w := ("W", int 8 true)
    InDependencyOrder [x, y, z, w] ∧
      (var "X").substitute (.ofList [x, y, z, w]) = (var "X").substituteEach [x, y, z, w] ∧
      (var "X").substituteEach [x, z, y, w] = (var "X").substituteEach [x, y, z, w] := by
  intro x y z w
  have horder : ∀ b c : String × Ty, (b = y ∧ c = z) ∨ (b = z ∧ c = y) →
      InDependencyOrder [x, b, c, w] := by
    rintro b c (⟨rfl, rfl⟩ | ⟨rfl, rfl⟩)
    · exact ⟨by decide, by decide +kernel, by decide +kernel⟩
    · exact ⟨by decide, by decide +kernel, by decide +kernel⟩
  have h := horder y z (.inl ⟨rfl, rfl⟩)
  obtain ⟨hall, hany⟩ := substitute_eq_substituteEach h (var "X")
  exact ⟨h, hall, hany _ ((List.Perm.swap _ _ _).cons x) (horder z y (.inr ⟨rfl, rfl⟩))⟩

end Ty

end Frontend
