/- Substitution with one stack of names for all of its calls. -/
import Frontend.Proofs.Ty.Expansion
import Mathlib.Algebra.BigOperators.Group.List.Basic
import Mathlib.Algebra.Order.BigOperators.Group.List
import Mathlib.Algebra.Order.Group.Nat
import Mathlib.Data.List.Perm.Subperm

namespace Frontend

namespace Substitution

/-- Names whose replacements may be expanded one inside of the other. -/
structure Guards (m : Substitution) (stack : List String) : Prop where
  distinct : stack.Nodup
  replaced : ∀ x ∈ stack, ∃ u, m.Replaces x u

/-- How deep the calls on a type may nest below these names: one call for each part of the type, and
one for each part of what the other names are bound to. -/
def callDepth (m : Substitution) (stack : List String) (t : Ty) : Nat :=
  t.parts.length + ((m.idle stack).flatMap fun b => b.2.parts).length

section
variable {m : Substitution} {stack : List String} {t u c : Ty} {x : String}

theorem guards_nil (m : Substitution) : m.Guards [] := ⟨List.nodup_nil, nofun⟩

theorem Guards.push (h : m.Guards stack) (hu : m.Replaces x u) (hidle : x ∉ stack) :
    m.Guards (x :: stack) where
  distinct := List.nodup_cons.mpr ⟨hidle, h.distinct⟩
  replaced := List.forall_mem_cons.mpr ⟨⟨u, hu⟩, h.replaced⟩

/-- There are no more names on the stack than bindings. -/
theorem Guards.length_le (h : m.Guards stack) : stack.length ≤ m.size := by
  have hsubset : stack ⊆ m.bindings.map (·.1) := by
    intro x hx
    obtain ⟨u, hu, _⟩ := h.replaced x hx
    exact List.mem_map_of_mem (mem_bindings_of_lookup hu)
  have hle := (List.subperm_of_subset h.distinct hsubset).length_le
  rwa [List.length_map] at hle

theorem exists_eq_succ_of_callDepth_le {depth : Nat} (h : m.callDepth stack t ≤ depth) :
    ∃ d, depth = d + 1 := by
  rw [callDepth, Ty.parts_eq, List.length_cons] at h
  exact ⟨depth - 1, by omega⟩

theorem callDepth_lt_of_mem_children (m : Substitution) (stack : List String)
    (hc : c ∈ t.children) : m.callDepth stack c < m.callDepth stack t := by
  have hle := List.single_le_sum (fun _ _ => Nat.zero_le _) _
    (List.mem_map_of_mem (f := fun c => c.parts.length) hc)
  have ht : t.parts.length = (t.children.map fun c => c.parts.length).sum + 1 := by
    rw [Ty.parts_eq, List.length_cons, List.length_flatMap]
  simp only [callDepth, ht]
  omega

/-- A name that goes on the stack pays for the parts of its replacement. -/
theorem callDepth_lt_of_idle (hu : m.Replaces x u) (hidle : x ∉ stack) :
    m.callDepth (x :: stack) u < m.callDepth stack (.var x) := by
  have hbound : (x, u) ∈ (m.idle stack).filter fun b => !(b.1 != x) := by
    simp [idle, mem_bindings_of_lookup hu.1, hidle]
  have hle := List.single_le_sum (fun _ _ => Nat.zero_le _) _
    (List.mem_map_of_mem (f := fun b => b.2.parts.length) hbound)
  have hsplit := ((List.filter_append_perm (fun b => b.1 != x) (m.idle stack)).map
    fun b => b.2.parts.length).sum_eq
  have hvar : (Ty.var x).parts.length = 1 := by
    rw [Ty.parts_eq]
    rfl
  rw [List.map_append, List.sum_append] at hsplit
  simp only [callDepth, idle_cons, hvar, List.length_flatMap, ← hsplit]
  simp only at hle
  omega

end

end Substitution

namespace Ty

open Substitution

/-- The names on the stack before and after a call that has returned. -/
structure Call where
  before : List String
  after : List String

/-- The names whose replacements are being expanded, the latest first, and the calls so far. -/
structure Walk where
  stack : List String := []
  calls : List Call := []

namespace Walk

def push (name : String) (w : Walk) : Walk := { w with stack := name :: w.stack }

def pop (w : Walk) : Walk := { w with stack := w.stack.tail }

def note (before : List String) (w : Walk) : Walk :=
  { w with calls := w.calls ++ [⟨before, w.stack⟩] }

end Walk

/-- `mapChildren` for a function with an effect, from left to right. -/
def mapChildrenM {μ : Type → Type} [Monad μ] (f : Ty → μ Ty) : Ty → μ Ty
  | function args result variadic => do
    let args ← args.mapM f
    let result ← f result
    return function args result variadic
  | pointer pointee => do return pointer (← f pointee)
  | array element length => do return array (← f element) length
  | tuple elements => do return tuple (← elements.mapM f)
  | composition members => do return composition (← members.mapM f)
  | t => return t

/-- Expands the replacement of a name by `call`, with the name on top of the stack for as long. -/
def replaceOnStack (m : Substitution) (call : Ty → StateT Walk Option Ty) (name : String) :
    StateT Walk Option Ty := do
  match m.lookup name with
  | none => return var name
  | some u =>
    if u.equiv (var name) || (← get).stack.contains name then
      return var name
    else
      modify (Walk.push name)
      let result ← call u
      modify Walk.pop
      return result

/-- Notes what an action does as a call. -/
def asCall (action : StateT Walk Option Ty) : StateT Walk Option Ty := do
  let before := (← get).stack
  let result ← action
  modify (Walk.note before)
  return result

/-- Expands a type on a stack that all calls share. Where calls nest deeper than `depth` there is no
result. -/
def expandOnStack (m : Substitution) : (depth : Nat) → Ty → StateT Walk Option Ty
  | 0, _ => failure
  | depth + 1, var name => asCall (replaceOnStack m (expandOnStack m depth) name)
  | depth + 1, t => asCall (t.mapChildrenM (expandOnStack m depth))

/-- The call was made below guarded names, and has left them as they were. -/
structure Call.Guarded (m : Substitution) (call : Call) : Prop where
  guards : m.Guards call.before
  restored : call.after = call.before

/-- On this stack the action gives the result and leaves the stack as it was, and all calls on its
way are guarded. -/
def Returns {α : Type} (m : Substitution) (stack : List String) (action : StateT Walk Option α)
    (result : α) : Prop :=
  ∀ calls, ∃ more, action.run ⟨stack, calls⟩ = some (result, ⟨stack, calls ++ more⟩) ∧
    ∀ call ∈ more, call.Guarded m

section
variable {α β : Type} {m : Substitution} {stack : List String} {depth : Nat} {t u : Ty}
  {x : String}

theorem returns_pure (m : Substitution) (stack : List String) (a : α) :
    Returns m stack (pure a) a :=
  fun calls => ⟨[], by rw [List.append_nil]; rfl, nofun⟩

theorem Returns.bind {action : StateT Walk Option α} {next : α → StateT Walk Option β} {a : α}
    {b : β} (h : Returns m stack action a) (hnext : Returns m stack (next a) b) :
    Returns m stack (action >>= next) b := by
  intro calls
  obtain ⟨first, hrun, hfirst⟩ := h calls
  obtain ⟨second, hrunNext, hsecond⟩ := hnext (calls ++ first)
  refine ⟨first ++ second, ?_, List.forall_mem_append.mpr ⟨hfirst, hsecond⟩⟩
  rw [StateT.run_bind, hrun, ← List.append_assoc]
  exact hrunNext

theorem returns_mapM {f : Ty → StateT Walk Option Ty} {g : Ty → Ty} {ts : List Ty}
    (h : ∀ t ∈ ts, Returns m stack (f t) (g t)) : Returns m stack (ts.mapM f) (ts.map g) := by
  induction ts with
  | nil => exact returns_pure m stack []
  | cons t ts ih =>
      rw [List.mapM_cons, List.map_cons]
      have hlater := ih fun u hu => h u (List.mem_cons_of_mem _ hu)
      exact (h t List.mem_cons_self).bind (hlater.bind (returns_pure m stack _))

theorem returns_mapChildrenM {f : Ty → StateT Walk Option Ty} {g : Ty → Ty}
    (h : ∀ c ∈ t.children, Returns m stack (f c) (g c)) :
    Returns m stack (t.mapChildrenM f) (t.mapChildren g) := by
  cases t with
  | function args result variadic =>
      have hargs := returns_mapM fun c hc => h c (List.mem_append_left _ hc)
      have hresult := h result (List.mem_append_right _ (List.mem_singleton_self result))
      exact hargs.bind (hresult.bind (returns_pure m stack _))
  | pointer pointee =>
      exact (h pointee (List.mem_singleton_self pointee)).bind (returns_pure m stack _)
  | array element length =>
      exact (h element (List.mem_singleton_self element)).bind (returns_pure m stack _)
  | tuple elements => exact (returns_mapM h).bind (returns_pure m stack _)
  | composition members => exact (returns_mapM h).bind (returns_pure m stack _)
  | _ => exact returns_pure m stack _

theorem returns_replaceOnStack_of_stays (h : Stays m stack x)
    (call : Ty → StateT Walk Option Ty) : Returns m stack (replaceOnStack m call x) (var x) := by
  rcases fixes_or_replaces m x with hfixes | ⟨u, hu⟩
  · rcases hfixes with hnone | hself
    · rw [replaceOnStack, hnone]
      exact returns_pure m stack _
    · intro calls
      refine ⟨[], ?_, nofun⟩
      simp [replaceOnStack, hself, equiv_self]
  · have hmem := h.resolve_left fun hfixes => hfixes.not_replaces hu
    intro calls
    refine ⟨[], ?_, nofun⟩
    simp [replaceOnStack, hu.1, hmem]

/-- A name is on the stack for just as long as its replacement is expanded. -/
theorem returns_replaceOnStack_of_idle {call : Ty → StateT Walk Option Ty} {result : Ty}
    (hu : m.Replaces x u) (hidle : x ∉ stack) (h : Returns m (x :: stack) (call u) result) :
    Returns m stack (replaceOnStack m call x) result := by
  have hother : u.equiv (var x) = false := Bool.eq_false_iff.mpr (mt equiv_var_iff.mp hu.2)
  intro calls
  obtain ⟨more, hrun, hmore⟩ := h calls
  refine ⟨more, ?_, hmore⟩
  simp [replaceOnStack, hu.1, hother, hidle, Walk.push, Walk.pop, hrun]

theorem Returns.asCall {action : StateT Walk Option Ty} {result : Ty} (hstack : m.Guards stack)
    (h : Returns m stack action result) : Returns m stack (asCall action) result := by
  intro calls
  obtain ⟨more, hrun, hmore⟩ := h calls
  refine ⟨more ++ [⟨stack, stack⟩], ?_, ?_⟩
  · simp [Ty.asCall, Walk.note, hrun]
  · exact List.forall_mem_append.mpr ⟨hmore, List.forall_mem_singleton.mpr ⟨hstack, rfl⟩⟩

theorem expandOnStack_succ (ht : t.var? = none) (m : Substitution) (depth : Nat) :
    expandOnStack m (depth + 1) t = asCall (t.mapChildrenM (expandOnStack m depth)) := by
  cases t with
  | var x => cases ht
  | _ => rfl

/-- Below guarded names a call on the shared stack gives what the expansion gives. The measure goes
down at every call: into a child, or into a replacement that its name pays for. -/
theorem returns_expandOnStack (hstack : m.Guards stack) (hdepth : m.callDepth stack t ≤ depth) :
    Returns m stack (expandOnStack m depth t) (t.expand m stack) := by
  induction stack, t using expand_induction m generalizing depth with
  | stays stack x hstays =>
      obtain ⟨depth, rfl⟩ := exists_eq_succ_of_callDepth_le hdepth
      rw [expand_var_of_stays hstays]
      exact .asCall hstack (returns_replaceOnStack_of_stays hstays _)
  | replaced stack x u hu hidle ih =>
      obtain ⟨depth, rfl⟩ := exists_eq_succ_of_callDepth_le hdepth
      have hlt := callDepth_lt_of_idle hu hidle
      have hcall := ih (hstack.push hu hidle) (Nat.le_of_lt_succ (Nat.lt_of_lt_of_le hlt hdepth))
      rw [expand_var_of_idle hu hidle]
      exact .asCall hstack (returns_replaceOnStack_of_idle hu hidle hcall)
  | node stack t ht ih =>
      obtain ⟨depth, rfl⟩ := exists_eq_succ_of_callDepth_le hdepth
      rw [expand_eq_mapChildren ht, expandOnStack_succ ht]
      refine .asCall hstack (returns_mapChildrenM fun c hc => ih c hc hstack ?_)
      have hlt := callDepth_lt_of_mem_children m stack hc
      exact Nat.le_of_lt_succ (Nat.lt_of_lt_of_le hlt hdepth)

/-- With one stack for all calls a substitution comes to its result on every map, whatever depth of
calls is left over. In every call the names on the stack are distinct and bound to something other
than themselves, so there are no more of them than bindings, and the call leaves them as they
were. -/
theorem substitute_guarded (t : Ty) (m : Substitution) (spare : Nat) :
    ∃ calls, (expandOnStack m (m.callDepth [] t + spare) t).run {} =
        some (t.substitute m, ⟨[], calls⟩) ∧
      ∀ call ∈ calls, call.before.Nodup ∧ (∀ x ∈ call.before, ∃ u, m.Replaces x u) ∧
        call.before.length ≤ m.size ∧ call.after = call.before := by
  obtain ⟨calls, hrun, hcalls⟩ :=
    returns_expandOnStack (guards_nil m) (Nat.le_add_right (m.callDepth [] t) spare) []
  refine ⟨calls, hrun, ?_⟩
  intro call hcall
  obtain ⟨hguards, hrestored⟩ := hcalls call hcall
  exact ⟨hguards.distinct, hguards.replaced, hguards.length_le, hrestored⟩

/-- A variable bound to a pointer to itself: the innermost call meets its own name. -/
example :
    let m : Substitution := { bindings := [("X", pointer (var "X"))] }
    (expandOnStack m 3 (var "X")).run {} = some (pointer (var "X"), ⟨[],
      [⟨["X"], ["X"]⟩, ⟨["X"], ["X"]⟩, ⟨[], []⟩]⟩) := by
  rfl

end

end Ty

end Frontend
