/- Types in place of variables. -/
import Frontend.Message
import Frontend.Ty.Description
import Frontend.Ty.Equivalence

namespace Frontend

/-- The types that variables stand for; no variable is bound twice. -/
structure Substitution where
  bindings : List (String × Ty) := []
  distinct : (bindings.map (·.1)).Nodup := by simp

namespace Substitution

def lookup (m : Substitution) (name : String) : Option Ty := m.bindings.lookup name

def size (m : Substitution) : Nat := m.bindings.length

/-- Binds a variable, in place of what it was bound to before. -/
def insert (m : Substitution) (name : String) (t : Ty) : Substitution where
  bindings := (name, t) :: m.bindings.filter fun b => b.1 != name
  distinct := by
    have hsub : ((m.bindings.filter fun b => b.1 != name).map (·.1)).Sublist
        (m.bindings.map (·.1)) := List.filter_sublist.map _
    rw [List.map_cons, List.nodup_cons]
    refine ⟨?_, List.Nodup.sublist hsub m.distinct⟩
    intro h
    obtain ⟨b, hb, hname⟩ := List.mem_map.mp h
    have := (List.mem_filter.mp hb).2
    simp [hname] at this

def ofList (bs : List (String × Ty)) : Substitution :=
  bs.foldl (fun m b => m.insert b.1 b.2) {}

/-- The bindings that are not being expanded. -/
def idle (m : Substitution) (active : List String) : List (String × Ty) :=
  m.bindings.filter fun b => !active.contains b.1

theorem mem_bindings_of_lookup {m : Substitution} {name : String} {t : Ty}
    (h : m.lookup name = some t) : (name, t) ∈ m.bindings := by
  obtain ⟨l₁, l₂, hbs, _⟩ := List.lookup_eq_some_iff.mp h
  rw [hbs]
  simp

theorem idle_cons (m : Substitution) (name : String) (active : List String) :
    m.idle (name :: active) = (m.idle active).filter fun b => b.1 != name := by
  rw [idle, idle, List.filter_filter]
  apply List.filter_congr
  intro b _
  rw [List.contains_cons]
  cases active.contains b.1 <;> cases h : b.1 == name <;> simp [bne, h]

/-- Expanding one more binding leaves fewer of them idle. -/
theorem idle_length_lt {m : Substitution} {name : String} {t : Ty} {active : List String}
    (hbound : m.lookup name = some t) (hidle : active.contains name = false) :
    (m.idle (name :: active)).length < (m.idle active).length := by
  have hmem : (name, t) ∈ m.idle active := by
    rw [idle, List.mem_filter]
    exact ⟨mem_bindings_of_lookup hbound, by simpa using hidle⟩
  rw [idle_cons]
  apply List.length_filter_lt_length_iff_exists.mpr
  exact ⟨(name, t), hmem, by simp⟩

end Substitution

namespace Ty

/-- What becomes of the variable `name` while the names in `active` are being expanded. -/
inductive Expansion (m : Substitution) (active : List String) (name : String) where
  /-- It has no binding, or is bound to itself. -/
  | unbound
  /-- It is met inside its own replacement. -/
  | cyclic
  | replaced (u : Ty) (bound : m.lookup name = some u) (idle : active.contains name = false)

/-- A variable bound to itself counts as unbound, wherever it is met. -/
def expansion (m : Substitution) (active : List String) (name : String) :
    Expansion m active name :=
  match hbound : m.lookup name with
  | none => .unbound
  | some u =>
    if u.equiv (var name) then .unbound
    else
      match hidle : active.contains name with
      | true => .cyclic
      | false => .replaced u hbound hidle

/-- Replaces the variables of a type and then those of their replacements. -/
def expand (m : Substitution) (active : List String) (t : Ty) : Ty :=
  match t with
  | var name =>
    match expansion m active name with
    | .replaced u _ _ => u.expand m (name :: active)
    | _ => var name
  | t => t.mapChildrenMem fun c _h => c.expand m active
termination_by ((m.idle active).length, sizeOf t)
decreasing_by
  · exact Prod.Lex.left _ _ (Substitution.idle_length_lt ‹_› ‹_›)
  · exact Prod.Lex.right _ (sizeOf_lt_of_mem_children _h)

/-- The variables left in place because they were met inside their own replacements, in the
order in which they were met. -/
def cyclesMet (m : Substitution) (active : List String) (t : Ty) : List String :=
  match t with
  | var name =>
    match expansion m active name with
    | .replaced u _ _ => u.cyclesMet m (name :: active)
    | .cyclic => [name]
    | .unbound => []
  | t => t.children.attach.flatMap fun ⟨c, _h⟩ => c.cyclesMet m active
termination_by ((m.idle active).length, sizeOf t)
decreasing_by
  · exact Prod.Lex.left _ _ (Substitution.idle_length_lt ‹_› ‹_›)
  · exact Prod.Lex.right _ (sizeOf_lt_of_mem_children _h)

def substitute (t : Ty) (m : Substitution) : Ty := t.expand m []

def cycleWarning (name : String) : LogRecord :=
  ⟨.warn, "cyclic substitution through type variable " ++ name ++ ", leaving it unresolved"⟩

/-- A substitution tells how many bindings it has, and warns of every cycle it meets. -/
def substituteRecords (t : Ty) (m : Substitution) : List LogRecord :=
  ⟨.debug, "substituting " ++ toString m.size ++ " binding(s) into " ++ t.description⟩ ::
    (t.cyclesMet m []).map cycleWarning

/-- Replaces one variable, but not inside of its replacement. -/
def substituteOne (t : Ty) (name : String) (u : Ty) : Ty :=
  match t with
  | var other => if other = name then u else var other
  | t => t.mapChildrenMem fun c _h => c.substituteOne name u
termination_by sizeOf t
decreasing_by exact sizeOf_lt_of_mem_children _h

def substituteOneRecord (t : Ty) (name : String) (u : Ty) : LogRecord :=
  ⟨.debug, "substituting " ++ u.description ++ " for " ++ name ++ " into " ++ t.description⟩

theorem substituteOne_var (name other : String) (u : Ty) :
    (var other).substituteOne name u = if other = name then u else var other := by
  rw [substituteOne]

theorem substituteOne_eq_mapChildren {t : Ty} (ht : t.var? = none) (name : String) (u : Ty) :
    t.substituteOne name u = t.mapChildren (·.substituteOne name u) := by
  cases t with
  | var other => cases ht
  | _ => rw [substituteOne]; exact mapChildrenMem_eq _ _; simp

theorem expand_eq_mapChildren {t : Ty} (ht : t.var? = none) (m : Substitution)
    (active : List String) : t.expand m active = t.mapChildren (·.expand m active) := by
  cases t with
  | var other => cases ht
  | _ => rw [expand]; exact mapChildrenMem_eq _ _; simp

end Ty

end Frontend
