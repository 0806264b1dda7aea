/- Types: their forms, the names of the builtin ones, and what they are made of. -/
namespace Frontend

inductive FloatKind where
  | float
  | double
  | float80
  deriving DecidableEq, Repr

def FloatKind.name : FloatKind → String
  | .float => "Float"
  | .double => "Double"
  | .float80 => "Float80"

inductive Ty where
  | int (width : UInt32) (signed : Bool)
  | floating (kind : FloatKind)
  | bool
  | void
  /-- A structure, class or protocol, known by its name. -/
  | named (name : String)
  /-- A generic parameter that stands for a type. -/
  | var (name : String)
  /-- A type that could not be determined. -/
  | error
  | integerLiteral
  | floatingLiteral
  | stringLiteral
  | nilLiteral
  | function (args : List Ty) (result : Ty) (variadic : Bool)
  | pointer (pointee : Ty)
  /-- The length is not part of what makes two types equal. -/
  | array (element : Ty) (length : Option UInt64)
  | tuple (elements : List Ty)
  /-- All of the protocols at once; of none, it is the type of every value. -/
  | composition (members : List Ty)
  deriving Repr, Inhabited

namespace Ty

/-- A string is a pointer to its first character. -/
def string : Ty := pointer (int 8 true)

def any : Ty := composition []

def ofName : String → Ty
  | "Int" => int 64 true
  | "Int64" => int 64 true
  | "Int8" => int 8 true
  | "Int16" => int 16 true
  | "Int32" => int 32 true
  | "UInt" => int 64 false
  | "UInt64" => int 64 false
  | "UInt8" => int 8 false
  | "UInt16" => int 16 false
  | "UInt32" => int 32 false
  | "Float" => floating .float
  | "Double" => floating .double
  | "Float80" => floating .float80
  | "Bool" => bool
  | "Void" => void
  | "Any" => any
  | name => named name

def isInteger : Ty → Bool
  | int .. => true
  | _ => false

def isSigned : Ty → Bool
  | int _ signed => signed
  | _ => false

def isFloating : Ty → Bool
  | floating _ => true
  | _ => false

def isNumeric (t : Ty) : Bool := t.isInteger || t.isFloating

def isPointer : Ty → Bool
  | pointer _ => true
  | _ => false

def isFunction : Ty → Bool
  | function .. => true
  | _ => false

def isComposition : Ty → Bool
  | composition _ => true
  | _ => false

def isAny : Ty → Bool
  | composition members => members.isEmpty
  | _ => false

def width? : Ty → Option UInt32
  | int width _ => some width
  | _ => none

def var? : Ty → Option String
  | var name => some name
  | _ => none

/-- Under every pointer and then under one array, but not under an array and then a pointer. -/
def elementType : Ty → Ty
  | array element _ => element
  | pointer pointee => pointee.elementType
  | t => t

def pointerLevel : Ty → Nat
  | pointer pointee => 1 + pointee.pointerLevel
  | _ => 0

/-- The types right below, from left to right; a result comes after the arguments. -/
def children : Ty → List Ty
  | function args result _ => args ++ [result]
  | pointer pointee => [pointee]
  | array element _ => [element]
  | tuple elements => elements
  | composition members => members
  | _ => []

def mapChildren (f : Ty → Ty) : Ty → Ty
  | function args result variadic => function (args.map f) (f result) variadic
  | pointer pointee => pointer (f pointee)
  | array element length => array (f element) length
  | tuple elements => tuple (elements.map f)
  | composition members => composition (members.map f)
  | t => t

theorem sizeOf_lt_of_mem_children {t c : Ty} (h : c ∈ t.children) : sizeOf c < sizeOf t := by
  cases t with
  | function args result variadic =>
    rcases List.mem_append.mp h with h | h
    · have := List.sizeOf_lt_of_mem h
      simp only [function.sizeOf_spec]
      omega
    · cases List.mem_singleton.mp h
      simp only [function.sizeOf_spec]
      omega
  | pointer pointee =>
    cases List.mem_singleton.mp h
    simp only [pointer.sizeOf_spec]
    omega
  | array element length =>
    cases List.mem_singleton.mp h
    simp only [array.sizeOf_spec]
    omega
  | tuple elements =>
    have : sizeOf c < sizeOf elements := List.sizeOf_lt_of_mem h
    simp only [tuple.sizeOf_spec]
    omega
  | composition members =>
    have : sizeOf c < sizeOf members := List.sizeOf_lt_of_mem h
    simp only [composition.sizeOf_spec]
    omega
  | _ => cases h

/-- `mapChildren` for a function that is told where its argument comes from. -/
def mapChildrenMem : (t : Ty) → ((c : Ty) → c ∈ t.children → Ty) → Ty
  | function args result variadic, f =>
    function (args.attach.map fun c => f c.1 (List.mem_append_left _ c.2))
      (f result (List.mem_append_right _ (List.mem_singleton_self result))) variadic
  | pointer pointee, f => pointer (f pointee (List.mem_singleton_self pointee))
  | array element length, f => array (f element (List.mem_singleton_self element)) length
  | tuple elements, f => tuple (elements.attach.map fun c => f c.1 c.2)
  | composition members, f => composition (members.attach.map fun c => f c.1 c.2)
  | t, _ => t

theorem mapChildrenMem_eq (t : Ty) (f : Ty → Ty) :
    (t.mapChildrenMem fun c _ => f c) = t.mapChildren f := by
  cases t <;> simp [mapChildrenMem, mapChildren]

/-- What holds of a type whenever it holds of the types right below it holds of every type. -/
theorem inductionOnChildren {motive : Ty → Prop}
    (step : ∀ t : Ty, (∀ c ∈ t.children, motive c) → motive t) (t : Ty) : motive t :=
  step t fun c _h => inductionOnChildren step c
termination_by sizeOf t
decreasing_by exact sizeOf_lt_of_mem_children _h

/-- The type itself and then every type nested in it, from left to right. -/
def parts (t : Ty) : List Ty :=
  t :: t.children.attach.flatMap fun ⟨c, _h⟩ => c.parts
termination_by sizeOf t
decreasing_by exact sizeOf_lt_of_mem_children _h

theorem parts_eq (t : Ty) : t.parts = t :: t.children.flatMap parts := by
  rw [parts]
  exact congrArg (List.cons t) (by simp [List.flatMap_subtype])

/-- The names of the variables in the order of the parts, with repetitions. -/
def freeVariables (t : Ty) : List String := t.parts.filterMap var?

def mentions (t : Ty) (name : String) : Bool := t.parts.any (·.var? = some name)

def isLiteral : Ty → Bool
  | integerLiteral => true
  | floatingLiteral => true
  | stringLiteral => true
  | nilLiteral => true
  | _ => false

/-- Types that should be gone once everything is resolved. -/
def isTransient : Ty → Bool
  | error => true
  | t => t.isLiteral

def isResolved (t : Ty) : Bool := t.parts.all fun p => !p.isTransient && p.var?.isNone

/-- The type of a literal that nothing else decides; `nil` has none. -/
def literalFallback : Ty → Ty
  | integerLiteral => int 64 true
  | floatingLiteral => floating .double
  | stringLiteral => string
  | t => t

end Ty

end Frontend
