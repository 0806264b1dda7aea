/- Equality of types, the same but for the lengths of arrays, and which types convert to each other. -/
import Frontend.Ty.Basic

namespace Frontend.Ty

mutual

def equiv : Ty → Ty → Bool
  | int w₁ s₁, int w₂ s₂ => w₁ == w₂ && s₁ == s₂
  | floating k₁, floating k₂ => k₁ == k₂
  | bool, bool => true
  | void, void => true
  | named a, named b => a == b
  | var a, var b => a == b
  | error, error => true
  | integerLiteral, integerLiteral => true
  | floatingLiteral, floatingLiteral => true
  | stringLiteral, stringLiteral => true
  | nilLiteral, nilLiteral => true
  | function a₁ r₁ v₁, function a₂ r₂ v₂ => equivAll a₁ a₂ && equiv r₁ r₂ && v₁ == v₂
  | pointer a, pointer b => equiv a b
  | array a _, array b _ => equiv a b
  | tuple a, tuple b => equivAll a b
  | composition a, composition b => equivAll a b
  | _, _ => false

def equivAll : List Ty → List Ty → Bool
  | [], [] => true
  | a :: as, b :: bs => equiv a b && equivAll as bs
  | _, _ => false

end

/-- The indices of the types that equal none of those before them. -/
def freshIndices (ts : List Ty) : List Nat :=
  (List.range ts.length).filter fun i =>
    match ts[i]? with
    | none => false
    | some t => !(ts.take i).any (·.equiv t)

/-- Which types convert to each other without being told to: every type to itself, and integers to
integers, floats and pointers, and pointers to pointers, each both ways. -/
def coercesTo (a b : Ty) : Bool :=
  a.equiv b ||
    match a, b with
    | int .., int .. => true
    | int .., floating _ => true
    | floating _, int .. => true
    | int .., pointer _ => true
    | pointer _, int .. => true
    | pointer _, pointer _ => true
    | _, _ => false

end Frontend.Ty
