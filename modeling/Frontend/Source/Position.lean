/- Places in source files: positions, ranges of characters, and values found there. -/
namespace Frontend

/-- A file of a registry, by its place in the order of registration. -/
structure FileId where
  index : Nat
  deriving DecidableEq, Repr

/-- Files are numbered from one; zero is left for places that lie in no file. -/
def FileId.number (f : FileId) : Nat := f.index + 1

def FileId.numberOf : Option FileId → Nat
  | none => 0
  | some f => f.number

def FileId.compare (a b : Option FileId) : Ordering :=
  Ord.compare (FileId.numberOf a) (FileId.numberOf b)

/-- Offsets handed in from outside keep their low 32 bits, the width of a stored offset. -/
def storedOffset (n : Nat) : Nat := n % UInt32.size

inductive Position where
  | nowhere
  | inFile (file : FileId) (offset : Nat)
  deriving DecidableEq, Repr

namespace Position

def file? : Position → Option FileId
  | nowhere => none
  | .inFile f _ => some f

def isNowhere (p : Position) : Bool := p.file?.isNone

/-- The offset, which is zero for a position in no file. -/
def offset : Position → Nat
  | nowhere => 0
  | .inFile _ o => o

def advance (n : Nat) : Position → Position
  | nowhere => nowhere
  | .inFile f o => .inFile f (o + n)

def offsetBy (n : Nat) (p : Position) : Position := p.advance (storedOffset n)

/-- By file, then by offset; nowhere comes first. -/
def compare (a b : Position) : Ordering :=
  (FileId.compare a.file? b.file?).then (Ord.compare a.offset b.offset)

def text : Position → String
  | nowhere => "@_"
  | .inFile f o => "@" ++ toString f.number ++ "/" ++ toString o

@[simp] theorem advance_zero (p : Position) : p.advance 0 = p := by
  cases p <;> rfl

theorem advance_advance (m n : Nat) (p : Position) :
    (p.advance m).advance n = p.advance (m + n) := by
  cases p with
  | nowhere => rfl
  | inFile f o => exact congrArg (Position.inFile f) (Nat.add_assoc o m n)

end Position

/-- The characters from `start` up to but not including `stop`. -/
inductive Span where
  | nowhere
  | within (file : FileId) (start stop : Nat)
  deriving DecidableEq, Repr

inductive SpanError where
  | differentFiles
  deriving DecidableEq, Repr

def SpanError.message : SpanError → String
  | .differentFiles => "Span::new with positions from different units"

namespace Span

/-- The span between two positions, given in either order. -/
def between : Position → Position → Except SpanError Span
  | .nowhere, _ => .ok nowhere
  | _, .nowhere => .ok nowhere
  | .inFile f a, .inFile g b =>
    if f = g then .ok (within f (min a b) (max a b)) else .error .differentFiles

def point : Position → Span
  | .nowhere => nowhere
  | .inFile f o => within f o o

/-- The `n` characters from a position on. -/
def covering (n : Nat) : Position → Span
  | .nowhere => nowhere
  | .inFile f o => within f o (o + n)

def file? : Span → Option FileId
  | nowhere => none
  | within f _ _ => some f

def isNowhere (s : Span) : Bool := s.file?.isNone

def start : Span → Position
  | nowhere => .nowhere
  | within f a _ => .inFile f a

def stop : Span → Position
  | nowhere => .nowhere
  | within f _ b => .inFile f b

def length : Span → Nat
  | nowhere => 0
  | within _ a b => b - a

def positionAt (s : Span) (offset : Nat) : Position := s.start.offsetBy offset

/-- The part of a span between two offsets from its beginning. -/
def part (s : Span) (a b : Nat) : Except SpanError Span :=
  between (s.positionAt a) (s.positionAt b)

def text : Span → String
  | nowhere => "@_"
  | within f a b =>
    if a = b then (Position.inFile f a).text else (Position.inFile f a).text ++ "-" ++ toString b

def Ordered (s : Span) : Prop := s.start.offset ≤ s.stop.offset

end Span

structure Spanned (α : Type) where
  span : Span
  value : α
  deriving DecidableEq, Repr

/-- A value and its place, where `shown` is the text of the value. -/
def Spanned.text {α : Type} (shown : α → String) (s : Spanned α) : String :=
  shown s.value ++ s.span.text

end Frontend
