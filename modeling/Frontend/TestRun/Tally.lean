/- Expected reports set against collected ones, as multisets. -/
import Frontend.TestFile.Expectation

namespace Frontend

/-- For every expected report the number of times that it is expected and not yet collected. -/
structure Tally where
  counts : List (Expectation × Int) := []
  /-- Whether a report was collected that is not expected at all. -/
  unforeseen : Bool := false
  deriving DecidableEq, Repr

namespace Tally

def count? (t : Tally) (e : Expectation) : Option Int := t.counts.lookup e

def adjust (e : Expectation) (change : Int) : List (Expectation × Int) → List (Expectation × Int)
  | [] => []
  | (key, n) :: rest =>
    if key = e then (key, n + change) :: rest else (key, n) :: adjust e change rest

def expect (t : Tally) (e : Expectation) : Tally :=
  if (t.count? e).isSome then { t with counts := adjust e 1 t.counts }
  else { t with counts := t.counts ++ [(e, 1)] }

def collect (t : Tally) (e : Expectation) : Tally :=
  if (t.count? e).isSome then { t with counts := adjust e (-1) t.counts }
  else { t with unforeseen := true }

/-- All expectations first, then all reports. -/
def ofReports (expected collected : List Expectation) : Tally :=
  collected.foldl collect (expected.foldl expect {})

/-- Whether every expected report came; an exact match allows no other ones either. -/
def isSatisfied (exact : Bool) (t : Tally) : Bool :=
  if exact then !t.unforeseen && t.counts.all (·.2 == 0) else t.counts.all (·.2 ≤ 0)

/-- Whether a report came more often than it is expected. -/
def isExcess (t : Tally) (e : Expectation) : Bool :=
  match t.count? e with
  | none => true
  | some n => n < 0

end Tally

end Frontend
