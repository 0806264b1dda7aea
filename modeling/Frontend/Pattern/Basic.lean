/- Patterns for names: regular expressions and where they match. -/
import Frontend.Pattern.CharSet

namespace Frontend

/-- How word characters stand on the two sides of a gap in a text. -/
inductive Boundary where
  | edge
  | inside
  | start
  | stop
  | startHalf
  | stopHalf
  deriving DecidableEq, Repr

def Boundary.holds (before after : Bool) : Boundary → Bool
  | edge => before != after
  | inside => before == after
  | start => !before && after
  | stop => before && !after
  | startHalf => !before
  | stopHalf => !after

inductive Assertion where
  | textStart
  | textEnd
  /-- The start of a line; a carriage return ends one too, if asked for. -/
  | lineStart (withReturn : Bool)
  | lineEnd (withReturn : Bool)
  | boundary (kind : Boundary) (wordSet : CharSet)
  deriving DecidableEq, Repr

namespace Assertion

def holds (before after : Option Char) : Assertion → Bool
  | textStart => before.isNone
  | textEnd => after.isNone
  | lineStart withReturn =>
    before.isNone || before == some '\n' ||
      (withReturn && before == some '\r' && after != some '\n')
  | lineEnd withReturn =>
    if withReturn then
      after.isNone || after == some '\r' || (after == some '\n' && before != some '\r')
    else after.isNone || after == some '\n'
  | boundary kind wordSet =>
    kind.holds (before.any wordSet.contains) (after.any wordSet.contains)

end Assertion

inductive Pattern where
  | nothing
  | char (set : CharSet)
  | assertion (a : Assertion)
  | sequence (first second : Pattern)
  | choice (left right : Pattern)
  /-- From `least` times on, up to `most?` times if there is such a bound. -/
  | repeated (body : Pattern) (least : Nat) (most? : Option Nat)
  deriving DecidableEq, Repr

/-- Gaps of a text, one flag for each: before the first character, then after every one. -/
abbrev Gaps := List Bool

namespace Gaps

def all (text : List Char) : Gaps := List.replicate (text.length + 1) true

def join (left right : Gaps) : Gaps := List.zipWith (· || ·) left right

def across (text : List Char) (set : CharSet) (gaps : Gaps) : Gaps :=
  false :: List.zipWith (fun isIn c => isIn && set.contains c) gaps text

def keep (text : List Char) (a : Assertion) (gaps : Gaps) : Gaps :=
  let chars := text.map some
  let around := List.zip (none :: chars) (chars ++ [none])
  List.zipWith (fun isIn (before, after) => isIn && a.holds before after) gaps around

/-- Takes a step so many times; once it changes nothing, no further one does. -/
def iterate (step : Gaps → Gaps) : Nat → Gaps → Gaps
  | 0, gaps => gaps
  | count + 1, gaps =>
    let next := step gaps
    if next = gaps then gaps else iterate step count next

def upTo (step : Gaps → Gaps) (count : Nat) (gaps : Gaps) : Gaps :=
  iterate (fun gaps => join gaps (step gaps)) count gaps

end Gaps

namespace Pattern

/-- The gaps where a match can end that starts at one of some gaps. No match needs more rounds of a
repetition than a text has gaps, beyond the ones that have to be. -/
def advance (text : List Char) : Pattern → Gaps → Gaps
  | nothing, gaps => gaps
  | char set, gaps => gaps.across text set
  | assertion a, gaps => gaps.keep text a
  | sequence first second, gaps => second.advance text (first.advance text gaps)
  | choice left right, gaps => (left.advance text gaps).join (right.advance text gaps)
  | repeated body least most?, gaps =>
    let more := (most?.map (· - least)).getD (text.length + 1)
    Gaps.upTo (body.advance text) more (Gaps.iterate (body.advance text) least gaps)

def occursIn (p : Pattern) (text : List Char) : Bool := (p.advance text (.all text)).any id

end Pattern

end Frontend
