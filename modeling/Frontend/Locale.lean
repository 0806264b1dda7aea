/- Locales: the language that messages are written in. -/
namespace Frontend

/-- A lower-case language tag such as `ko-kr`. -/
structure Locale where
  tag : String
  deriving DecidableEq, Repr

structure LocaleEnvironment where
  all : Option String := none
  messages : Option String := none
  lang : Option String := none
  deriving DecidableEq, Repr

namespace Locale

def normalChar? (c : Char) : Option Char :=
  if c = '-' ∨ c = '_' then some '-'
  else if c.isAlpha then some c.toLower
  else none

/-- Reads `ko`, `ko-KR` or `ko_KR.UTF-8`; what follows the first `.` or `@` is ignored. -/
def parse? (s : String) : Option Locale :=
  let name := s.toList.takeWhile fun c => c ≠ '.' && c ≠ '@'
  if 2 ≤ name.length ∧ name.length ≤ 8 ∧ (name.take 2).all Char.isAlpha then
    (name.mapM normalChar?).map fun tag => ⟨String.ofList tag⟩
  else none

/-- Stands in when no locale is known; messages are then in English. -/
def unknown : Locale := ⟨"xx"⟩

def language (l : Locale) : String := String.ofList (l.tag.toList.takeWhile (· ≠ '-'))

def debugText (l : Locale) : String := "<Locale " ++ l.tag ++ ">"

/-- The first variable that is set and not empty decides. -/
def ofEnvironment? (env : LocaleEnvironment) : Option Locale :=
  ([env.all, env.messages, env.lang].filterMap id).find? (· ≠ "") |>.bind parse?

def ofString (s : String) : Locale := (parse? s).getD unknown

end Locale

end Frontend
