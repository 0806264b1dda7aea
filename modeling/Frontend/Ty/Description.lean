/- The text of a type, from which the type can be told. -/
import Frontend.Text.Cut
import Frontend.Text.Numeric
import Frontend.Ty.Basic

namespace Frontend.Ty

def isIdentifier : List Char → Bool
  | [] => false
  | c :: cs => (Text.isAlphabetic c || c == '_') && cs.all Text.isIdentifierChar

/-- The rest of a name that starts like that of an integer type. -/
def integerWidthPart? (name : List Char) : Option (List Char) :=
  (Text.after? "UInt".toList name).or (Text.after? "Int".toList name)

/-- Whether a name reads as a builtin type, or as an integer type of any width at all. -/
def spellsBuiltin (name : String) : Bool :=
  match ofName name with
  | named _ =>
    match integerWidthPart? name.toList with
    | some digits => !digits.isEmpty && digits.all Char.isDigit
    | none => false
  | _ => true

def escapeNameChar (c : Char) : List Char := if c = '`' ∨ c = '\\' then ['\\', c] else [c]

/-- A name that is not written bare stands between ticks. -/
def tickName (name : List Char) : List Char :=
  "`".toList ++ name.flatMap escapeNameChar ++ "`".toList

/-- A nominal type is written bare only if its name cannot be read as anything else. -/
def describeName (name : String) : List Char :=
  if isIdentifier name.toList && !spellsBuiltin name then name.toList else tickName name.toList

/-- A variable has a tick in front, so that any identifier will do. -/
def describeVar (name : String) : List Char :=
  '\'' :: if isIdentifier name.toList then name.toList else tickName name.toList

/-- Types that go on to the right without a closing bracket. -/
def isOpenEnded : Ty → Bool
  | function .. => true
  | pointer pointee => pointee.isOpenEnded
  | _ => false

/-- Compositions of at least one protocol need parentheses after an arrow or a star. -/
def isCompound (t : Ty) : Bool := t.isComposition && !t.isAny

def grouped (group : Bool) (text : List Char) : List Char :=
  if group then '(' :: (text ++ [')']) else text

def describeInt (width : UInt32) (signed : Bool) : List Char :=
  (if signed then "Int".toList else "UInt".toList) ++
    if width = 64 then [] else (toString width.toNat).toList

def describeLength : Option UInt64 → List Char
  | none => []
  | some n => "; ".toList ++ (toString n.toNat).toList

def commaSeparated (texts : List (List Char)) : List Char := ", ".toList.intercalate texts

def describeArguments (texts : List (List Char)) (variadic : Bool) : List Char :=
  '(' :: (commaSeparated (if variadic then texts ++ ["...".toList] else texts) ++ [')'])

/-- A tuple of one element has a comma to tell it from parentheses. -/
def describeTuple (texts : List (List Char)) : List Char :=
  '(' :: (commaSeparated texts ++ if texts.length = 1 then ",)".toList else ")".toList)

/-- A composition of one protocol is told from the protocol by an `Any` beside it. -/
def describeComposition (texts : List (List Char)) : List Char :=
  match texts with
  | [] => "Any".toList
  | [text] => text ++ " & Any".toList
  | texts => " & ".toList.intercalate texts

/-- Types that no source can name stand between double brackets. -/
def placeholder (words : String) : List Char := "<<".toList ++ words.toList ++ ">>".toList

/-- The text of a type; `erased` leaves out the lengths of arrays. -/
def describe (erased : Bool) : Ty → List Char
  | int width signed => describeInt width signed
  | floating kind => kind.name.toList
  | bool => "Bool".toList
  | void => "Void".toList
  | named name => describeName name
  | var name => describeVar name
  | error => placeholder "error type"
  | integerLiteral => placeholder "integer literal"
  | floatingLiteral => placeholder "floating literal"
  | stringLiteral => placeholder "string literal"
  | nilLiteral => placeholder "nil literal"
  | function args result variadic =>
    describeArguments (args.map (describe erased)) variadic ++ " -> ".toList ++
      grouped result.isCompound (result.describe erased)
  | pointer pointee => '*' :: grouped pointee.isCompound (pointee.describe erased)
  | array element length =>
    '[' :: (element.describe erased ++ (if erased then [] else describeLength length) ++ [']'])
  | tuple elements => describeTuple (elements.map (describe erased))
  | composition members =>
    describeComposition (members.map fun t =>
      grouped (t.isOpenEnded || t.isComposition) (t.describe erased))
termination_by t => sizeOf t
decreasing_by all_goals exact sizeOf_lt_of_mem_children (by simp_all [children])

def description (t : Ty) : String := String.ofList (t.describe false)

/-- Types are hashed by this text, which agrees with their equality. -/
def erasedDescription (t : Ty) : String := String.ofList (t.describe true)

/-- Goes into every hash, so that a type does not hash like its text. -/
def hashSalt : UInt64 := 0x6b65737472656c31

def hashValue (hashText : String → UInt64) (t : Ty) : UInt64 :=
  hashText t.erasedDescription ^^^ hashSalt

end Frontend.Ty
