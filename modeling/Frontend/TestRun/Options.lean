/- The options of a test session, and the command line that sets them. -/
namespace Frontend

structure Options where
  verbose : Bool := false
  exactReports : Bool := false
  localeName : String := "en"
  stopOnPanic : Bool := false
  keepSpans : Bool := false
  pattern? : Option String := none
  deriving DecidableEq, Repr

namespace Options

/-- An argument may start with plus signs in place of hyphens. -/
def hyphened (argument : String) : List Char :=
  let cs := argument.toList
  (cs.takeWhile (· == '+')).map (fun _ => '-') ++ cs.dropWhile (· == '+')

def setShort? (o : Options) : Char → Option Options
  | 'v' => some { o with verbose := true }
  | 'e' => some { o with exactReports := true }
  | 'p' => some { o with stopOnPanic := true }
  | 's' => some { o with keepSpans := true }
  | _ => none

def setLong? (o : Options) : String → Option Options
  | "verbose" => o.setShort? 'v'
  | "exact-diags" => o.setShort? 'e'
  | "stop-on-panic" => o.setShort? 'p'
  | "keep-spans" => o.setShort? 's'
  | _ => none

def localeOption : List Char := "message-locale".toList

/-- The value of an option in the argument after it; none that looks like an option itself, which
a hyphen alone does not. -/
def takesValue (value : List Char) : Bool := value.head? != some '-' || value == ['-']

/-- A value in the same argument as its option stands after any number of equals signs. -/
def withLocale (o : Options) (value : List Char) : Options :=
  { o with localeName := String.ofList (value.dropWhile (· == '=')) }

/-- Short options in one argument; the locale takes the rest of it, if there is any. The second
part says whether a value is still to come. -/
def setCluster? (o : Options) : List Char → Option (Options × Bool)
  | [] => some (o, false)
  | 'l' :: [] => some (o, true)
  | 'l' :: value => some (o.withLocale value, false)
  | c :: cs => (o.setShort? c).bind (·.setCluster? cs)

def setPattern? (o : Options) (argument : List Char) : Option Options :=
  if o.pattern?.isSome then none else some { o with pattern? := some (String.ofList argument) }

/-- A long option, after its hyphens: the locale takes what stands after an equals sign, and a
switch does not mind it. -/
def setNamed? (o : Options) (text : List Char) : Option (Options × Bool) :=
  let name := text.takeWhile (· != '=')
  if name = localeOption then
    if text.contains '=' then some (o.withLocale (text.drop name.length), false)
    else some (o, true)
  else (o.setLong? (String.ofList name)).map fun o => (o, false)

/-- Options given by one argument, and whether the next one is the value of the last of them. -/
def setArgument? (o : Options) : List Char → Option (Options × Bool)
  | '-' :: '-' :: name => o.setNamed? (name.dropWhile (· == '-'))
  | '-' :: c :: cs => o.setCluster? (c :: cs)
  | argument => (o.setPattern? argument).map fun o => (o, false)

def readArguments? (o : Options) : List (List Char) → Option Options
  | [] => some o
  | argument :: rest =>
    if argument = ['-', '-'] then rest.foldlM setPattern? o
    else
      match o.setArgument? argument with
      | none => none
      | some (o, false) => readArguments? o rest
      | some (o, true) =>
        match rest with
        | [] => none
        | value :: rest =>
          if takesValue value then
            readArguments? { o with localeName := String.ofList value } rest
          else none

def ofArguments? (arguments : List String) : Option Options :=
  readArguments? {} (arguments.map hyphened)

end Options

end Frontend
