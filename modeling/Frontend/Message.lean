/- Messages that can be shown in any language, and the records of a log. -/
import Frontend.Locale
import Frontend.Text.Quoted

namespace Frontend

/-- A value as its author sees it and as readers of each locale see it. -/
structure Message where
  debug : String
  inLocale : Locale → String

namespace Message

/-- Plain text reads the same everywhere. -/
def ofText (s : String) : Message := ⟨Text.quoteText s, fun _ => s⟩

/-- A wording with places for the arguments of a message. -/
inductive Part where
  | words (s : String)
  | slot (name : String)
  deriving DecidableEq, Repr

/-- A kind of message: a wording for each language that has one, and one for all others. -/
structure Form where
  name : String
  translations : List (String × List Part) := []
  fallback : List Part
  deriving DecidableEq, Repr

def Form.wording (form : Form) (l : Locale) : List Part :=
  (form.translations.lookup l.language).getD form.fallback

def Part.fill (args : List (String × Message)) (l : Locale) : Part → String
  | .words s => s
  | .slot name => ((args.lookup name).map (·.inLocale l)).getD ""

/-- The name of the form with the fields in braces, if it has any. -/
def Form.debug (form : Form) (args : List (String × Message)) : String :=
  if args.isEmpty then form.name
  else
    form.name ++ " \x7b " ++
      String.intercalate ", " (args.map fun (name, arg) => name ++ ": " ++ arg.debug) ++ " \x7d"

def Form.fill (form : Form) (args : List (String × Message)) : Message where
  debug := form.debug args
  inLocale l := String.join ((form.wording l).map (·.fill args l))

def Form.plain (name korean english : String) : Form :=
  { name, translations := [("ko", [.words korean])], fallback := [.words english] }

end Message

inductive LogLevel where
  | trace
  | debug
  | info
  | warn
  deriving DecidableEq, Repr

def LogLevel.name : LogLevel → String
  | .trace => "TRACE"
  | .debug => "DEBUG"
  | .info => "INFO"
  | .warn => "WARN"

/-- What the library tells about its work on the side. -/
structure LogRecord where
  level : LogLevel
  text : String
  deriving DecidableEq, Repr

def LogRecord.line (r : LogRecord) : String := r.level.name ++ " " ++ r.text

end Frontend
