/- A directory of files, and why a path in it cannot be read. -/
import Frontend.Text.Cut
import Frontend.Text.Quoted

namespace Frontend

inductive FileError where
  | noSuchFile
  | notDirectory
  | isDirectory
  | nameTooLong
  /-- An error that the system words in its own way. -/
  | other (wording : String)
  deriving DecidableEq, Repr

namespace FileError

def code? : FileError → Option Nat
  | noSuchFile => some 2
  | notDirectory => some 20
  | isDirectory => some 21
  | nameTooLong => some 36
  | other _ => none

def name : FileError → String
  | noSuchFile => "NotFound"
  | notDirectory => "NotADirectory"
  | isDirectory => "IsADirectory"
  | nameTooLong => "InvalidFilename"
  | other _ => "Other"

def wording : FileError → String
  | noSuchFile => "No such file or directory"
  | notDirectory => "Not a directory"
  | isDirectory => "Is a directory"
  | nameTooLong => "File name too long"
  | other wording => wording

def message (e : FileError) : String :=
  match e.code? with
  | some code => e.wording ++ " (os error " ++ toString code ++ ")"
  | none => e.wording

def debug (e : FileError) : String :=
  "Os \x7b code: " ++ toString (e.code?.getD 0) ++ ", kind: " ++ e.name ++ ", message: " ++
    Text.quoteText e.wording ++ " \x7d"

end FileError

/-- What stands in a directory under a name; the directories in it are empty. -/
inductive Entry where
  | file (bytes : List UInt8)
  | directory
  deriving DecidableEq, Repr

structure Directory where
  entries : List (String × Entry) := []
  deriving DecidableEq, Repr

namespace Directory

def named? (d : Directory) (name : String) : Option Entry := d.entries.lookup name

def put (d : Directory) (name : String) (entry : Entry) : Directory :=
  ⟨(name, entry) :: d.entries.filter (·.1 ≠ name)⟩

/-- Where the names of a path have led so far: a directory, one of the empty directories in it, or
somewhere outside, where there are directories but nothing else is known. -/
inductive Place where
  | here
  | inside
  | outside
  deriving DecidableEq, Repr

/-- A name that stays in the directory where it is met. -/
def staysIn (name : String) : Bool := name == "" || name == "."

/-- The most bytes that a name can have. -/
def nameLimit : Nat := 255

def pathLimit : Nat := 4095

def missing (name : String) : FileError :=
  if name.utf8ByteSize ≤ nameLimit then .noSuchFile else .nameTooLong

def parent : Place → Place
  | .here => .outside
  | .inside => .here
  | .outside => .outside

def follow (d : Directory) (place : Place) : List String → Except FileError Entry
  | [] => .ok .directory
  | name :: rest =>
    if staysIn name then d.follow place rest
    else if name = ".." then d.follow (parent place) rest
    else
      match if place = .here then d.named? name else none with
      | none => .error (missing name)
      | some (.file bytes) => if rest.isEmpty then .ok (.file bytes) else .error .notDirectory
      | some .directory => d.follow .inside rest

/-- Whether a path leads on from the root of all directories, which is outside. -/
def isAbsolute (path : String) : Bool := path.toList.head? == some '/'

def read (d : Directory) (path : String) : Except FileError (List UInt8) :=
  if path = "" then .error .noSuchFile
  else if pathLimit < path.utf8ByteSize then .error .nameTooLong
  else
    let names := (Text.splitAt (· == '/') path.toList).map String.ofList
    match d.follow (if isAbsolute path then .outside else .here) names with
    | .error e => .error e
    | .ok .directory => .error .isDirectory
    | .ok (.file bytes) => .ok bytes

end Directory

end Frontend
