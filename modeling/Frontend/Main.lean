/- The command line: lists the tokens of the files that it is given. -/
import Frontend.Listing

namespace Frontend

def FileError.ofSystem (e : IO.Error) : FileError :=
  match e with
  | .noFileOrDirectory .. => .noSuchFile
  | .inappropriateType _ code _ => if code = 21 then .isDirectory else .notDirectory
  | e => .other (toString e)

def readBytes (path : String) : IO (Except FileError (List UInt8)) := do
  try
    return .ok (← IO.FS.readBinFile path).toList
  catch e => return .error (.ofSystem e)

/-- The variables that choose the language of reports. -/
def localeEnvironment : IO LocaleEnvironment := do
  return { all := ← IO.getEnv "LC_ALL", messages := ← IO.getEnv "LC_MESSAGES",
           lang := ← IO.getEnv "LANG" }

/-- A terminal shows colors if it has a name. -/
def palette : IO Palette := do
  return if (← IO.getEnv "TERM").isSome then .eight else .plain

end Frontend

open Frontend in
def main (paths : List String) : IO UInt32 := do
  let env ← localeEnvironment
  let palette ← palette
  for path in paths do
    let listing := Listing.ofFile env path (← readBytes path)
    IO.eprint (Piece.renderAll palette listing.shown)
    IO.print listing.text
    if listing.isBroken then return UInt32.ofNat listing.exitCode
  return 0
