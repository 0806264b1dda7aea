/- Listings of the tokens of files, each under its path. -/
import Frontend.Diagnostic.Console
import Frontend.Directory
import Frontend.Lexer.Chunk

namespace Frontend

/-- A listing, and the reports that were shown while it was made. -/
structure Listing where
  text : String
  shown : List Piece
  /-- Whether it ends where a report could not be shown. -/
  isBroken : Bool := false
  deriving DecidableEq, Repr

def ChunkOutcome.lines : ChunkOutcome → List String
  | .tokens ts => ts.map tokenText ++ [""]
  | .stopped => [""]
  | .broken _ => []

def ChunkOutcome.isBroken : ChunkOutcome → Bool
  | .broken _ => true
  | _ => false

namespace Listing

def ofLines (path : String) (lines : List String) : String :=
  String.join ((("--== " ++ path ++ " ==--") :: lines).map (· ++ "\n"))

/-- A section: the path, then the tokens or the reason why there are none, then an empty line. -/
def ofFile (env : LocaleEnvironment) (path : String) (content : Except FileError (List UInt8)) :
    Listing :=
  match content with
  | .error e => { text := ofLines path ["error: " ++ e.message, ""], shown := [] }
  | .ok bytes =>
    let (registry, span) := Registry.add {} (.ofBytes path bytes)
    let chunk := registry.lexChunk span (Console.ofEnvironment registry env)
    { text := ofLines path chunk.outcome.lines
      shown := chunk.sink.shown
      isBroken := chunk.outcome.isBroken }

/-- The sections of several listings one after the other, up to one that is broken. -/
def join : List Listing → Listing
  | [] => { text := "", shown := [] }
  | first :: rest =>
    if first.isBroken then first
    else
      let later := join rest
      { later with text := first.text ++ later.text, shown := first.shown ++ later.shown }

def exitCode (l : Listing) : Nat := if l.isBroken then brokenStatus else 0

end Listing

end Frontend
