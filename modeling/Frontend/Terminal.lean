/- Coloured text on a terminal. -/
namespace Frontend

inductive Color where
  | black
  | red
  | green
  | yellow
  | blue
  | magenta
  | cyan
  | white
  | brightBlack
  | brightRed
  | brightGreen
  | brightYellow
  | brightBlue
  | brightMagenta
  | brightCyan
  | brightWhite
  deriving DecidableEq, Repr

def Color.number : Color → Nat
  | .black => 0
  | .red => 1
  | .green => 2
  | .yellow => 3
  | .blue => 4
  | .magenta => 5
  | .cyan => 6
  | .white => 7
  | .brightBlack => 8
  | .brightRed => 9
  | .brightGreen => 10
  | .brightYellow => 11
  | .brightBlue => 12
  | .brightMagenta => 13
  | .brightCyan => 14
  | .brightWhite => 15

/-- What a terminal can show: text alone, or eight colors. A bright color falls back on its base. -/
inductive Palette where
  | plain
  | eight
  deriving DecidableEq, Repr

inductive Piece where
  | plain (text : String)
  | painted (foreground : Color) (background : Option Color) (text : String)
  deriving DecidableEq, Repr

namespace Piece

def colorCode (lead : String) (c : Color) : String :=
  "\x1b[" ++ lead ++ toString (c.number % 8) ++ "m"

/-- The text between the codes that switch its colors on and off. -/
def render : Palette → Piece → String
  | _, plain s => s
  | .plain, painted _ _ s => s
  | .eight, painted fg bg s =>
    (bg.map (colorCode "4")).getD "" ++ colorCode "3" fg ++ s ++ "\x1b[0m"

def renderAll (palette : Palette) (pieces : List Piece) : String :=
  String.join (pieces.map (render palette))

end Piece

/-- The exit status of a program that breaks off. -/
def brokenStatus : Nat := 101

end Frontend
