/-!
# Terminal styles

Colours and weight are switched on before a text and off after it. Without colour every style is
the identity.
-/

namespace SyncScript.Style

inductive Hue where
  | red
  | green
  | yellow
  deriving DecidableEq

def Hue.code : Hue → String
  | .red => "\x1b[31m"
  | .green => "\x1b[32m"
  | .yellow => "\x1b[33m"

def paint (color : Bool) (hue : Hue) (s : String) : String :=
  if color then hue.code ++ s ++ "\x1b[39m" else s

def bold (color : Bool) (s : String) : String :=
  if color then "\x1b[1m" ++ s ++ "\x1b[0m" else s

def paintBold (color : Bool) (hue : Hue) (s : String) : String :=
  bold color (paint color hue s)

end SyncScript.Style
