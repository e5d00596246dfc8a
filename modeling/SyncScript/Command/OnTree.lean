import SyncScript.Command.Run
import SyncScript.Files.Tree

/-!
# Commands on file trees

A command run on a tree in memory gives its outcome and the tree as it is afterwards.
-/

namespace SyncScript

/-- The outcome of an ending, and the tree after what it writes. A text that cannot be written
leaves the tree as it is. -/
def Ending.perform (t : FileTree) (directory : Location) : Ending → Outcome × FileTree
  | .finished outcome => (outcome, t)
  | .unresolved e => (.unresolved e.message, t)
  | .writing path text outcome =>
    match t.writeAt directory path text with
    | .ok after => (outcome (.ok ()), after)
    | .error cause => (outcome (.error cause), t)

def Command.runOn (t : FileTree) (directory : Location) (color : Bool) (c : Command) :
    Outcome × FileTree :=
  Ending.perform t directory (c.run (t.disk directory) color)

end SyncScript
