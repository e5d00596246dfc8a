import SyncScript.Files.Disk

/-!
# Finding the plan file

The root of a repository is the nearest directory, from a start upwards, that holds a plan file or
a Git directory. Upwards means along the text of the path, so a relative start never leaves the
working directory.
-/

namespace SyncScript

variable {m : Type → Type} [Monad m]

/-- The names a plan file may have, the preferred one first. -/
def planFileNames : List String :=
  ["repull.toml", "repull.yaml", "repull.yml"]

/-- What makes a directory the root of a repository. -/
def rootMarks : List String :=
  planFileNames ++ [".git"]

/-- A path and its parents, from the nearest to the farthest. -/
def Path.upwards (p : Path) : List Path :=
  p :: p.parents

def isRoot (disk : Disk m) (p : Path) : m Bool :=
  rootMarks.anyM fun name => disk.holds (p.join name)

/-- The nearest root from a start upwards, the start itself where there is none. -/
def detectRoot (disk : Disk m) (start : Path) : m Path :=
  (·.getD start) <$> start.upwards.findM? (isRoot disk)

def findPlanFile (disk : Disk m) (root : Path) : m (Option Path) :=
  (planFileNames.map root.join).findM? disk.holds

end SyncScript
