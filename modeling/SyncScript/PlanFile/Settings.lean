import SyncScript.PlanFile.Load
import SyncScript.PlanFile.Lookup

/-!
# Settings

What a command works with: the plan of a repository and the form of the output. Choices made for a
single run win over the plan file, and the plan file wins over the defaults.
-/

namespace SyncScript

/-- The choices for one run. -/
structure Choices where
  repoRoot : Option String := none
  /-- The plan file to use, wherever the repository is. -/
  plan : Option String := none
  output : Option String := none
  dryRun : Option Bool := none
  packageManager : Option PackageManager := none
  deriving DecidableEq

structure Settings where
  repoRoot : Path
  planPath : Path
  plan : Plan
  output : String
  deriving DecidableEq

namespace Choices

def start (c : Choices) : Path :=
  ⟨c.repoRoot.getD "."⟩

/-- A plan with the choices in place of its own values. -/
def applyTo (c : Choices) (p : Plan) : Plan :=
  { p with
    sync := { p.sync with dryRun := c.dryRun.getD p.sync.dryRun }
    system := { p.system with packageManager := c.packageManager.getD p.system.packageManager } }

def settings (c : Choices) (root path : Path) (file : PlanFile) : Settings :=
  ⟨root, path, c.applyTo file.plan, (c.output <|> file.output).getD "human"⟩

end Choices

variable {m : Type → Type} [Monad m]

/-- The plan file that is chosen, or else the one in the root. -/
def planPath (disk : Disk m) (c : Choices) (root : Path) : m (Option Path) :=
  match c.plan with
  | some path => pure (some ⟨path⟩)
  | none => findPlanFile disk root

/-- The settings for a run. -/
def resolve (disk : Disk m) (c : Choices) : m (Except PlanError Settings) := do
  let root ← detectRoot disk c.start
  match ← planPath disk c root with
  | none => return .error (.notFound root)
  | some path => return (c.settings root path) <$> (← loadPlanFile disk path)

end SyncScript
