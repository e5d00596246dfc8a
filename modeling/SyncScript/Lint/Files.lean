import SyncScript.Files.Glob
import SyncScript.Lint.Rule
import SyncScript.Output.Report

/-!
# Linting files

The files to lint are named by paths or by patterns. Each is linted on its own, and a file that
cannot be read is reported beside the others.
-/

namespace SyncScript

variable {m : Type → Type} [Monad m]

/-- What an argument stands for: the path itself if it leads anywhere, else the paths that match
it as a pattern. -/
def argumentPaths (disk : Disk m) (argument : String) : m (List Path) := do
  if ← disk.holds ⟨argument⟩ then return [⟨argument⟩] else Glob.paths disk argument

/-- Adds a path at the end of a list unless the list has the same path already. -/
def addNew (paths : List Path) (p : Path) : List Path :=
  if paths.any p.same then paths else paths ++ [p]

/-- The files that arguments stand for, in the order of the arguments, each path once. -/
def expandTargets (disk : Disk m) (arguments : List String) : m (List Path) := do
  let found ← arguments.mapM (argumentPaths disk)
  let files ← found.flatten.filterM disk.isFile
  return files.foldl addNew []

/-- The findings in a file, under its name as seen from the working directory. -/
def lintFile (disk : Disk m) (p : Path) : m (Except ReadFailure LintReport) := do
  let name := (p.relativeTo (← disk.workingDirectory)).text
  match ← disk.readText p with
  | .ok text => return .ok (lintReport (some name) text)
  | .error cause => return .error ⟨name, cause.message⟩

def reportsOf (results : List (Except ReadFailure LintReport)) : List LintReport :=
  results.filterMap Except.toOption

def failuresOf (results : List (Except ReadFailure LintReport)) : List ReadFailure :=
  results.filterMap fun
    | .error failure => some failure
    | .ok _ => none

/-- The reports and the failures of several files, each in the order of the files. -/
def lintFiles (disk : Disk m) (paths : List Path) : m (List LintReport × List ReadFailure) := do
  let results ← paths.mapM (lintFile disk)
  return (reportsOf results, failuresOf results)

end SyncScript
