import SyncScript.Command.Basic
import SyncScript.Lint.Files
import SyncScript.Script.Linted

/-!
# Running commands

A command asks the disk its questions first. How it ends is then a value: what it prints and its
exit code, or a file to be written before that.
-/

namespace SyncScript

/-- What a finished command has printed, and its exit code. -/
structure Outcome where
  printed : Printed
  exitCode : Nat
  deriving DecidableEq

namespace Outcome

/-- A command that cannot go on. -/
def failure (message : String) : Outcome :=
  ⟨Report.failure message, 2⟩

def unresolved (message : String) : Outcome :=
  failure (message ++ " (pass --plan or add repull.toml)")

def refused (r : Refusal) : Outcome :=
  ⟨if r.exitCode = 0 then { out := r.message } else { err := r.message }, r.exitCode⟩

end Outcome

/-- How a command ends when all its questions are answered. -/
inductive Ending where
  | finished (outcome : Outcome)
  /-- There is no plan. -/
  | unresolved (error : PlanError)
  /-- A text goes to a file, and the outcome depends on whether it gets there. -/
  | writing (path : Path) (text : String) (outcome : Except FileError Unit → Outcome)

namespace Settings

def form (s : Settings) : OutputForm :=
  .ofName s.output

/-- Whether the plan is valid, printed with exit code 2 if it is not. -/
def validity (s : Settings) (color : Bool) : Outcome :=
  let faults := s.plan.faults.map PlanFault.message
  ⟨Report.validity faults s.form color, if faults.isEmpty then 0 else 2⟩

/-- What is said about a script and its findings, and perhaps that it was written to a file. -/
def compiled (s : Settings) (script : Script) (report : LintReport) (color strict : Bool)
    (wrote : Option String) : Outcome :=
  ⟨Report.compiled script report s.form color wrote,
    if strict && 0 < report.summary.errors then 1 else 0⟩

def compileEnding (s : Settings) (color : Bool) (write : Option String) (strict : Bool) : Ending :=
  match compileLinted s.plan with
  | .error _ => .finished (s.validity color)
  | .ok (script, report) =>
    let outcome := s.compiled script report color strict write
    match write with
    | none => .finished outcome
    | some path => .writing ⟨path⟩ script.text fun
      | .ok () => outcome
      | .error cause =>
        .failure ("Failed to write script '" ++ path ++ "': " ++ cause.message)

def previewEnding (s : Settings) (color : Bool) : Ending :=
  match compile s.plan with
  | .error _ => .finished (s.validity color)
  | .ok script => .finished ⟨Report.preview script.syncCommand s.form, 0⟩

end Settings

/-- The outcome of linting: unread files weigh more than errors in the files that were read. -/
def lintOutcome (reports : List LintReport) (failures : List ReadFailure) (form : OutputForm)
    (color : Bool) : Outcome :=
  ⟨Report.linted reports failures form color,
    if ! failures.isEmpty then 2
    else if reports.any (0 < ·.summary.errors) then 1
    else 0⟩

variable {m : Type → Type} [Monad m]

/-- Ends a command with the settings for a plan. -/
def withSettings (disk : Disk m) (c : Choices) (ending : Settings → Ending) : m Ending := do
  match ← resolve disk c with
  | .error e => return .unresolved e
  | .ok s => return ending s

def lintEnding (disk : Disk m) (arguments : List String) (form : OutputForm) (color : Bool) :
    m Ending := do
  let files ← expandTargets disk arguments
  if files.isEmpty then return .finished (.failure "No scripts matched the given paths")
  let (reports, failures) ← lintFiles disk files
  return .finished (lintOutcome reports failures form color)

namespace Command

def run (disk : Disk m) (color : Bool) : Command → m Ending
  | version => return .finished ⟨{ out := programVersion ++ "\n" }, 0⟩
  | compile choices write strict =>
    withSettings disk choices (·.compileEnding color write strict)
  | validate choices => withSettings disk choices fun s => .finished (s.validity color)
  | preview choices => withSettings disk choices (·.previewEnding color)
  | lint arguments output =>
    lintEnding disk arguments (.ofName (output.getD "human")) color

/-- Runs the command of a command line. -/
def runArguments (disk : Disk m) (color : Bool) (arguments : List String) : m Ending :=
  match ofArguments arguments with
  | .ok command => command.run disk color
  | .error refusal => return .finished (.refused refusal)

end Command

end SyncScript
