import SyncScript.Document.PlanSchema
import SyncScript.Document.Soundness
import SyncScript.Document.Toml.Text
import SyncScript.Document.Yaml.Text
import SyncScript.PlanFile.Lookup

/-!
# Loading plan files

A plan file is written in YAML or in TOML, as the extension of its name says. A document that no
plan can be read from is malformed when it has no meaning at all, and refused when it means
something else than a plan.
-/

namespace SyncScript

/-- Why there is no plan. -/
inductive PlanError where
  | notFound (root : Path)
  | unreadable (path : Path) (cause : FileError)
  | malformed (markup : Markup) (path : Path)
  | refused (markup : Markup) (path : Path) (error : ReadError)
  deriving DecidableEq

def Markup.name : Markup → String
  | .json => "JSON"
  | .toml => "TOML"
  | .yaml => "YAML"

namespace PlanError

/-- The text of an error with an explanation of its own for documents without a plan. -/
def worded (explanation : String) : PlanError → String
  | notFound root =>
    "no plan file found in " ++ root.text ++ " (looked for " ++
      ", ".intercalate planFileNames ++ ")"
  | unreadable path cause => "failed to read plan file " ++ path.text ++ ": " ++ cause.message
  | malformed markup path | refused markup path _ =>
    "invalid plan " ++ markup.name ++ " " ++ path.text ++ ": " ++ explanation

def explanation : PlanError → String
  | refused markup _ e => e.message markup
  | _ => "the text is not well formed"

def message (e : PlanError) : String :=
  e.worded e.explanation

end PlanError

/-- The markup of a plan file by its extension. -/
def planMarkup (p : Path) : Markup :=
  if p.extension? = some "yaml" || p.extension? = some "yml" then .yaml else .toml

/-- The document in a plan file, `none` when the text is not well formed. -/
def planDocument? (p : Path) (text : String) : Option Document :=
  if planMarkup p = .yaml then Yaml.parse? text else Toml.parse? text

def PlanFile.ofText (p : Path) (text : String) : Except PlanError PlanFile :=
  match planDocument? p text with
  | none => .error (.malformed (planMarkup p) p)
  | some d =>
    match PlanFile.ofDocument (planMarkup p) d with
    | .ok file => .ok file
    | .error e =>
      .error (if d.isSound then .refused (planMarkup p) p e else .malformed (planMarkup p) p)

variable {m : Type → Type} [Monad m]

def loadPlanFile (disk : Disk m) (p : Path) : m (Except PlanError PlanFile) := do
  match ← disk.readText p with
  | .error cause => return .error (.unreadable p cause)
  | .ok text => return PlanFile.ofText p text

end SyncScript
