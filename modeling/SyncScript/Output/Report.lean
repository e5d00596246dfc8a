import SyncScript.Document.Json
import SyncScript.Lint.Diagnostic
import SyncScript.Output.Style
import SyncScript.Script.Compile

/-!
# Reports

What the commands print, for people or in JSON. For people a script goes to standard output and
everything said about it to standard error, so the script can be piped.
-/

namespace SyncScript

/-- The form of the output. -/
inductive OutputForm where
  | human
  | json
  deriving DecidableEq

/-- Every name but `json` asks for the form for people. -/
def OutputForm.ofName (name : String) : OutputForm :=
  if name = "json" then .json else .human

/-- What a command writes to standard output and to standard error. -/
structure Printed where
  out : String := ""
  err : String := ""
  deriving DecidableEq

/-- A script that could not be read, and why. -/
structure ReadFailure where
  file : String
  message : String
  deriving DecidableEq

namespace Report

open Style

def errorMark (color : Bool) : String :=
  paintBold color .red "❌ error:"

def severityMark (color : Bool) : Severity → String
  | .error => "❌ " ++ paintBold color .red "[ERROR]"
  | .warning => "⚠️ " ++ paintBold color .yellow "[WARN]"

/-- A finding on one line, with the file and line or the line alone. -/
def diagnosticLine (d : Diagnostic) (file : Option String) (color : Bool) : String :=
  let place := match file with
    | some f => f ++ ":" ++ toString d.line
    | none => "line " ++ toString d.line
  severityMark color d.severity ++ " " ++ bold color place ++ " (rule=" ++ d.ruleId ++ ") — " ++
    d.message

def summaryLine (s : LintSummary) (files : Option Nat) (color : Bool) : String :=
  bold color ("— Summary — errors=" ++ toString s.errors ++ " warnings=" ++ toString s.warnings ++
    match files with
    | some n => " files=" ++ toString n
    | none => "")

/-- Lines, each with its line end. -/
def printLines (lines : List String) : String :=
  String.join (lines.map (· ++ "\n"))

def jsonText (d : Document) : String :=
  Json.pretty 0 d ++ "\n"

def count (n : Nat) : Document :=
  .integer n

def entry (name : String) (value : Document) : Document × Document :=
  (.text name, value)

def diagnosticDocument (d : Diagnostic) : Document :=
  .mapping [entry "rule_id" (.text d.ruleId), entry "severity" (.text d.severity.id),
    entry "line" (count d.line), entry "message" (.text d.message)]

def summaryDocument (s : LintSummary) : Document :=
  .mapping [entry "errors" (count s.errors), entry "warnings" (count s.warnings)]

def reportDocument (r : LintReport) : Document :=
  .mapping ((r.file.map fun f => entry "file" (.text f)).toList ++
    [entry "diagnostics" (.sequence (r.diagnostics.map diagnosticDocument)),
      entry "summary" (summaryDocument r.summary)])

def sectionDocument (s : Section) : Document :=
  .mapping [entry "kind" (.text s.kind.id), entry "populated" (.bool s.populated),
    entry "body" (.text s.body)]

def compiledDocument (s : Script) (r : LintReport) (wrote : Option String) : Document :=
  .mapping [entry "script" (.text s.text),
    entry "sections" (.sequence (s.sections.map sectionDocument)),
    entry "diagnostics" (.sequence (r.diagnostics.map diagnosticDocument)),
    entry "summary" (summaryDocument r.summary),
    entry "wrote" ((wrote.map Document.text).getD .null)]

/-- A compiled script with the findings in it; the script itself is shown unless it was written
to a file. -/
def compiled (s : Script) (r : LintReport) (form : OutputForm) (color : Bool)
    (wrote : Option String) : Printed :=
  match form with
  | .json => { out := jsonText (compiledDocument s r wrote) }
  | .human =>
    let findings := r.diagnostics.map (diagnosticLine · none color) ++
      [summaryLine r.summary none color]
    match wrote with
    | none => { out := s.text, err := printLines findings }
    | some path =>
      let wrote := paintBold color .green "📝 wrote:" ++ " " ++ bold color path
      { err := printLines (wrote :: findings) }

def validityDocument (faults : List String) : Document :=
  .mapping [entry "valid" (.bool faults.isEmpty), entry "errors" (.sequence (faults.map .text))]

/-- Whether a plan is valid, or else what is wrong with it. -/
def validity (faults : List String) (form : OutputForm) (color : Bool) : Printed :=
  match form with
  | .json => { out := jsonText (validityDocument faults) }
  | .human =>
    if faults.isEmpty then
      { out := printLines [paint color .green "✅" ++ " " ++ bold color "Plan is valid."] }
    else { err := printLines (faults.map fun f => errorMark color ++ " " ++ f) }

/-- The sync command alone. -/
def preview (command : String) (form : OutputForm) : Printed :=
  match form with
  | .json => { out := jsonText (.mapping [entry "command" (.text command)]) }
  | .human => { out := printLines [command] }

/-- The findings of several reports together. -/
def total (reports : List LintReport) : LintSummary :=
  reports.foldr (fun r t => ⟨r.summary.errors + t.errors, r.summary.warnings + t.warnings⟩) ⟨0, 0⟩

def lintDocument (reports : List LintReport) (failures : List ReadFailure) : Document :=
  let t := total reports
  .mapping [entry "results" (.sequence (reports.map reportDocument)),
    entry "errors" (.sequence (failures.map fun f =>
      .mapping [entry "file" (.text f.file), entry "message" (.text f.message)])),
    entry "summary" (.mapping [entry "errors" (count t.errors), entry "warnings" (count t.warnings),
      entry "files" (count reports.length)])]

/-- The findings in several files, and the files that could not be read. -/
def linted (reports : List LintReport) (failures : List ReadFailure) (form : OutputForm)
    (color : Bool) : Printed :=
  match form with
  | .json => { out := jsonText (lintDocument reports failures) }
  | .human =>
    { out := printLines (reports.flatMap (fun r =>
          r.diagnostics.map (diagnosticLine · r.file color)) ++
        [summaryLine (total reports) (some reports.length) color])
      err := printLines (failures.map fun f =>
        errorMark color ++ " " ++ f.file ++ ": " ++ f.message) }

/-- A message that ends a command. It is in colour whatever the settings. -/
def failure (message : String) : Printed :=
  { err := printLines [errorMark true ++ " " ++ message] }

end Report

end SyncScript
