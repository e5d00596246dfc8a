/-!
# Diagnostics

What the linter reports: a rule broken on a line, and per script the list of these with their
number by severity.
-/

namespace SyncScript

inductive Severity where
  | error
  | warning
  deriving DecidableEq

def Severity.id : Severity → String
  | .error => "error"
  | .warning => "warning"

/-- One finding. Lines are counted from 1. -/
structure Diagnostic where
  ruleId : String
  severity : Severity
  line : Nat
  message : String
  deriving DecidableEq

structure LintSummary where
  errors : Nat
  warnings : Nat
  deriving DecidableEq

/-- The findings in one script, which has a name when it was read from a file. -/
structure LintReport where
  file : Option String
  diagnostics : List Diagnostic
  deriving DecidableEq

namespace LintReport

def summary (r : LintReport) : LintSummary :=
  let errors := (r.diagnostics.filter (·.severity == .error)).length
  ⟨errors, r.diagnostics.length - errors⟩

def isClean (r : LintReport) : Bool :=
  r.diagnostics.isEmpty

end LintReport

end SyncScript
