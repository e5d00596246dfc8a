import SyncScript.Lint.Rule
import SyncScript.Script.Compile

/-!
# Scripts and their findings

The text of a compiled script is linted as it stands. Findings never hold a script back; whoever
asked for it decides what they mean.
-/

namespace SyncScript

/-- The script of a plan and the report on its text. -/
def compileLinted (p : Plan) : Except CompileError (Script × LintReport) :=
  (compile p).map fun script => (script, lintReport none script.text)

end SyncScript
