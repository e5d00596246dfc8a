import SyncScript.Command.OnTree
import SyncScript.Proofs.Lint.Compiled

/-!
# Runs of commands that need a plan

How a run ends once the question for the plan is answered: without a plan, with its faults, or with
its script.
-/

namespace SyncScript

namespace Settings

variable {s : Settings}

lemma validity_exitCode (s : Settings) (color : Bool) :
    (s.validity color).exitCode = if s.plan.faults = [] then 0 else 2 := by
  simp [validity]

section

variable (s : Settings) (script : Script) (r : LintReport) (color strict : Bool)
  (wrote : Option String)

lemma compiled_printed :
    (s.compiled script r color strict wrote).printed =
      Report.compiled script r s.form color wrote :=
  rfl

lemma compiled_exitCode :
    (s.compiled script r color strict wrote).exitCode = 0 ∨
      (s.compiled script r color strict wrote).exitCode = 1 := by
  rw [compiled]
  dsimp only
  split
  · exact Or.inr rfl
  · exact Or.inl rfl

/-- A strict compilation fails on errors in the script, and on nothing else. -/
lemma compiled_exitCode_eq_one :
    (s.compiled script r color strict wrote).exitCode = 1 ↔
      strict = true ∧ ∃ d ∈ r.diagnostics, d.severity = .error := by
  have herrors : 0 < r.summary.errors ↔ ∃ d ∈ r.diagnostics, d.severity = .error := by
    rw [LintReport.summary, List.length_pos_iff_exists_mem]
    simp
  rw [← herrors]
  simp [compiled]

end

lemma previewEnding_of_faults (h : s.plan.faults ≠ []) (color : Bool) :
    s.previewEnding color = .finished (s.validity color) := by
  rw [previewEnding, compile_of_faults h]

lemma compileEnding_of_faults (h : s.plan.faults ≠ []) (color : Bool) (write : Option String)
    (strict : Bool) : s.compileEnding color write strict = .finished (s.validity color) := by
  rw [compileEnding, compileLinted, compile_of_faults h]
  rfl

lemma previewEnding_of_valid (h : s.plan.faults = []) (color : Bool) :
    s.previewEnding color =
      .finished ⟨Report.preview s.plan.script.syncCommand s.form, 0⟩ := by
  rw [previewEnding, (compile_eq_ok_iff s.plan s.plan.script).2 ⟨h, rfl⟩]

lemma compileEnding_of_valid (h : s.plan.faults = []) (color strict : Bool) :
    s.compileEnding color none strict = .finished
      (s.compiled s.plan.script (lintReport none s.plan.script.text) color strict none) := by
  rw [compileEnding, compileLinted_eq_ok h]

end Settings

namespace Ending

variable (t : FileTree) (directory : Location)

lemma perform_withSettings (c : Choices) (ending : Settings → Ending) :
    perform t directory (withSettings (t.disk directory) c ending) =
      match (resolve (t.disk directory) c).run with
      | .error e => (.unresolved e.message, t)
      | .ok s => perform t directory (ending s) := by
  have hending : withSettings (t.disk directory) c ending =
      match (resolve (t.disk directory) c).run with
      | .error e => unresolved e
      | .ok s => ending s := by
    unfold withSettings
    change (match (resolve (t.disk directory) c).run with
      | .error e => (pure (.unresolved e) : Id Ending)
      | .ok s => pure (ending s)) = _
    split <;> rfl
  rw [hending]
  cases (resolve (t.disk directory) c).run <;> rfl

/-- A text that cannot be written leaves the tree alone, and then the command fails. -/
lemma perform_compileEnding {s : Settings} (h : s.plan.faults = []) (color : Bool) (path : String)
    (strict : Bool) :
    perform t directory (s.compileEnding color (some path) strict) =
      match t.writeAt directory ⟨path⟩ s.plan.script.text with
      | .ok after => (s.compiled s.plan.script (lintReport none s.plan.script.text) color strict
          (some path), after)
      | .error cause => (.failure
          ("Failed to write script '" ++ path ++ "': " ++ cause.message), t) := by
  rw [Settings.compileEnding, compileLinted_eq_ok h]
  cases hwrite : t.writeAt directory ⟨path⟩ s.plan.script.text with
  | ok after => simp only [perform, hwrite]
  | error cause => simp only [perform, hwrite]

end Ending

end SyncScript
