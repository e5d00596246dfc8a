import SyncScript.Proofs.Command.PlanOptions
import SyncScript.Proofs.Command.Runs
import SyncScript.Proofs.Output.Documents
import SyncScript.Proofs.PlanFile.Resolve

/-!
# Commands that need a plan

Validation, preview and compilation of the same plan succeed together and fail together, and what
they print belongs to the same script.
-/

namespace SyncScript

/-- What is printed for people: the script and nothing else, beside it what was found in it and how
much, and the sync command alone, with which the script ends. -/
structure ShownToPeople (script : Script) (color : Bool) (compiled previewed : Printed) : Prop where
  whole : compiled.out = script.text
  findings : compiled.err =
    String.join ((lint script.text).map fun d => d.shownLine color ++ "\n") ++
      (if color then "\x1b[1m" else "") ++ "— Summary — errors=" ++
      toString ((lint script.text).countP (·.severity == .error)) ++ " warnings=" ++
      toString ((lint script.text).countP (·.severity == .warning)) ++
      (if color then "\x1b[0m" else "") ++ "\n"
  command : previewed = { out := script.syncCommand ++ "\n" }
  last : previewed.out.toList <:+ compiled.out.toList

/-- What is printed in JSON: the script, which is its sections with blank lines between them, what
is found in this very text and how much, and the body of the section that syncs. -/
structure ShownInJson (script : Script) (compiled previewed : Printed) : Prop where
  whole : ∃ d text, Json.read? compiled.out = some d ∧
    d.member? "script" = some (.text text) ∧
    text = "\n\n".intercalate (script.sections.map Section.body) ++ "\n" ∧
    d.member? "sections" = some (.sequence (script.sections.map Section.shownDocument)) ∧
    d.member? "diagnostics" = some (.sequence ((lint text).map Diagnostic.shownDocument)) ∧
    d.member? "summary" =
      some (.mapping [(.text "errors", .integer ((lint text).countP (·.severity == .error))),
        (.text "warnings", .integer ((lint text).countP (·.severity == .warning)))])
  command : ∃ d part, Json.read? previewed.out = some d ∧ script.section? .sync = some part ∧
    d.member? "command" = some (.text part.body)

lemma diagnostics_lintReport (file : Option String) (text : String) :
    (lintReport file text).diagnostics = lint text :=
  rfl

namespace Plan

variable {p : Plan}

lemma shownToPeople (p : Plan) (color : Bool) :
    ShownToPeople p.script color
      (Report.compiled p.script (lintReport none p.script.text) .human color none)
      (Report.preview p.script.syncCommand .human) where
  whole := (Report.compiled_human _ _ _).1
  findings := by rw [(Report.compiled_human _ _ _).2, diagnostics_lintReport]
  command := Report.preview_human _
  last := by
    rw [(Report.compiled_human _ _ _).1, Report.preview_human, syncCommand_script]
    have htext : p.script.text.toList =
        (p.script.textBefore .sync).toList ++ (p.syncCommand ++ "\n").toList := by
      rw [text_eq, String.append_assoc, String.toList_append]
    exact ⟨_, htext.symm⟩

lemma shownInJson (p : Plan) (color : Bool) :
    ShownInJson p.script
      (Report.compiled p.script (lintReport none p.script.text) .json color none)
      (Report.preview p.script.syncCommand .json) where
  whole := by
    obtain ⟨hscript, hsections, hdiagnostics, hsummary⟩ :=
      Report.compiledDocument_members p.script (lintReport none p.script.text) none
    rw [diagnostics_lintReport] at hdiagnostics hsummary
    exact ⟨_, p.script.text, Json.read?_pretty (Report.isPlain_compiledDocument _ _ _), hscript,
      rfl, hsections, hdiagnostics, hsummary⟩
  command := by
    refine ⟨_, _, Json.read?_pretty (Report.isPlain_commandDocument _), p.section?_sync, ?_⟩
    rw [syncCommand_script]
    rfl

end Plan

/-- The outcomes of three commands that belong to one plan: all of them fail, or all of them
succeed and print what belongs to the script of the plan. -/
def Outcome.Agree (settings : Except PlanError Settings) (color : Bool)
    (validated previewed compiled : Outcome) : Prop :=
  (validated.exitCode = 2 ∧ previewed.exitCode = 2 ∧ compiled.exitCode = 2) ∨
  (validated.exitCode = 0 ∧ previewed.exitCode = 0 ∧ compiled.exitCode = 0) ∧
    ∃ s script, settings = .ok s ∧ compile s.plan = .ok script ∧
      (s.form = .human → ShownToPeople script color compiled.printed previewed.printed) ∧
      (s.form = .json → ShownInJson script compiled.printed previewed.printed)

namespace Command

variable (t : FileTree) (directory : Location) (color : Bool)

lemma agree_of_choices (c : Choices) :
    Outcome.Agree (resolve (t.disk directory) c).run color
      (runOn t directory color (.validate c)).1 (runOn t directory color (.preview c)).1
      (runOn t directory color (.compile c none false)).1 := by
  unfold runOn run
  -- all three begin with the same question, so from here on only its answer matters
  rw [Ending.perform_withSettings, Ending.perform_withSettings, Ending.perform_withSettings]
  cases hresolve : (resolve (t.disk directory) c).run with
  | error e => exact Or.inl ⟨rfl, rfl, rfl⟩
  | ok s =>
    have hvalidity := s.validity_exitCode color
    by_cases hfaults : s.plan.faults = []
    · rw [if_pos hfaults] at hvalidity
      have hcompile := (compile_eq_ok_iff s.plan s.plan.script).2 ⟨hfaults, rfl⟩
      dsimp only
      rw [Settings.previewEnding_of_valid hfaults, Settings.compileEnding_of_valid hfaults]
      refine Or.inr ⟨⟨hvalidity, rfl, rfl⟩, s, s.plan.script, rfl, hcompile, ?_, ?_⟩
      · intro hform
        simp only [Ending.perform, Settings.compiled_printed, hform]
        exact s.plan.shownToPeople color
      · intro hform
        simp only [Ending.perform, Settings.compiled_printed, hform]
        exact s.plan.shownInJson color
    · rw [if_neg hfaults] at hvalidity
      dsimp only
      rw [Settings.previewEnding_of_faults hfaults, Settings.compileEnding_of_faults hfaults]
      exact Or.inl ⟨hvalidity, hvalidity, hvalidity⟩

/-- Validation, preview and compilation agree on every tree and for every choice of a plan. On a
command line without `--write` and `--strict` they make the same choice, or are refused alike. -/
theorem planCommands_agree :
    (∀ c, Outcome.Agree (resolve (t.disk directory) c).run color
      (runOn t directory color (.validate c)).1 (runOn t directory color (.preview c)).1
      (runOn t directory color (.compile c none false)).1) ∧
    ∀ arguments, (∀ argument ∈ arguments, ¬ Gives "write" argument) →
      (∀ argument ∈ arguments, ¬ Gives "strict" argument) →
      (∃ r, r.exitCode = 2 ∧ ofArguments ("validate" :: arguments) = .error r ∧
        ofArguments ("preview" :: arguments) = .error r ∧
        ofArguments ("compile" :: arguments) = .error r) ∨
      ∃ c, ofArguments ("validate" :: arguments) = .ok (.validate c) ∧
        ofArguments ("preview" :: arguments) = .ok (.preview c) ∧
        ofArguments ("compile" :: arguments) = .ok (.compile c none false) :=
  ⟨agree_of_choices t directory color, fun _ => ofArguments_planCommands⟩

/-- All three commands find the plan above the start, and they succeed. -/
theorem planCommands_agree_planTree :
    ofArguments ["compile", "--repo-root=/r/a", "--dry-run"] =
      .ok (.compile planTreeChoices none false) ∧
    ∃ s script, (resolve (planTree.disk []) planTreeChoices).run = .ok s ∧
      SyncScript.compile s.plan = .ok script ∧
      (runOn planTree [] false (.compile planTreeChoices none false)).1.printed.out =
        script.text := by
  obtain ⟨hchoices, harguments⟩ := planCommands_agree planTree [] false
  have hvalidate : ofArguments ["validate", "--repo-root=/r/a", "--dry-run"] =
      .ok (.validate planTreeChoices) := by
    decide
  have hexit : (runOn planTree [] false (.validate planTreeChoices)).1.exitCode = 0 := by
    decide +kernel
  have hform : (resolve (planTree.disk []) planTreeChoices).run.toOption.map Settings.form =
      some .human := by
    decide +kernel
  constructor
  · rcases harguments ["--repo-root=/r/a", "--dry-run"] (by unfold Gives; decide)
      (by unfold Gives; decide) with ⟨r, -, hrefused, -⟩ | ⟨c, htaken, -, hcompile⟩
    · cases hvalidate.symm.trans hrefused
    · rw [hcompile]
      obtain rfl : planTreeChoices = c :=
        Command.validate.inj (Except.ok.inj (hvalidate.symm.trans htaken))
      rfl
  · rcases hchoices planTreeChoices with ⟨hfailed, -⟩ | ⟨-, s, script, hs, hscript, hpeople, -⟩
    · rw [hexit] at hfailed
      cases hfailed
    · rw [hs] at hform
      exact ⟨s, script, hs, hscript, (hpeople (Option.some.inj hform)).whole⟩

end Command

end SyncScript
