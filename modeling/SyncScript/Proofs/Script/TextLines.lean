import SyncScript.Proofs.Script.FixedLines
import SyncScript.Proofs.Script.SyncCommand

/-!
# The lines of a compiled script

A plan without faults puts only single lines ahead of the sync command. So the text of its script
is read as these lines, in their order, and then the lines of the command.
-/

namespace SyncScript.Plan

lemma requirementLines_off {p : Plan} (h : p.system.installDependencies = false) :
    p.requirementLines = [dependenciesSkipped] := by
  simp [requirementLines, toggledLines, h]

lemma requirementLines_empty {p : Plan} (h : p.system.installDependencies = true)
    (he : p.system.pythonPackages.names = []) :
    p.requirementLines = ["# --- Python dependencies ---",
      "# No packages listed; using the existing requirements.txt.",
      "pip3 install -r requirements.txt"] := by
  simp [requirementLines, toggledLines, h, dependencyLines, PackageList.isEmpty, he]

/-- The requirements of a plan with packages: the names stand between the line that opens a
here-document and the delimiter. -/
lemma requirementLines_packages {p : Plan} (h : p.system.installDependencies = true)
    (hne : p.system.pythonPackages.names ≠ []) :
    p.requirementLines =
      ["# --- Python dependencies ---",
        Shell.openingLine "requirements.txt" (Shell.delimiter p.system.pythonPackages.names)] ++
      p.system.pythonPackages.names ++
      [Shell.delimiter p.system.pythonPackages.names, "pip3 install -r requirements.txt"] := by
  have hempty : p.system.pythonPackages.isEmpty = false := by
    simpa [PackageList.isEmpty] using hne
  simp [requirementLines, toggledLines, h, dependencyLines, hempty, Shell.writeLines_eq]

lemma isInert_requirements :
    ∀ l ∈ ["# --- Python dependencies ---",
      "# No packages listed; using the existing requirements.txt.",
      "pip3 install -r requirements.txt"], isInert l.toList = true := by
  simp only [List.forall_mem_cons]
  repeat rw [String.toList_ofList]
  decide

lemma single_requirementLines {p : Plan} (h : p.faults = []) :
    ∀ l ∈ p.requirementLines, '\n' ∉ l.toList ∧ '\r' ∉ l.toList := by
  intro l hl
  cases hon : p.system.installDependencies with
  | false =>
    rw [requirementLines_off hon] at hl
    rw [List.mem_singleton.1 hl]
    exact single_of_isInert (isInert_skipped _ (by simp))
  | true =>
    by_cases hne : p.system.pythonPackages.names = []
    · rw [requirementLines_empty hon hne] at hl
      exact single_of_isInert (isInert_requirements l hl)
    · rw [requirementLines_packages hon hne] at hl
      simp only [List.mem_append, List.mem_cons, List.not_mem_nil, or_false] at hl
      rcases hl with ((rfl | rfl) | hname) | rfl | rfl
      · exact single_of_isInert (isInert_requirements _ (by simp))
      · exact (openingLine_single_silent _).1
      · exact ⟨not_mem_name h hname (by decide), not_mem_name h hname (by decide)⟩
      · exact single_of_isInert (isInert_delimiter _)
      · exact single_of_isInert (isInert_requirements _ (by simp))

lemma single_fixedLines {p : Plan} (h : p.faults = []) :
    ∀ l ∈ p.fixedLines.map String.toList, '\n' ∉ l ∧ '\r' ∉ l := by
  refine List.forall_mem_map.2 fun l hl => ?_
  simp only [fixedLines, List.mem_append, List.mem_singleton] at hl
  rcases hl with hsetup | hreq | rfl
  · exact single_of_isInert (p.isInert_setupLines l hsetup)
  · exact single_requirementLines h l hreq
  · decide

/-- Closing the sync command adds no line to it. -/
lemma lines_syncCommand (p : Plan) :
    Text.lines (p.syncCommand.toList ++ ['\n']) = Text.lines p.syncCommand.toList := by
  obtain ⟨cs, c, hcs, hc⟩ := p.syncCommand_concat
  rw [hcs]
  apply Text.lines_concat_newline
  · rcases hc with rfl | rfl | rfl <;> decide
  · rcases hc with rfl | rfl | rfl <;> decide

lemma lines_text {p : Plan} (h : p.faults = []) :
    Text.lines p.script.text.toList =
      p.fixedLines.map String.toList ++ Text.lines p.syncCommand.toList := by
  rw [toList_text, Text.lines_closeLines (single_fixedLines h), lines_syncCommand]

/-- The functions of the tool check stand in every script that calls them. -/
lemma toolCheckLines_infix_lines {p : Plan} (h : p.faults = [])
    (hon : p.system.installTools = true ∨ p.system.configureFirewall = true) :
    (toolCheckLines p.system.packageManager).map String.toList <:+:
      Text.lines p.script.text.toList := by
  have hblock : toolCheckLines p.system.packageManager ∈ p.setupBlocks := by
    simp [setupBlocks, hon]
  have hclosed : toolCheckLines p.system.packageManager ++ [""] <:+: p.setupLines :=
    List.infix_of_mem_flatten (List.mem_map_of_mem hblock)
  have hsetup : p.setupLines <+: p.fixedLines := List.prefix_append _ _
  have hfixed := ((List.prefix_append _ _).isInfix.trans hclosed).trans hsetup.isInfix
  rw [lines_text h]
  exact (hfixed.map String.toList).trans (List.prefix_append _ _).isInfix

lemma splitAtEach_text {p : Plan} (h : p.faults = []) :
    Text.splitAtEach '\n' p.script.text.toList =
      p.fixedLines.map String.toList ++ Text.splitAtEach '\n' (p.syncCommand.toList ++ ['\n']) := by
  rw [toList_text, Text.splitAtEach_closeLines fun l hl => (single_fixedLines h l hl).1]

lemma linesBefore_dependencies (p : Plan) :
    p.script.linesBefore .dependencies = p.setupLines.length := by
  have hsingle : ∀ l ∈ p.setupLines.map String.toList, '\n' ∉ l ∧ '\r' ∉ l :=
    List.forall_mem_map.2 fun l hl => single_of_isInert (p.isInert_setupLines l hl)
  rw [Script.linesBefore, textBefore_dependencies, Text.lines_closed hsingle, List.length_map]

lemma linesBefore_sync {p : Plan} (h : p.faults = []) :
    p.script.linesBefore .sync = p.fixedLines.length := by
  rw [Script.linesBefore, textBefore_sync, Text.lines_closed (single_fixedLines h), List.length_map]

end SyncScript.Plan
