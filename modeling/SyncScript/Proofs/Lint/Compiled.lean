import SyncScript.Proofs.Lint.Packages
import SyncScript.Proofs.Script.Requirements
import SyncScript.Script.Linted

/-!
# Findings in compiled scripts

The linter passes everything that the compiler writes by itself. What it reports in a compiled
script are package names that read like expansions, and whatever it finds in the sync command.
-/

namespace SyncScript

lemma compileLinted_eq_ok {p : Plan} (h : p.faults = []) :
    compileLinted p = .ok (p.script, lintReport none p.script.text) := by
  rw [compileLinted, (compile_eq_ok_iff p p.script).2 ⟨h, rfl⟩]
  rfl

lemma lintFrom_of_isInert {ls : List String} (h : ∀ l ∈ ls, isInert l.toList = true) (first : Nat) :
    lintFrom first (ls.map String.toList) = [] := by
  rw [lintFrom_eq_nil_iff, List.forall_mem_map]
  exact fun l hl => silent_of_isInert (h l hl)

/-- Lines that are joined to a text are read back; only an empty last one is lost. -/
lemma mem_lines_unlines {ls : List String} (hne : ls ≠ [])
    (h : ∀ l ∈ ls.map String.toList, '\n' ∉ l ∧ '\r' ∉ l) {line : List Char}
    (hline : line ∈ Text.lines (unlines ls).toList) : line ∈ ls.map String.toList := by
  have hclose := closeLines_unlines hne
  obtain hnil | ⟨init, last, rfl⟩ := ls.eq_nil_or_concat'
  · exact absurd hnil hne
  · rw [List.map_append, Text.closeLines_append, List.map_singleton, Text.closeLines_cons,
      Text.closeLines_nil, ← List.append_assoc] at hclose
    rw [List.map_append, List.map_singleton] at h ⊢
    have hlast : '\n' ∉ last.toList := (h _ (by simp)).1
    rw [← List.append_cancel_right hclose, Text.lines_closeLines fun l hl => h l (by simp [hl]),
      List.mem_append] at hline
    rw [List.mem_append]
    refine hline.imp_right fun hline => ?_
    simp only [Text.lines, Text.splitAtEach_eq_singleton hlast] at hline
    simpa using (List.mem_filter.1 hline).1

lemma lint_unlines {ls : List String} (hne : ls ≠ []) (h : ∀ l ∈ ls, isInert l.toList = true) :
    lint (unlines ls) = [] := by
  have hinert : ∀ l ∈ ls.map String.toList, isInert l = true := List.forall_mem_map.2 h
  rw [lint_eq, lintFrom_eq_nil_iff]
  intro line hline
  have hmem := mem_lines_unlines hne (fun l hl => single_of_isInert (hinert l hl)) hline
  exact silent_of_isInert (hinert line hmem)

namespace Plan

/-- The findings on the package names of a plan, at the lines where its script has them. -/
def nameFindings (p : Plan) : List Diagnostic :=
  if p.system.installDependencies then
    packageFindings (p.setupLines.length + 3) p.system.pythonPackages.names
  else []

lemma isInert_requirementLines {p : Plan} (h : p.system.installDependencies = true →
    p.system.pythonPackages.names = []) : ∀ l ∈ p.requirementLines, isInert l.toList = true := by
  intro l hl
  cases hon : p.system.installDependencies with
  | false =>
    rw [requirementLines_off hon] at hl
    rw [List.mem_singleton.1 hl]
    exact isInert_skipped _ (by simp)
  | true =>
    rw [requirementLines_empty hon (h hon)] at hl
    exact isInert_requirements l hl

lemma lintFrom_requirementLines {p : Plan} (h : p.faults = []) :
    lintFrom (p.setupLines.length + 1) (p.requirementLines.map String.toList) =
      p.nameFindings := by
  by_cases hplain : p.system.installDependencies = true → p.system.pythonPackages.names = []
  · rw [lintFrom_of_isInert (isInert_requirementLines hplain), nameFindings]
    split
    · rename_i hon
      rw [hplain hon]
      rfl
    · rfl
  · obtain ⟨hon, hne⟩ := Classical.not_imp.1 hplain
    have hopen : ∀ first, lintFrom first ([("# --- Python dependencies ---" : String),
        Shell.openingLine "requirements.txt" (Shell.delimiter p.system.pythonPackages.names)].map
          String.toList) = [] := by
      intro first
      refine (lintFrom_eq_nil_iff _ _).2 ?_
      simp only [List.map_cons, List.map_nil, List.forall_mem_cons]
      exact ⟨silent_of_isInert (isInert_requirements _ (by simp)),
        (openingLine_single_silent _).2, by simp⟩
    have hclose : ∀ first, lintFrom first ([Shell.delimiter p.system.pythonPackages.names,
        "pip3 install -r requirements.txt"].map String.toList) = [] := by
      refine lintFrom_of_isInert ?_
      simp only [List.forall_mem_cons]
      exact ⟨isInert_delimiter _, isInert_requirements _ (by simp), by simp⟩
    rw [requirementLines_packages hon hne, List.map_append, List.map_append, lintFrom_append,
      lintFrom_append, hopen, hclose, lintFrom_names h, nameFindings, if_pos hon]
    simp

/-- The findings in the text of a script, part by part. -/
lemma lint_text {p : Plan} (h : p.faults = []) :
    lint p.script.text = p.nameFindings ++
      (lint p.syncCommand).map (Diagnostic.moved p.fixedLines.length) := by
  have hfixed : lintFrom 1 (p.fixedLines.map String.toList) = p.nameFindings := by
    rw [fixedLines, List.map_append, List.map_append, lintFrom_append, lintFrom_append,
      lintFrom_of_isInert p.isInert_setupLines, List.length_map, Nat.add_comm 1,
      lintFrom_requirementLines h, lintFrom_of_isInert (by decide)]
    simp
  rw [lint_eq, lines_text h, lintFrom_append, hfixed, List.length_map, lintFrom_add, ← lint_eq]

lemma severity_of_mem_nameFindings {p : Plan} {d : Diagnostic} (h : d ∈ p.nameFindings) :
    d.severity = .warning := by
  unfold nameFindings at h
  split at h
  · exact severity_of_mem_packageFindings h
  · cases h

lemma names_in_text {p : Plan} (h : p.faults = []) (hon : p.system.installDependencies = true)
    {j : Nat} {name : String} (hj : p.system.pythonPackages.names[j]? = some name) :
    (Text.lines p.script.text.toList)[p.setupLines.length + 2 + j]? = some name.toList := by
  have hlt : j < p.system.pythonPackages.names.length := (List.getElem?_eq_some_iff.1 hj).1
  have hne : p.system.pythonPackages.names ≠ [] := List.ne_nil_of_length_pos (by omega)
  rw [lines_text h, fixedLines, requirementLines_packages hon hne]
  simp only [List.map_append, List.append_assoc]
  -- past the lines ahead of the names, and not yet behind the last name
  rw [List.getElem?_append_right (by simp; omega), List.getElem?_append_right (by simp; omega),
    List.getElem?_append_left (by simp; omega)]
  simp only [List.length_map, List.length_cons, List.length_nil, List.getElem?_map]
  rw [show p.setupLines.length + 2 + j - p.setupLines.length - (0 + 1 + 1) = j by omega, hj]
  rfl

/-- Every section but the sync command and the package names is clean. -/
lemma lint_section {p : Plan} {part : Section} (hmem : part ∈ p.script.sections)
    (hsync : part.kind ≠ .sync)
    (hdeps : part.kind = .dependencies → p.system.installDependencies = true →
      p.system.pythonPackages.names = []) : lint part.body = [] := by
  rw [script, sections_eq] at hmem
  simp only [List.mem_append, List.mem_cons, List.not_mem_nil, or_false] at hmem
  rcases hmem with hsetup | rfl | rfl
  · have hbody : part.body ∈ p.setupBlocks.map unlines := by
      rw [← map_body_setupSections]
      exact List.mem_map_of_mem hsetup
    obtain ⟨block, hblock, hunlines⟩ := List.mem_map.1 hbody
    rw [← hunlines]
    refine lint_unlines (setupBlocks_ne_nil hblock) fun l hl => p.isInert_setupLines l ?_
    exact List.mem_flatMap.2 ⟨block, hblock, List.mem_append_left _ hl⟩
  · rw [requirementSection, toggled_body]
    refine lint_unlines p.requirementLines_ne_nil (isInert_requirementLines ?_)
    exact hdeps (toggled_kind _ _ _ _)
  · exact absurd rfl hsync

/-- The command as a line of its own: it holds a double quote and does not end in a bracket, so only
two of the rules can flag it. -/
lemma isSilent_syncCommand (p : Plan) :
    isSilent p.syncCommand.toList =
      (isSkippedLine p.syncCommand.toList ||
        (! isSpacedAssignment p.syncCommand.toList &&
          ! lacksSpaceAfterBracket (Text.trim p.syncCommand.toList))) := by
  have hquote : '"' ∈ Text.trim p.syncCommand.toList := by
    refine Text.mem_trim ?_ (by decide)
    simp [syncCommand, Shell.doubleQuoted]
  have hexpansion : isUnquotedExpansion (Text.trim p.syncCommand.toList) = false := by
    simp [isUnquotedExpansion, hquote]
  have hbracket : lacksSpaceBeforeBracket (Text.trim p.syncCommand.toList) = false := by
    obtain ⟨cs, c, hcs, hc⟩ := p.syncCommand_concat
    have hspace : Text.isSpace c = false := by rcases hc with rfl | rfl | rfl <;> decide
    have hne : c ≠ ']' := by rcases hc with rfl | rfl | rfl <;> decide
    obtain ⟨ds, hds⟩ := Text.trim_concat hspace cs
    have hend : [']'].isSuffixOf (ds ++ [c]) = false := by
      rw [← Bool.not_eq_true, List.isSuffixOf_iff_suffix]
      intro hsuffix
      exact hne (by simpa using (hsuffix.getLast (by simp)).symm)
    rw [lacksSpaceBeforeBracket, hcs, hds, hend, Bool.false_and, Bool.false_and]
  simp [isSilent, LintRule.all, LintRule.flags, hexpansion, hbracket]

lemma lines_syncCommand_of_single {p : Plan} (h : '\n' ∉ p.syncCommand.toList) :
    Text.lines p.syncCommand.toList = [p.syncCommand.toList] := by
  obtain ⟨cs, c, hcs, -⟩ := p.syncCommand_concat
  rw [Text.lines, Text.splitAtEach_eq_singleton h]
  simp [hcs]

end Plan

/-- What the linter reports in the script of a plan: one warning for each package name that reads
like an expansion, at the line of the name, and then the findings in the sync command, moved to
where it stands. All other text is clean, and errors come from the sync command alone. -/
theorem compileLinted_findings {p : Plan} {s : Script} (h : compile p = .ok s) :
    compileLinted p = .ok (s, ⟨none,
      (if p.system.installDependencies then
        packageFindings (s.linesBefore .dependencies + 3) p.system.pythonPackages.names else []) ++
        (lint s.syncCommand).map (Diagnostic.moved (s.linesBefore .sync))⟩) ∧
    (p.system.installDependencies = true → ∀ j name,
      p.system.pythonPackages.names[j]? = some name →
      (Text.lines s.text.toList)[s.linesBefore .dependencies + 2 + j]? = some name.toList) ∧
    (Text.lines s.text.toList).drop (s.linesBefore .sync) = Text.lines s.syncCommand.toList ∧
    (∀ part ∈ s.sections, part.kind ≠ .sync →
      (part.kind = .dependencies → p.system.installDependencies = true →
        p.system.pythonPackages.names = []) → lint part.body = []) ∧
    (∀ d ∈ lint s.text, d.severity = .error →
      ∃ e ∈ lint s.syncCommand, d = e.moved (s.linesBefore .sync)) ∧
    (lintReport none s.text).summary.errors = (lintReport none s.syncCommand).summary.errors := by
  obtain ⟨hfaults, rfl⟩ := (compile_eq_ok_iff p s).1 h
  have htext := Plan.lint_text hfaults
  rw [Plan.linesBefore_dependencies, Plan.linesBefore_sync hfaults, Plan.syncCommand_script]
  refine ⟨?_, fun hon j name => Plan.names_in_text hfaults hon, ?_,
    fun part => Plan.lint_section, ?_, ?_⟩
  · rw [compileLinted_eq_ok hfaults, lintReport, htext, Plan.nameFindings]
  · rw [Plan.lines_text hfaults]
    exact List.drop_left' (List.length_map _)
  · intro d hd herror
    rw [htext, List.mem_append] at hd
    rcases hd with hname | hsync
    · rw [Plan.severity_of_mem_nameFindings hname] at herror
      cases herror
    · obtain ⟨e, he, rfl⟩ := List.mem_map.1 hsync
      exact ⟨e, he, rfl⟩
  · have hnames : p.nameFindings.filter (·.severity == .error) = [] :=
      List.filter_eq_nil_iff.2 fun d hd => by simp [Plan.severity_of_mem_nameFindings hd]
    simp only [lintReport, LintReport.summary]
    rw [htext, List.filter_append, hnames, List.filter_map, List.nil_append, List.length_map]
    rfl

lemma lint_localPlan (packages : List String) :
    lint (localPlan packages).script.syncCommand = [] := by
  rw [Plan.syncCommand_script]
  change lint (localPlan []).syncCommand = []
  decide

/-- A package that reads like an expansion is reported where it stands. -/
theorem compileLinted_findings_of_name :
    compile (localPlan ["requests", "$LIB"]) = .ok (localPlan ["requests", "$LIB"]).script ∧
    compileLinted (localPlan ["requests", "$LIB"]) = .ok ((localPlan ["requests", "$LIB"]).script,
      ⟨none, [⟨"SC2086", .warning, 10, LintRule.unquotedExpansion.message⟩]⟩) := by
  have hok := compile_localPlan ["requests", "$LIB"] (by decide)
  have hlint := (compileLinted_findings hok).1
  have hbefore : (localPlan ["requests", "$LIB"]).script.linesBefore .dependencies = 6 :=
    Plan.linesBefore_dependencies _
  have hnames : packageFindings 9 (localPlan ["requests", "$LIB"]).system.pythonPackages.names =
      [⟨"SC2086", .warning, 10, LintRule.unquotedExpansion.message⟩] := by
    decide
  rw [hbefore, hnames, lint_localPlan] at hlint
  exact ⟨hok, hlint⟩

/-- The script of a plan is clean exactly when no package name reads like an expansion and no line
of the sync command is flagged. A command on one line is flagged only as a spaced assignment or for
a bracket without a space, and not at all if it begins as a comment. -/
theorem compileLinted_isClean_iff {p : Plan} {s : Script} (h : compile p = .ok s) :
    ∃ report, compileLinted p = .ok (s, report) ∧
      (report.isClean = true ↔
        (p.system.installDependencies = true →
          ∀ name ∈ p.system.pythonPackages.names, isExposed name = false) ∧
        ∀ line ∈ Text.lines s.syncCommand.toList, isSilent line = true) ∧
      ('\n' ∉ s.syncCommand.toList →
        ((∀ line ∈ Text.lines s.syncCommand.toList, isSilent line = true) ↔
          isSkippedLine s.syncCommand.toList = true ∨
            isSpacedAssignment s.syncCommand.toList = false ∧
              lacksSpaceAfterBracket (Text.trim s.syncCommand.toList) = false)) := by
  obtain ⟨hfaults, rfl⟩ := (compile_eq_ok_iff p s).1 h
  rw [Plan.syncCommand_script]
  refine ⟨_, compileLinted_eq_ok hfaults, ?_, fun hsingle => ?_⟩
  · have hnames : p.nameFindings = [] ↔ (p.system.installDependencies = true →
        ∀ name ∈ p.system.pythonPackages.names, isExposed name = false) := by
      unfold Plan.nameFindings
      split
      · rename_i hon
        rw [packageFindings_eq_nil_iff, forall_prop_of_true hon]
      · rename_i hoff
        exact iff_of_true rfl fun hon => absurd hon hoff
    rw [LintReport.isClean, lintReport, List.isEmpty_iff, Plan.lint_text hfaults,
      List.append_eq_nil_iff, hnames, List.map_eq_nil_iff, lint_eq, lintFrom_eq_nil_iff]
  · rw [Plan.lines_syncCommand_of_single hsingle, List.forall_mem_singleton,
      Plan.isSilent_syncCommand]
    simp

/-- Names with version bounds leave a script clean. -/
theorem compileLinted_isClean_of_names :
    compile (localPlan ["requests", "rich>=13"]) =
      .ok (localPlan ["requests", "rich>=13"]).script ∧
    ∃ report, compileLinted (localPlan ["requests", "rich>=13"]) =
      .ok ((localPlan ["requests", "rich>=13"]).script, report) ∧ report.isClean = true := by
  have hok := compile_localPlan ["requests", "rich>=13"] (by decide)
  obtain ⟨report, hreport, hclean, -⟩ := compileLinted_isClean_iff hok
  have hnames : ∀ name ∈ (localPlan ["requests", "rich>=13"]).system.pythonPackages.names,
      isExposed name = false := by
    decide
  have hsync := lint_localPlan ["requests", "rich>=13"]
  rw [lint_eq, lintFrom_eq_nil_iff] at hsync
  exact ⟨hok, report, hreport, hclean.2 ⟨fun _ => hnames, hsync⟩⟩

/-- A name that leaves a directory to the environment stands in a quoted here-document, where the
shell expands nothing, and is flagged all the same. -/
theorem compileLinted_not_clean :
    ∃ script report,
      compileLinted (localPlan ["$\x7bWHEELS\x7d/lib.whl"]) = .ok (script, report) ∧
        report.isClean = false := by
  have hok := compile_localPlan ["$\x7bWHEELS\x7d/lib.whl"] (by decide)
  have hfaults := ((compile_eq_ok_iff _ _).1 hok).1
  have hnames : (localPlan ["$\x7bWHEELS\x7d/lib.whl"]).nameFindings ≠ [] := by decide
  refine ⟨_, _, compileLinted_eq_ok hfaults, ?_⟩
  rw [LintReport.isClean, lintReport, List.isEmpty_eq_false_iff, Plan.lint_text hfaults]
  exact List.append_ne_nil_of_left_ne_nil hnames _

end SyncScript
