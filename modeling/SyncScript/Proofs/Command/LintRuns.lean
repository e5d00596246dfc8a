import SyncScript.Command.Run
import SyncScript.Proofs.Files.Writing
import SyncScript.Proofs.Lint.FileReports
import SyncScript.Proofs.Output.Documents

/-!
# Runs of the linter

A run of the linter gives every file it was to look at a report or a failure. How it ends and the
totals that it prints follow from the texts of the files alone.
-/

namespace SyncScript

namespace Report

/-- The totals are the numbers of findings of either severity in all reports. -/
lemma total_eq (reports : List LintReport) :
    total reports = ⟨(reports.flatMap (·.diagnostics)).countP (·.severity == .error),
      (reports.flatMap (·.diagnostics)).countP (·.severity == .warning)⟩ := by
  induction reports with
  | nil => rfl
  | cons r reports ih =>
    have hstep : total (r :: reports) = ⟨r.summary.errors + (total reports).errors,
        r.summary.warnings + (total reports).warnings⟩ := rfl
    rw [hstep, ih, r.summary_eq.1, List.flatMap_cons, List.countP_append, List.countP_append]

end Report

/-- What was printed is lines, of which the last has the totals for people, in bold if there is
colour, and has the totals for its summary in JSON. -/
structure Printed.ShowsTotals (printed : Printed) (form : OutputForm) (color : Bool)
    (errors warnings files : Nat) : Prop where
  people : form = .human → ∃ findings : List String,
    printed.out = String.join (findings.map (· ++ "\n")) ++
      (if color then "\x1b[1m" else "") ++ "— Summary — errors=" ++ toString errors ++
      " warnings=" ++ toString warnings ++ " files=" ++ toString files ++
      (if color then "\x1b[0m" else "") ++ "\n"
  json : form = .json → ∃ d, Json.read? printed.out = some d ∧
    d.member? "summary" = some (.mapping [(.text "errors", .integer errors),
      (.text "warnings", .integer warnings), (.text "files", .integer files)])

namespace Report

lemma linted_showsTotals (reports : List LintReport) (failures : List ReadFailure)
    (form : OutputForm) (color : Bool) :
    (linted reports failures form color).ShowsTotals form color
      ((reports.flatMap (·.diagnostics)).countP (·.severity == .error))
      ((reports.flatMap (·.diagnostics)).countP (·.severity == .warning)) reports.length where
  people := by
    rintro rfl
    refine ⟨reports.flatMap fun r => r.diagnostics.map (diagnosticLine · r.file color), ?_⟩
    rw [linted, printLines_concat, summaryLine, bold_eq, total_eq]
    simp only [String.append_assoc]
  json := by
    rintro rfl
    refine ⟨lintDocument reports failures, Json.read?_pretty (isPlain_lintDocument _ _), ?_⟩
    rw [lintDocument, total_eq]
    simp [entry, count, Document.member?, Document.entries?, Document.valueOf?_cons,
      Document.text?]

end Report

variable {disk : Disk Id}

lemma run_lintEnding (arguments : List String) (form : OutputForm) (color : Bool) :
    (lintEnding disk arguments form color).run =
      if (expandTargets disk arguments).run = [] then
        .finished (.failure "No scripts matched the given paths")
      else .finished (lintOutcome (lintFiles disk (expandTargets disk arguments).run).run.1
        (lintFiles disk (expandTargets disk arguments).run).run.2 form color) := by
  rw [lintEnding, Id.run_bind]
  by_cases h : (expandTargets disk arguments).run = []
  · rw [if_pos h, h]
    rfl
  · rw [if_neg h, if_neg (by simpa using h)]
    rfl

/-- How a run of the linter on given files ends. The exit code says whether there was no file or one
that could not be read, and if neither, whether there was an error. -/
structure LintEnds (disk : Disk Id) (files : List Path) (form : OutputForm) (color : Bool)
    (outcome : Outcome) : Prop where
  unread : outcome.exitCode = 2 ↔
    files = [] ∨ ∃ p ∈ files, ∃ cause, (disk.readText p).run = .error cause
  defective : outcome.exitCode = 1 ↔ outcome.exitCode ≠ 2 ∧
    ∃ p ∈ files, ∃ text, (disk.readText p).run = .ok text ∧
      ∃ d ∈ lint text, d.severity = .error
  clean : outcome.exitCode = 0 ↔ outcome.exitCode ≠ 2 ∧ outcome.exitCode ≠ 1
  totals : files ≠ [] →
    let reports := (lintFiles disk files).run.1
    outcome.printed.ShowsTotals form color
      ((reports.flatMap (·.diagnostics)).countP (·.severity == .error))
      ((reports.flatMap (·.diagnostics)).countP (·.severity == .warning)) reports.length

lemma lintEnds_failure (form : OutputForm) (color : Bool) (message : String) :
    LintEnds disk [] form color (.failure message) := by
  have hexit : (Outcome.failure message).exitCode = 2 := rfl
  refine ⟨?_, ?_, ?_, fun h => absurd rfl h⟩
  · simp [hexit]
  · simp [hexit]
  · simp [hexit]

lemma lintEnds_lintOutcome {files : List Path} (hfiles : files ≠ []) (form : OutputForm)
    (color : Bool) :
    LintEnds disk files form color
      (lintOutcome (lintFiles disk files).run.1 (lintFiles disk files).run.2 form color) := by
  have hunread : (∃ p ∈ files, ∃ cause, (disk.readText p).run = .error cause) ↔
      (lintFiles disk files).run.2 ≠ [] := by
    rw [ne_eq, failures_eq_nil_iff]
    simp only [← Disk.text?_eq_none_iff]
    push Not
    rfl
  have hdefective := @any_errors_iff disk files
  have htotals := Report.linted_showsTotals (lintFiles disk files).run.1
    (lintFiles disk files).run.2 form color
  have hexit : (lintOutcome (lintFiles disk files).run.1 (lintFiles disk files).run.2 form
      color).exitCode = if (lintFiles disk files).run.2 ≠ [] then 2
        else if (lintFiles disk files).run.1.any (0 < ·.summary.errors) then 1 else 0 := by
    simp [lintOutcome]
  refine ⟨?_, ?_, ?_, fun _ => htotals⟩
  · rw [hexit, hunread, or_iff_right hfiles]
    split_ifs <;> simp_all
  · rw [hexit, ← hdefective]
    split_ifs <;> simp_all
  · rw [hexit]
    split_ifs <;> simp

/-- A file has a text exactly if it is there and holds UTF-8, and it is linted then, under its name;
no other file has a report, and every file has a report or a failure in its turn. So do the files of
a run, whose exit code and totals follow from them. -/
theorem lintFiles_and_run (disk : Disk Id) :
    (∀ paths, ∃ results : List (Except ReadFailure LintReport),
      List.Forall₂ disk.Lints paths results ∧
      results.filter Except.isOk = (lintFiles disk paths).run.1.map .ok ∧
      results.filter (! Except.isOk ·) = (lintFiles disk paths).run.2.map .error ∧
      (lintFiles disk paths).run.1.length + (lintFiles disk paths).run.2.length =
        paths.length) ∧
    (∀ (t : FileTree) directory p text, ((t.disk directory).readText p).run = .ok text ↔
      ∃ l, t.locate directory p = .ok l ∧ t.get? l = some (.file text.toUTF8)) ∧
    ∀ arguments output color, ∃ outcome,
      (Command.run disk color (.lint arguments output)).run = .finished outcome ∧
      LintEnds disk (expandTargets disk arguments).run (.ofName (output.getD "human")) color
        outcome := by
  refine ⟨?_, ?_, ?_⟩
  · intro paths
    have hlints : List.Forall₂ disk.Lints paths (paths.map fun p => (lintFile disk p).run) := by
      rw [List.forall₂_map_right_iff, List.forall₂_same]
      exact fun p _ => lints_lintFile p
    have hlength := length_reportsOf_add (paths.map fun p => (lintFile disk p).run)
    rw [List.length_map] at hlength
    rw [run_lintFiles]
    exact ⟨_, hlints, (filter_isOk _).1, (filter_isOk _).2, hlength⟩
  · intro t directory p text
    exact FileTree.readTextAt_eq_ok_iff
  · intro arguments output color
    rw [Command.run, run_lintEnding]
    by_cases hfiles : (expandTargets disk arguments).run = []
    · rw [if_pos hfiles, hfiles]
      exact ⟨_, rfl, lintEnds_failure _ color _⟩
    · rw [if_neg hfiles]
      exact ⟨_, rfl, lintEnds_lintOutcome hfiles _ color⟩

end SyncScript
