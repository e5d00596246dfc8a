import Mathlib.Data.List.Forall2
import SyncScript.Lint.Files
import SyncScript.Proofs.Lint.Shape
import SyncScript.Proofs.Results

/-!
# Reports on files

Linting several files gives for each of them, in their order, a report on its text or the reason
why it has none. The reports and the failures are these results taken apart, and nothing else.
-/

namespace SyncScript

namespace Disk

/-- The name under which a file is reported: its path as seen from the working directory. -/
def nameOf (disk : Disk Id) (p : Path) : String :=
  (p.relativeTo disk.workingDirectory.run).text

/-- The text of a file, if it can be read. -/
def text? (disk : Disk Id) (p : Path) : Option String :=
  (disk.readText p).run.toOption

/-- The result of linting a file: the findings in its text under its name, or why it has no text. -/
inductive Lints (disk : Disk Id) (p : Path) : Except ReadFailure LintReport → Prop
  | report {text : String} (h : (disk.readText p).run = .ok text) :
    Lints disk p (.ok (lintReport (some (disk.nameOf p)) text))
  | failure {cause : FileError} (h : (disk.readText p).run = .error cause) :
    Lints disk p (.error ⟨disk.nameOf p, cause.message⟩)

end Disk

variable {disk : Disk Id}

lemma Disk.text?_eq_some_iff {p : Path} {text : String} :
    disk.text? p = some text ↔ (disk.readText p).run = .ok text :=
  Except.toOption_eq_some

lemma Disk.text?_eq_none_iff {p : Path} :
    disk.text? p = none ↔ ∃ cause, (disk.readText p).run = .error cause :=
  Except.toOption_eq_none

lemma run_lintFile_of_text {p : Path} {text : String} (h : (disk.readText p).run = .ok text) :
    (lintFile disk p).run = .ok (lintReport (some (disk.nameOf p)) text) := by
  rw [lintFile, Id.run_bind, Id.run_bind, h]
  rfl

lemma run_lintFile_of_error {p : Path} {cause : FileError}
    (h : (disk.readText p).run = .error cause) :
    (lintFile disk p).run = .error ⟨disk.nameOf p, cause.message⟩ := by
  rw [lintFile, Id.run_bind, Id.run_bind, h]
  rfl

lemma lints_lintFile (p : Path) : disk.Lints p (lintFile disk p).run := by
  cases h : (disk.readText p).run with
  | ok text =>
    rw [run_lintFile_of_text h]
    exact .report h
  | error cause =>
    rw [run_lintFile_of_error h]
    exact .failure h

lemma run_lintFiles (paths : List Path) :
    (lintFiles disk paths).run =
      (reportsOf (paths.map fun p => (lintFile disk p).run),
        failuresOf (paths.map fun p => (lintFile disk p).run)) := by
  rw [lintFiles, Id.run_bind, List.idRun_mapM]
  rfl

section Results

variable (results : List (Except ReadFailure LintReport)) (r : LintReport) (f : ReadFailure)

@[simp] lemma reportsOf_ok : reportsOf (.ok r :: results) = r :: reportsOf results :=
  rfl

@[simp] lemma reportsOf_error : reportsOf (.error f :: results) = reportsOf results :=
  rfl

@[simp] lemma failuresOf_ok : failuresOf (.ok r :: results) = failuresOf results :=
  rfl

@[simp] lemma failuresOf_error : failuresOf (.error f :: results) = f :: failuresOf results :=
  rfl

/-- The reports and the failures are the results of either kind, in their order. -/
lemma filter_isOk :
    results.filter Except.isOk = (reportsOf results).map .ok ∧
      results.filter (! Except.isOk ·) = (failuresOf results).map .error := by
  induction results with
  | nil => exact ⟨rfl, rfl⟩
  | cons result results ih =>
    cases result with
    | ok report =>
      refine ⟨?_, ?_⟩
      · rw [List.filter_cons_of_pos rfl, reportsOf_ok, List.map_cons, ih.1]
      · rw [List.filter_cons_of_neg Bool.false_ne_true, failuresOf_ok, ih.2]
    | error failure =>
      refine ⟨?_, ?_⟩
      · rw [List.filter_cons_of_neg Bool.false_ne_true, reportsOf_error, ih.1]
      · rw [List.filter_cons_of_pos rfl, failuresOf_error, List.map_cons, ih.2]

lemma length_reportsOf_add : (reportsOf results).length + (failuresOf results).length =
    results.length := by
  induction results with
  | nil => rfl
  | cons result results ih =>
    cases result with
    | ok report =>
      rw [reportsOf_ok, failuresOf_ok, List.length_cons, List.length_cons]
      omega
    | error failure =>
      rw [reportsOf_error, failuresOf_error, List.length_cons, List.length_cons]
      omega

end Results

/-- The reports are those on the files that have a text. -/
lemma reports_eq (paths : List Path) :
    (lintFiles disk paths).run.1 = paths.filterMap fun p =>
      (disk.text? p).map (lintReport (some (disk.nameOf p))) := by
  rw [run_lintFiles]
  induction paths with
  | nil => rfl
  | cons p paths ih =>
    rw [List.map_cons, List.filterMap_cons, Disk.text?]
    cases h : (disk.readText p).run with
    | ok text =>
      rw [run_lintFile_of_text h]
      exact congrArg _ ih
    | error cause =>
      rw [run_lintFile_of_error h]
      exact ih

/-- Together the reports have the findings in the texts, one report for each text. -/
lemma reports_texts (paths : List Path) :
    (lintFiles disk paths).run.1.flatMap (·.diagnostics) =
      (paths.filterMap disk.text?).flatMap lint ∧
    (lintFiles disk paths).run.1.length = (paths.filterMap disk.text?).length := by
  rw [reports_eq]
  induction paths with
  | nil => exact ⟨rfl, rfl⟩
  | cons p paths ih =>
    rw [List.filterMap_cons, List.filterMap_cons]
    cases disk.text? p with
    | none => exact ih
    | some text => exact ⟨congrArg (lint text ++ ·) ih.1, congrArg (· + 1) ih.2⟩

lemma failures_eq_nil_iff (paths : List Path) :
    (lintFiles disk paths).run.2 = [] ↔ ∀ p ∈ paths, disk.text? p ≠ none := by
  rw [run_lintFiles]
  induction paths with
  | nil => simp [failuresOf]
  | cons p paths ih =>
    rw [List.map_cons, List.forall_mem_cons, ← ih, Disk.text?]
    cases h : (disk.readText p).run with
    | ok text => simp [run_lintFile_of_text h, Except.toOption]
    | error cause => simp [run_lintFile_of_error h, Except.toOption]

/-- There is an error in a report exactly if there is one in a file that could be read. -/
lemma any_errors_iff (paths : List Path) :
    (lintFiles disk paths).run.1.any (0 < ·.summary.errors) = true ↔
      ∃ p ∈ paths, ∃ text, (disk.readText p).run = .ok text ∧
        ∃ d ∈ lint text, d.severity = .error := by
  have herrors : ∀ r : LintReport,
      0 < r.summary.errors ↔ ∃ d ∈ r.diagnostics, d.severity = .error := by
    intro r
    rw [r.summary_eq.1, List.countP_pos_iff]
    simp only [beq_iff_eq]
  rw [List.any_eq_true, reports_eq]
  simp only [decide_eq_true_eq, herrors, List.mem_filterMap, Option.map_eq_some_iff,
    Disk.text?_eq_some_iff]
  constructor
  · rintro ⟨r, ⟨p, hp, text, htext, rfl⟩, herror⟩
    exact ⟨p, hp, text, htext, herror⟩
  · rintro ⟨p, hp, text, htext, herror⟩
    exact ⟨_, ⟨p, hp, text, htext, rfl⟩, herror⟩

end SyncScript
