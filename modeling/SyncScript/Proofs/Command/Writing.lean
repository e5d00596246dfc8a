import SyncScript.Proofs.Command.Runs
import SyncScript.Proofs.Files.Writing
import SyncScript.Proofs.Lint.FileReports
import SyncScript.Proofs.Lint.Targets
import SyncScript.Proofs.PlanFile.Resolve

/-!
# Scripts in files

A compilation that is to write its script either fails and leaves all files alone, or changes just
the file it was given. The linter then finds in the file what was reported about the script.
-/

namespace SyncScript

section Linting

variable {disk : Disk Id}

lemma expandTargets_of_file {argument : String}
    (h : (disk.kind? ⟨argument⟩).run = some .file) :
    (expandTargets disk [argument]).run = [⟨argument⟩] := by
  have hfiles : ∀ p ∈ [(⟨argument⟩ : Path)], (disk.kind? p).run = some .file :=
    List.forall_mem_singleton.2 h
  have hnamed : disk.namedFiles [argument] = [⟨argument⟩] := Disk.namedFiles_text hfiles
  rw [run_expandTargets, hnamed, Path.firsts_eq_self (List.pairwise_singleton _ _)]

/-- The findings in a file are those in its text. -/
lemma lintFiles_of_text {p : Path} {text : String} (h : (disk.readText p).run = .ok text) :
    ∃ r, (lintFiles disk [p]).run = ([r], []) ∧
      r.diagnostics = (lintReport none text).diagnostics ∧
      r.summary = (lintReport none text).summary := by
  refine ⟨lintReport (some (disk.nameOf p)) text, ?_, rfl, rfl⟩
  rw [run_lintFiles, List.map_singleton, run_lintFile_of_text h]
  rfl

end Linting

variable (t : FileTree) (directory : Location) (color : Bool)

/-- Why a script does not get into a file: there is no plan, the plan has faults, or the file cannot
be written. -/
inductive WritePrevented (t : FileTree) (directory : Location) (c : Choices) (path : String) : Prop
  | unresolved (e : PlanError) (h : (resolve (t.disk directory) c).run = .error e)
  | refused (s : Settings) (h : (resolve (t.disk directory) c).run = .ok s) (e : CompileError)
    (hrefused : compile s.plan = .error e)
  | unwritten (s : Settings) (h : (resolve (t.disk directory) c).run = .ok s) (script : Script)
    (hscript : compile s.plan = .ok script) (cause : FileError)
    (hcause : t.writeAt directory ⟨path⟩ script.text = .error cause)

/-- What a run has done that wrote the script of a plan to a file: it fails only if it is strict and
there are errors in the script, and the linter finds in the file what was reported. -/
structure WroteScript (path : String) (strict : Bool) (s : Settings) (script : Script)
    (report : LintReport) (done : Outcome × FileTree) : Prop where
  compiled : compileLinted s.plan = .ok (script, report)
  wrote : ∃ l, t.Wrote done.2 directory ⟨path⟩ script.text l
  printed : done.1.printed = Report.compiled script report s.form color (some path)
  exitCode : done.1.exitCode = 0 ∨ done.1.exitCode = 1
  failed : done.1.exitCode = 1 ↔ strict = true ∧ ∃ d ∈ lint script.text, d.severity = .error
  found : (expandTargets (done.2.disk directory) [path]).run = [⟨path⟩]
  linted : ∃ r, (lintFiles (done.2.disk directory) [⟨path⟩]).run = ([r], []) ∧
    r.diagnostics = report.diagnostics ∧ r.summary = report.summary

variable {t directory} in
lemma Settings.wroteScript {s : Settings} (hfaults : s.plan.faults = []) {path : String}
    {after : FileTree} (hwrite : t.writeAt directory ⟨path⟩ s.plan.script.text = .ok after)
    (strict : Bool) :
    WroteScript t directory color path strict s s.plan.script (lintReport none s.plan.script.text)
      (s.compiled s.plan.script (lintReport none s.plan.script.text) color strict (some path),
        after) := by
  obtain ⟨l, hwrote⟩ := FileTree.exists_wrote hwrite
  have hkind : ((after.disk directory).kind? ⟨path⟩).run = some .file := hwrote.kindAt?
  have hread : ((after.disk directory).readText ⟨path⟩).run = .ok s.plan.script.text :=
    hwrote.readTextAt
  refine ⟨compileLinted_eq_ok hfaults, ⟨l, hwrote⟩, ?_, ?_, ?_, ?_, ?_⟩
  · exact s.compiled_printed _ _ color strict _
  · exact s.compiled_exitCode _ _ color strict _
  · rw [compiled_exitCode_eq_one, lintReport]
  · exact expandTargets_of_file hkind
  · exact lintFiles_of_text hread

/-- A compilation that writes its script fails and leaves the tree as it was, or it changes the file
it was given and nothing else. The file has the text of the script then, also where the command
fails on errors in it, and linting the file gives the findings that were reported. -/
theorem compile_write (c : Choices) (path : String) (strict : Bool) :
    let done := Command.runOn t directory color (.compile c (some path) strict)
    (done.1.exitCode = 2 ∧ done.2 = t ∧ WritePrevented t directory c path) ∨
      ∃ s script report, (resolve (t.disk directory) c).run = .ok s ∧
        WroteScript t directory color path strict s script report done := by
  intro done
  have hdone : done = Ending.perform t directory (withSettings (t.disk directory) c
      (·.compileEnding color (some path) strict)) := rfl
  rw [Ending.perform_withSettings] at hdone
  cases hresolve : (resolve (t.disk directory) c).run with
  | error e =>
    rw [hresolve] at hdone
    rw [hdone]
    exact Or.inl ⟨rfl, rfl, .unresolved e hresolve⟩
  | ok s =>
    rw [hresolve] at hdone
    dsimp only at hdone
    by_cases hfaults : s.plan.faults = []
    · rw [Ending.perform_compileEnding t directory hfaults] at hdone
      cases hwrite : t.writeAt directory ⟨path⟩ s.plan.script.text with
      | error cause =>
        have hcompile := (compile_eq_ok_iff s.plan s.plan.script).2 ⟨hfaults, rfl⟩
        rw [hwrite] at hdone
        rw [hdone]
        exact Or.inl ⟨rfl, rfl, .unwritten s hresolve _ hcompile cause hwrite⟩
      | ok after =>
        rw [hwrite] at hdone
        rw [hdone]
        exact Or.inr ⟨s, _, _, rfl, s.wroteScript color hfaults hwrite strict⟩
    · rw [Settings.compileEnding_of_faults hfaults] at hdone
      have hvalidity := s.validity_exitCode color
      rw [if_neg hfaults] at hvalidity
      rw [hdone]
      exact Or.inl ⟨hvalidity, rfl, .refused s hresolve _ (compile_of_faults hfaults)⟩

/-- The script of the plan above the start can be read from the file beside the plan. -/
theorem compile_write_planTree :
    ∃ s script, (resolve (planTree.disk []) planTreeChoices).run = .ok s ∧
      compile s.plan = .ok script ∧
      (Command.runOn planTree [] false
        (.compile planTreeChoices (some "/r/sync.sh") false)).2.readTextAt [] ⟨"/r/sync.sh"⟩ =
          .ok script.text := by
  have hexit : (Command.runOn planTree [] false
      (.compile planTreeChoices (some "/r/sync.sh") false)).1.exitCode = 0 := by
    decide +kernel
  rcases compile_write planTree [] false planTreeChoices "/r/sync.sh" false with
    ⟨hfailed, -, -⟩ | ⟨s, script, report, hs, hdone⟩
  · cases hexit.symm.trans hfailed
  · obtain ⟨found, hcompile, hfound⟩ := Except.map_eq_ok.1 hdone.compiled
    cases hfound
    obtain ⟨l, hwrote⟩ := hdone.wrote
    exact ⟨s, script, hs, hcompile, hwrote.readTextAt⟩

end SyncScript
