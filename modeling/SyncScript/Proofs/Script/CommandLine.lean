import SyncScript.Proofs.Script.TextLines
import SyncScript.Proofs.Text.Parts

/-!
# The command line at the end of a script

A script ends in its sync command. This is one line that names a program to run exactly when the
executable is not blank and none of the texts that the command shows holds a line end. The rules for
plans ask for neither.
-/

namespace SyncScript

namespace Shell

/-- Escaping brings in backslashes only. -/
lemma mem_escapeChars_iff {c : Char} (hc : c ≠ '\\') (cs : List Char) :
    c ∈ escapeChars cs ↔ c ∈ cs := by
  induction cs with
  | nil => rfl
  | cons d cs ih =>
    rw [escapeChars]
    split <;> simp [ih, hc]

lemma newline_mem_written_iff {word : CommandWord} (h : word.WellFormed) :
    '\n' ∈ word.written.toList ↔ ∃ text, word = .value text ∧ '\n' ∈ text.toList := by
  cases word with
  | flag name =>
    have hname : '\n' ∉ name.toList := fun hmem => absurd (h.2 '\n' hmem) (by decide)
    simp [CommandWord.written, hname]
  | value text =>
    have hescape : '\n' ∈ (escape text).toList ↔ '\n' ∈ text.toList := by
      rw [escape, String.toList_ofList, mem_escapeChars_iff (by decide)]
    simp [CommandWord.written, doubleQuoted, hescape]

end Shell

/-- The texts of an endpoint that its argument shows. -/
def Endpoint.shownTexts (e : Endpoint) : List String :=
  match e.kind with
  | .ssh =>
    [e.path] ++ (Text.given e.user).toList ++ (Text.given e.host).toList ++
      (Text.given e.privateKey).toList
  | .localDir | .git => [e.path]

lemma Endpoint.newline_mem_argument_iff (e : Endpoint) :
    '\n' ∈ e.argument.toList ↔ ∃ text ∈ e.shownTexts, '\n' ∈ text.toList := by
  unfold argument shownTexts
  cases e.kind with
  | localDir | git => simp
  | ssh =>
    cases Text.given e.user <;> cases Text.given e.host <;> cases Text.given e.privateKey <;>
      simp [or_comm, or_left_comm]

namespace Plan

/-- The texts of a plan that its sync command shows. -/
def shownTexts (p : Plan) : List String :=
  [Text.trimmed p.sync.executable] ++ p.source.shownTexts ++ p.target.shownTexts ++
    p.source.gitBranch.toList

lemma value_mem_commandWords_iff (p : Plan) (text : String) :
    Shell.CommandWord.value text ∈ p.commandWords ↔
      text = p.source.argument ∨ text = p.target.argument ∨ p.source.gitBranch = some text := by
  unfold commandWords
  cases p.source.usesGithubCli <;> cases p.source.gitBranch <;> cases p.sync.dryRun <;>
    simp [eq_comm]

lemma newline_mem_syncCommand_iff (p : Plan) :
    '\n' ∈ p.syncCommand.toList ↔ ∃ text ∈ p.shownTexts, '\n' ∈ text.toList := by
  have hprefix :
      '\n' ∈ p.commandPrefix.toList ↔ '\n' ∈ (Text.trimmed p.sync.executable).toList := by
    unfold commandPrefix
    cases p.target.wantsSudo <;> simp
  have hwords : '\n' ∈ (String.join (p.commandWords.map Shell.CommandWord.written)).toList ↔
      ∃ text, .value text ∈ p.commandWords ∧ '\n' ∈ text.toList := by
    rw [String.toList_join, List.mem_flatMap]
    constructor
    · rintro ⟨_, hwritten, hmem⟩
      obtain ⟨word, hword, rfl⟩ := List.mem_map.1 hwritten
      obtain ⟨text, rfl, htext⟩ :=
        (Shell.newline_mem_written_iff (p.commandWords_wellFormed word hword)).1 hmem
      exact ⟨text, hword, htext⟩
    · rintro ⟨text, hword, htext⟩
      refine ⟨_, List.mem_map_of_mem hword, ?_⟩
      exact (Shell.newline_mem_written_iff (p.commandWords_wellFormed _ hword)).2 ⟨text, rfl, htext⟩
  rw [syncCommand_eq, String.toList_append, List.mem_append, hprefix, hwords]
  simp only [value_mem_commandWords_iff, or_and_right, exists_or, exists_eq_left, shownTexts,
    List.mem_append, List.mem_singleton, Option.mem_toList, Endpoint.newline_mem_argument_iff,
    or_assoc]

end Plan

/-- The script ends in one command line that can be run: `sudo` where the target wants it, a program
to run, and its arguments, all on the last line of the text. -/
structure Script.EndsInCommandLine (s : Script) (p : Plan) : Prop where
  single : '\n' ∉ s.syncCommand.toList
  executable : Text.trimmed p.sync.executable ≠ ""
  command : ∃ arguments, s.syncCommand = (if p.target.wantsSudo then "sudo " else "") ++
    Text.trimmed p.sync.executable ++ " --source \"" ++ arguments
  last : (Text.lines (Text.trimEnd s.text.toList)).getLast? = some s.syncCommand.toList

namespace Plan

lemma exists_arguments (p : Plan) :
    ∃ arguments, p.syncCommand = (if p.target.wantsSudo then "sudo " else "") ++
      Text.trimmed p.sync.executable ++ " --source \"" ++ arguments := by
  refine ⟨Shell.escape p.source.argument ++ "\"" ++ String.join (p.commandWords.tail.tail.map
    Shell.CommandWord.written), ?_⟩
  rw [syncCommand_eq, commandPrefix]
  apply String.toList_inj.1
  simp [commandWords, Shell.CommandWord.written, Shell.doubleQuoted]

/-- Behind the command the text holds nothing but a line end. -/
lemma trimEnd_text (p : Plan) :
    Text.trimEnd p.script.text.toList =
      Text.closeLines (p.fixedLines.map String.toList) ++ p.syncCommand.toList := by
  obtain ⟨cs, c, hcommand, hc⟩ := p.syncCommand_concat
  have hspace : Text.isSpace c = false := by
    rcases hc with rfl | rfl | rfl <;> decide
  rw [toList_text, ← List.append_assoc, Text.trimEnd_append_space (by decide), hcommand,
    ← List.append_assoc, Text.trimEnd_concat hspace]

lemma getLast?_lines_text {p : Plan} (h : p.faults = []) :
    (Text.lines (Text.trimEnd p.script.text.toList)).getLast? =
      (Text.splitAtEach '\n' p.syncCommand.toList).getLast? := by
  obtain ⟨cs, c, hcommand, hc⟩ := p.syncCommand_concat
  have hnewline : c ≠ '\n' := by
    rcases hc with rfl | rfl | rfl <;> decide
  have hlast := Text.getLast?_lines_concat hnewline cs
  rw [← hcommand] at hlast
  have hlines : Text.lines p.syncCommand.toList ≠ [] := by
    intro hnil
    rw [hnil] at hlast
    exact Text.splitAtEach_ne_nil _ _ (List.getLast?_eq_none_iff.1 hlast.symm)
  rw [trimEnd_text, Text.lines_closeLines (single_fixedLines h),
    List.getLast?_append_of_ne_nil _ hlines, hlast]

lemma endsInCommandLine_iff {p : Plan} (h : p.faults = []) :
    p.script.EndsInCommandLine p ↔
      Text.isBlank p.sync.executable = false ∧ ∀ text ∈ p.shownTexts, '\n' ∉ text.toList := by
  have hsingle : '\n' ∉ p.syncCommand.toList ↔ ∀ text ∈ p.shownTexts, '\n' ∉ text.toList := by
    rw [newline_mem_syncCommand_iff]
    push Not
    rfl
  rw [← hsingle, ← Text.trimmed_ne_empty_iff]
  constructor
  · intro hends
    have hnone := hends.single
    rw [syncCommand_script] at hnone
    exact ⟨hends.executable, hnone⟩
  · rintro ⟨hexecutable, hnone⟩
    refine ⟨?_, hexecutable, ?_, ?_⟩
    · rwa [syncCommand_script]
    · rw [syncCommand_script]
      exact p.exists_arguments
    · rw [syncCommand_script, getLast?_lines_text h, Text.getLast?_splitAtEach_eq_iff]
      exact hnone

end Plan

/-- Every script ends in its sync command, and the command is `sudo` where the target wants it, the
executable, and arguments that begin with the source. It is a command line that can be run exactly
when the executable is not blank and no text that it shows holds a line end. -/
theorem compile_commandLine {p : Plan} {s : Script} (h : compile p = .ok s) :
    Text.trimEnd s.text.toList = (s.textBefore .sync).toList ++ s.syncCommand.toList ∧
    (∃ arguments, s.syncCommand = (if p.target.wantsSudo then "sudo " else "") ++
      Text.trimmed p.sync.executable ++ " --source \"" ++ arguments) ∧
    (s.EndsInCommandLine p ↔
      Text.isBlank p.sync.executable = false ∧ ∀ text ∈ p.shownTexts, '\n' ∉ text.toList) := by
  obtain ⟨hfaults, rfl⟩ := (compile_eq_ok_iff p s).1 h
  refine ⟨?_, ?_, Plan.endsInCommandLine_iff hfaults⟩
  · rw [p.trimEnd_text, p.textBefore_sync, p.syncCommand_script]
  · rw [p.syncCommand_script]
    exact p.exists_arguments

/-- A plan that syncs a local directory with a given program. -/
def programPlan (executable path : String) : Plan where
  source := { path := path }
  target := { path := "/tmp/b" }
  sync := { executable := executable }

/-- Quotes, expansions and spaces do not take a command off its line. -/
theorem compile_commandLine_program :
    compile (programPlan " python3 sync.py" "/tmp/$a \"b\" ") =
        .ok (programPlan " python3 sync.py" "/tmp/$a \"b\" ").script ∧
      (programPlan " python3 sync.py" "/tmp/$a \"b\" ").script.EndsInCommandLine
        (programPlan " python3 sync.py" "/tmp/$a \"b\" ") := by
  have hok := (compile_eq_ok_iff (programPlan " python3 sync.py" "/tmp/$a \"b\" ") _).2
    ⟨by decide, rfl⟩
  exact ⟨hok, (compile_commandLine hok).2.2.2 ⟨by decide, by decide⟩⟩

lemma exists_script_not_commandLine {executable path command : String}
    (hfaults : (programPlan executable path).faults = [])
    (hcommand : (programPlan executable path).syncCommand = command)
    (hnot : ¬ (Text.isBlank executable = false ∧
      ∀ text ∈ (programPlan executable path).shownTexts, '\n' ∉ text.toList)) :
    ∃ s, compile (programPlan executable path) = .ok s ∧ s.syncCommand = command ∧
      ¬ s.EndsInCommandLine (programPlan executable path) :=
  ⟨_, (compile_eq_ok_iff _ _).2 ⟨hfaults, rfl⟩, (Plan.syncCommand_script _).trans hcommand,
    mt (Plan.endsInCommandLine_iff hfaults).1 hnot⟩

/-- A blank executable, and a line end in a path or inside the executable, are accepted. The script
then ends in a command without a program, or in the last part of its command only. -/
theorem compile_not_commandLine :
    (∃ s, compile (programPlan " " "/tmp/a") = .ok s ∧
      s.syncCommand = " --source \"/tmp/a\" --target \"/tmp/b\"" ∧
      ¬ s.EndsInCommandLine (programPlan " " "/tmp/a")) ∧
    (∃ s, compile (programPlan "sync" "/tmp/a\nb") = .ok s ∧
      s.syncCommand = "sync --source \"/tmp/a\nb\" --target \"/tmp/b\"" ∧
      ¬ s.EndsInCommandLine (programPlan "sync" "/tmp/a\nb")) ∧
    ∃ s, compile (programPlan "python3\nsync.py" "/tmp/a") = .ok s ∧
      s.syncCommand = "python3\nsync.py --source \"/tmp/a\" --target \"/tmp/b\"" ∧
      ¬ s.EndsInCommandLine (programPlan "python3\nsync.py" "/tmp/a") := by
  refine ⟨?blank, ?path, ?program⟩
  case blank => exact exists_script_not_commandLine (by decide) (by decide) (by decide)
  case path => exact exists_script_not_commandLine (by decide) (by decide) (by decide)
  case program => exact exists_script_not_commandLine (by decide) (by decide) (by decide)

end SyncScript
