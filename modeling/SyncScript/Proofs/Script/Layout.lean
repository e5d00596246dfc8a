import SyncScript.Proofs.Text.Lines
import SyncScript.Script.Compile

/-!
# The layout of a script

The text of a script is a number of fixed lines, then the sync command and a line end. All lines
ahead of the command come from the settings of the system and the package names, so every section
starts on a line that can be counted.
-/

namespace SyncScript

namespace Script

/-- The text ahead of the first section of a kind. -/
def textBefore (s : Script) (kind : SectionKind) : String :=
  String.join ((s.sections.takeWhile (·.kind != kind)).map (·.body ++ "\n\n"))

def linesBefore (s : Script) (kind : SectionKind) : Nat :=
  (Text.lines (s.textBefore kind).toList).length

lemma intercalate_concat (bodies : List String) (last : String) :
    "\n\n".intercalate (bodies ++ [last]) = String.join (bodies.map (· ++ "\n\n")) ++ last := by
  induction bodies with
  | nil => simp
  | cons body bodies ih =>
    rw [List.cons_append, String.intercalate_cons_of_ne_nil (by simp), ih, List.map_cons,
      String.join_cons]
    simp [String.append_assoc]

end Script

lemma closeLines_unlines {ls : List String} (h : ls ≠ []) :
    Text.closeLines (ls.map String.toList) = (unlines ls).toList ++ ['\n'] := by
  rw [unlines, String.toList_intercalate, show "\n".toList = ['\n'] from rfl]
  induction ls with
  | nil => exact absurd rfl h
  | cons l ls ih =>
    rw [List.map_cons, Text.closeLines_cons]
    by_cases hls : ls = []
    · simp [hls]
    · rw [ih hls, List.intercalate_cons_of_ne_nil (by simpa using hls)]
      simp

/-- A section with the blank line after it. -/
lemma closeLines_section {ls : List String} (h : ls ≠ []) :
    Text.closeLines ((ls ++ [""]).map String.toList) = (unlines ls ++ "\n\n").toList := by
  rw [List.map_append, Text.closeLines_append, closeLines_unlines h, String.toList_append,
    List.append_assoc]
  rfl

namespace Plan

/-- The lines of a section that is on or off. -/
def toggledLines (on : Bool) (lines : List String) (skipped : String) : List String :=
  if on then lines else [skipped]

lemma toggled_body (kind : SectionKind) (on : Bool) (lines : List String) (skipped : String) :
    (toggled kind on lines skipped).body = unlines (toggledLines on lines skipped) := by
  cases on <;> simp [toggled, toggledLines, unlines]

lemma toggled_kind (kind : SectionKind) (on : Bool) (lines : List String) (skipped : String) :
    (toggled kind on lines skipped).kind = kind := by
  cases on <;> rfl

lemma toggledLines_ne_nil (on : Bool) {lines : List String} (skipped : String) (h : lines ≠ []) :
    toggledLines on lines skipped ≠ [] := by
  cases on <;> simp [toggledLines, h]

/-- The sections ahead of the dependencies, each as its lines. -/
def setupBlocks (p : Plan) : List (List String) :=
  [["#!/bin/bash"]] ++
    (if p.system.installTools || p.system.configureFirewall then
      [toolCheckLines p.system.packageManager] else []) ++
    [toggledLines p.system.installTools p.toolLines toolsSkipped,
      toggledLines p.system.configureFirewall p.firewallLines firewallSkipped]

def setupSections (p : Plan) : List Section :=
  [⟨.shebang, true, "#!/bin/bash"⟩] ++
    (if p.system.installTools || p.system.configureFirewall then
      [⟨.helper, true, unlines (toolCheckLines p.system.packageManager)⟩] else []) ++
    [toggled .tools p.system.installTools p.toolLines toolsSkipped,
      toggled .firewall p.system.configureFirewall p.firewallLines firewallSkipped]

def requirementSection (p : Plan) : Section :=
  toggled .dependencies p.system.installDependencies p.dependencyLines dependenciesSkipped

def requirementLines (p : Plan) : List String :=
  toggledLines p.system.installDependencies p.dependencyLines dependenciesSkipped

lemma sections_eq (p : Plan) :
    p.sections = p.setupSections ++ [p.requirementSection, ⟨.sync, true, p.syncCommand⟩] := by
  simp only [sections, setupSections, requirementSection, List.append_assoc]
  rfl

lemma kind_of_mem_setupSections {p : Plan} {s : Section} (h : s ∈ p.setupSections) :
    s.kind ≠ .dependencies ∧ s.kind ≠ .sync := by
  simp only [setupSections, List.mem_append, List.mem_cons, List.not_mem_nil, or_false] at h
  rcases h with (rfl | h) | rfl | rfl
  · decide
  · split at h
    · rw [List.mem_singleton.1 h]
      exact ⟨by simp, by simp⟩
    · cases h
  · rw [toggled_kind]
    decide
  · rw [toggled_kind]
    decide

lemma map_body_setupSections (p : Plan) :
    p.setupSections.map Section.body = p.setupBlocks.map unlines := by
  unfold setupSections setupBlocks
  split <;> simp [toggled_body, unlines]

lemma setupBlocks_ne_nil {p : Plan} {block : List String} (h : block ∈ p.setupBlocks) :
    block ≠ [] := by
  simp only [setupBlocks, List.mem_append, List.mem_cons, List.not_mem_nil, or_false] at h
  rcases h with (rfl | h) | rfl | rfl
  · simp
  · split at h
    · rw [List.mem_singleton.1 h]
      simp [toolCheckLines]
    · cases h
  · exact toggledLines_ne_nil _ _ (by simp [toolLines])
  · exact toggledLines_ne_nil _ _ (by simp [firewallLines])

lemma requirementLines_ne_nil (p : Plan) : p.requirementLines ≠ [] :=
  toggledLines_ne_nil _ _ (by simp [dependencyLines])

/-- The lines ahead of the dependencies, with the blank lines between the sections. -/
def setupLines (p : Plan) : List String :=
  p.setupBlocks.flatMap (· ++ [""])

/-- The lines ahead of the sync command. -/
def fixedLines (p : Plan) : List String :=
  p.setupLines ++ (p.requirementLines ++ [""])

/-- The script that a plan compiles to when it has no faults. -/
def script (p : Plan) : Script :=
  ⟨p.sections⟩

lemma toList_join_blocks {blocks : List (List String)} (h : ∀ block ∈ blocks, block ≠ []) :
    (String.join (blocks.map fun block => unlines block ++ "\n\n")).toList =
      Text.closeLines ((blocks.flatMap (· ++ [""])).map String.toList) := by
  induction blocks with
  | nil => rfl
  | cons block blocks ih =>
    rw [List.map_cons, String.join_cons, String.toList_append, List.flatMap_cons, List.map_append,
      Text.closeLines_append, closeLines_section (h block (by simp)),
      ih fun b hb => h b (by simp [hb])]

lemma takeWhile_dependencies (p : Plan) :
    p.script.sections.takeWhile (·.kind != .dependencies) = p.setupSections := by
  rw [script, sections_eq, List.takeWhile_append_of_pos
    fun s hs => by simpa using (kind_of_mem_setupSections hs).1]
  simp [requirementSection, toggled_kind]

lemma takeWhile_sync (p : Plan) :
    p.script.sections.takeWhile (·.kind != .sync) = p.setupSections ++ [p.requirementSection] := by
  rw [script, sections_eq, List.takeWhile_append_of_pos
    fun s hs => by simpa using (kind_of_mem_setupSections hs).2]
  simp [requirementSection, toggled_kind]

lemma textBefore_dependencies (p : Plan) :
    (p.script.textBefore .dependencies).toList =
      Text.closeLines (p.setupLines.map String.toList) := by
  have hbodies : p.setupSections.map (·.body ++ "\n\n") =
      p.setupBlocks.map fun block => unlines block ++ "\n\n" := by
    have h := congrArg (List.map (· ++ "\n\n")) p.map_body_setupSections
    simpa only [List.map_map, Function.comp_def] using h
  rw [Script.textBefore, takeWhile_dependencies, hbodies, setupLines,
    toList_join_blocks fun b hb => setupBlocks_ne_nil hb]

lemma textBefore_sync (p : Plan) :
    (p.script.textBefore .sync).toList = Text.closeLines (p.fixedLines.map String.toList) := by
  have hbefore : p.script.textBefore .sync =
      p.script.textBefore .dependencies ++ (unlines p.requirementLines ++ "\n\n") := by
    rw [Script.textBefore, Script.textBefore, takeWhile_sync, takeWhile_dependencies,
      List.map_append, String.join_append]
    simp [requirementSection, requirementLines, toggled_body]
  rw [hbefore, String.toList_append, textBefore_dependencies, fixedLines, List.map_append,
    Text.closeLines_append, closeLines_section p.requirementLines_ne_nil]

lemma text_eq (p : Plan) :
    p.script.text = p.script.textBefore .sync ++ p.syncCommand ++ "\n" := by
  rw [Script.text, Script.textBefore, takeWhile_sync]
  have hsections : p.script.sections.map Section.body =
      (p.setupSections ++ [p.requirementSection]).map Section.body ++ [p.syncCommand] := by
    rw [script, sections_eq]
    simp
  rw [hsections, Script.intercalate_concat, List.map_map]
  rfl

/-- The text of a script: the fixed lines, each closed, and the sync command. -/
lemma toList_text (p : Plan) :
    p.script.text.toList =
      Text.closeLines (p.fixedLines.map String.toList) ++ (p.syncCommand.toList ++ ['\n']) := by
  rw [text_eq, String.toList_append, String.toList_append, textBefore_sync, List.append_assoc]
  rfl

lemma section?_dependencies (p : Plan) :
    p.script.section? .dependencies = some p.requirementSection := by
  rw [Script.section?, script, sections_eq, List.find?_append,
    List.find?_eq_none.2 fun s hs => by simpa using (kind_of_mem_setupSections hs).1]
  simp [requirementSection, toggled_kind]

lemma section?_sync (p : Plan) :
    p.script.section? .sync = some ⟨.sync, true, p.syncCommand⟩ := by
  rw [Script.section?, script, sections_eq, List.find?_append,
    List.find?_eq_none.2 fun s hs => by simpa using (kind_of_mem_setupSections hs).2]
  simp [requirementSection, toggled_kind]

lemma syncCommand_script (p : Plan) : p.script.syncCommand = p.syncCommand := by
  rw [Script.syncCommand, section?_sync]
  rfl

end Plan

lemma compile_eq_ok_iff (p : Plan) (s : Script) :
    compile p = .ok s ↔ p.faults = [] ∧ s = p.script := by
  unfold compile
  cases h : p.faults with
  | nil => simp [Plan.script, eq_comm]
  | cons fault faults => simp

lemma compile_of_faults {p : Plan} (h : p.faults ≠ []) : compile p = .error ⟨p.faults⟩ := by
  rw [compile, if_neg (by simpa using h)]

end SyncScript
