import SyncScript.Output.Report
import SyncScript.Proofs.Document.FieldTypes
import SyncScript.Proofs.Document.JsonText
import SyncScript.Proofs.Lint.Shape

/-!
# What is printed

What the commands print, field by field: findings, totals and sections, on lines for people and in
the documents that are printed in JSON. Those are plain, so what they say can be read back from the
text.
-/

namespace SyncScript

/-! ### Fields that are shown -/

/-- A severity for people, bold and in red or yellow if there is colour. -/
def Severity.shownMark : Severity → Bool → String
  | .error, false => "❌ [ERROR]"
  | .error, true => "❌ \x1b[1m\x1b[31m[ERROR]\x1b[39m\x1b[0m"
  | .warning, false => "⚠️ [WARN]"
  | .warning, true => "⚠️ \x1b[1m\x1b[33m[WARN]\x1b[39m\x1b[0m"

/-- A finding on a line for people. -/
def Diagnostic.shownLine (d : Diagnostic) (color : Bool) : String :=
  d.severity.shownMark color ++ " " ++ (if color then "\x1b[1m" else "") ++ "line " ++
    toString d.line ++ (if color then "\x1b[0m" else "") ++ " (rule=" ++ d.ruleId ++ ") — " ++
    d.message

/-- A finding in JSON. -/
def Diagnostic.shownDocument (d : Diagnostic) : Document :=
  .mapping [(.text "rule_id", .text d.ruleId),
    (.text "severity", .text (if d.severity = .error then "error" else "warning")),
    (.text "line", .integer d.line), (.text "message", .text d.message)]

/-- A section in JSON. -/
def Section.shownDocument (part : Section) : Document :=
  .mapping [(.text "kind", .text (match part.kind with
      | .shebang => "shebang"
      | .helper => "helper"
      | .tools => "tools"
      | .firewall => "firewall"
      | .dependencies => "dependencies"
      | .sync => "sync")),
    (.text "populated", .bool part.populated), (.text "body", .text part.body)]

namespace Report

lemma isPlain_diagnosticDocument (d : Diagnostic) : Json.IsPlain (diagnosticDocument d) := by
  refine .mapping (by simp [entry]) ?_
  simp only [List.forall_mem_cons, entry, count]
  exact ⟨.text _, .text _, .integer _, .text _, nofun⟩

lemma isPlain_summaryDocument (s : LintSummary) : Json.IsPlain (summaryDocument s) := by
  refine .mapping (by simp [entry]) ?_
  simp only [List.forall_mem_cons, entry, count]
  exact ⟨.integer _, .integer _, nofun⟩

lemma isPlain_sectionDocument (s : Section) : Json.IsPlain (sectionDocument s) := by
  refine .mapping (by simp [entry]) ?_
  simp only [List.forall_mem_cons, entry]
  exact ⟨.text _, .bool _, .text _, nofun⟩

lemma isPlain_compiledDocument (s : Script) (r : LintReport) (wrote : Option String) :
    Json.IsPlain (compiledDocument s r wrote) := by
  have hsections : ∀ d ∈ s.sections.map sectionDocument, Json.IsPlain d :=
    List.forall_mem_map.2 fun part _ => isPlain_sectionDocument part
  have hdiagnostics : ∀ d ∈ r.diagnostics.map diagnosticDocument, Json.IsPlain d :=
    List.forall_mem_map.2 fun d _ => isPlain_diagnosticDocument d
  have hwrote : Json.IsPlain ((wrote.map Document.text).getD .null) := by
    cases wrote with
    | none => exact .null
    | some path => exact .text path
  refine .mapping (by simp [entry]) ?_
  simp only [List.forall_mem_cons, entry]
  exact ⟨.text _, .sequence hsections, .sequence hdiagnostics, isPlain_summaryDocument _, hwrote,
    nofun⟩

/-- Bold text has a code before it and one after it, if there is colour. -/
lemma bold_eq (color : Bool) (s : String) :
    Style.bold color s =
      (if color then "\x1b[1m" else "") ++ s ++ (if color then "\x1b[0m" else "") := by
  cases color <;> simp [Style.bold]

lemma severityMark_eq (color : Bool) (severity : Severity) :
    severityMark color severity = severity.shownMark color := by
  cases severity <;> cases color <;> decide

lemma diagnosticLine_eq (d : Diagnostic) (color : Bool) :
    diagnosticLine d none color = d.shownLine color := by
  rw [diagnosticLine, bold_eq, severityMark_eq, Diagnostic.shownLine]
  simp only [String.append_assoc]

lemma printLines_concat (lines : List String) (last : String) :
    printLines (lines ++ [last]) = String.join (lines.map (· ++ "\n")) ++ last ++ "\n" := by
  rw [printLines, List.map_append, String.join_append, String.append_assoc]
  simp

lemma diagnosticDocument_eq (d : Diagnostic) : diagnosticDocument d = d.shownDocument := by
  rw [diagnosticDocument, Diagnostic.shownDocument]
  cases d.severity <;> rfl

lemma sectionDocument_eq (part : Section) : sectionDocument part = part.shownDocument := by
  rw [sectionDocument, Section.shownDocument]
  cases part.kind <;> rfl

/-- For people a script is printed apart from its findings, and their numbers come last. -/
lemma compiled_human (s : Script) (r : LintReport) (color : Bool) :
    (compiled s r .human color none).out = s.text ∧
    (compiled s r .human color none).err =
      String.join (r.diagnostics.map fun d => d.shownLine color ++ "\n") ++
        (if color then "\x1b[1m" else "") ++ "— Summary — errors=" ++
        toString (r.diagnostics.countP (·.severity == .error)) ++ " warnings=" ++
        toString (r.diagnostics.countP (·.severity == .warning)) ++
        (if color then "\x1b[0m" else "") ++ "\n" := by
  constructor
  · rfl
  · have hlines : r.diagnostics.map (diagnosticLine · none color) =
        r.diagnostics.map (·.shownLine color) :=
      List.map_congr_left fun d _ => diagnosticLine_eq d color
    rw [compiled]
    dsimp only
    rw [hlines, printLines_concat, List.map_map, summaryLine, bold_eq, r.summary_eq.1]
    simp only [Function.comp_def, String.append_assoc, String.append_empty]

lemma preview_human (command : String) : preview command .human = { out := command ++ "\n" } := by
  simp [preview, printLines]

/-- The values in the JSON of a compiled script. -/
lemma compiledDocument_members (s : Script) (r : LintReport) (wrote : Option String) :
    (compiledDocument s r wrote).member? "script" = some (.text s.text) ∧
    (compiledDocument s r wrote).member? "sections" =
      some (.sequence (s.sections.map Section.shownDocument)) ∧
    (compiledDocument s r wrote).member? "diagnostics" =
      some (.sequence (r.diagnostics.map Diagnostic.shownDocument)) ∧
    (compiledDocument s r wrote).member? "summary" =
      some (.mapping [(.text "errors", .integer (r.diagnostics.countP (·.severity == .error))),
        (.text "warnings", .integer (r.diagnostics.countP (·.severity == .warning)))]) := by
  have hsections : s.sections.map sectionDocument = s.sections.map Section.shownDocument :=
    List.map_congr_left fun part _ => sectionDocument_eq part
  have hdiagnostics :
      r.diagnostics.map diagnosticDocument = r.diagnostics.map Diagnostic.shownDocument :=
    List.map_congr_left fun d _ => diagnosticDocument_eq d
  rw [compiledDocument, hsections, hdiagnostics, r.summary_eq.1, summaryDocument]
  refine ⟨?_, ?_, ?_, ?_⟩ <;>
    simp [entry, count, Document.member?, Document.entries?, Document.valueOf?_cons,
      Document.text?]

lemma isPlain_commandDocument (command : String) :
    Json.IsPlain (.mapping [entry "command" (.text command)]) := by
  refine .mapping (by simp [entry]) ?_
  simp only [List.forall_mem_cons, entry]
  exact ⟨.text _, nofun⟩

lemma isPlain_reportDocument (r : LintReport) : Json.IsPlain (reportDocument r) := by
  have hdiagnostics : ∀ d ∈ r.diagnostics.map diagnosticDocument, Json.IsPlain d :=
    List.forall_mem_map.2 fun d _ => isPlain_diagnosticDocument d
  cases hfile : r.file with
  | none =>
    rw [reportDocument, hfile]
    refine .mapping (by simp [entry]) ?_
    simp only [Option.map_none, Option.toList_none, List.nil_append, List.forall_mem_cons, entry]
    exact ⟨.sequence hdiagnostics, isPlain_summaryDocument _, nofun⟩
  | some file =>
    rw [reportDocument, hfile]
    refine .mapping (by simp [entry]) ?_
    simp only [Option.map_some, Option.toList_some, List.singleton_append, List.forall_mem_cons,
      entry]
    exact ⟨.text _, .sequence hdiagnostics, isPlain_summaryDocument _, nofun⟩

lemma isPlain_failureDocument (f : ReadFailure) :
    Json.IsPlain (.mapping [entry "file" (.text f.file), entry "message" (.text f.message)]) := by
  refine .mapping (by simp [entry]) ?_
  simp only [List.forall_mem_cons, entry]
  exact ⟨.text _, .text _, nofun⟩

lemma isPlain_lintDocument (reports : List LintReport) (failures : List ReadFailure) :
    Json.IsPlain (lintDocument reports failures) := by
  have hreports : ∀ d ∈ reports.map reportDocument, Json.IsPlain d :=
    List.forall_mem_map.2 fun r _ => isPlain_reportDocument r
  have hfailures : ∀ d ∈ failures.map (fun f => Document.mapping [entry "file" (.text f.file),
      entry "message" (.text f.message)]), Json.IsPlain d :=
    List.forall_mem_map.2 fun f _ => isPlain_failureDocument f
  have htotals : Json.IsPlain (.mapping [entry "errors" (count (total reports).errors),
      entry "warnings" (count (total reports).warnings),
      entry "files" (count reports.length)]) := by
    refine .mapping (by simp [entry]) ?_
    simp only [List.forall_mem_cons, entry, count]
    exact ⟨.integer _, .integer _, .integer _, nofun⟩
  refine .mapping (by simp [entry]) ?_
  simp only [List.forall_mem_cons, entry]
  exact ⟨.sequence hreports, .sequence hfailures, htotals, nofun⟩

end Report

end SyncScript
