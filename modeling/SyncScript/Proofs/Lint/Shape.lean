import Mathlib.Data.List.Range
import SyncScript.Proofs.Lint.Lines

/-!
# The shape of lint reports

Findings come by line, and on a line in the order of the rules. Each is a rule that flags a line
which is neither blank nor a comment, and a line that is flagged as an assignment is flagged for
nothing else. A report counts its errors, and the other findings are warnings.
-/

namespace SyncScript

/-- The rules by their names, in the order in which they report on a line. -/
def ruleOrder : List String :=
  ["SC1068", "SC2086", "SC1035", "SC1020"]

/-- The order of findings: by line, and on a line by rule. -/
def Diagnostic.Precedes (d e : Diagnostic) : Prop :=
  d.line < e.line ∨ d.line = e.line ∧ ruleOrder.idxOf d.ruleId < ruleOrder.idxOf e.ruleId

/-- The finding of a rule on a line. -/
def LintRule.finding (rule : LintRule) (number : Nat) : Diagnostic :=
  ⟨rule.id, rule.severity, number, rule.message⟩

lemma lintLine_eq (line : List Char) (number : Nat) :
    lintLine line number =
      if isSkippedLine line then []
      else (LintRule.all.filter (·.flags line)).map (·.finding number) :=
  rfl

lemma LintRule.mem_all (rule : LintRule) : rule ∈ LintRule.all := by
  cases rule <;> simp [all]

lemma LintRule.severity_eq (rule : LintRule) :
    rule.id ∈ ruleOrder ∧ rule.severity = if rule.id = "SC2086" then .warning else .error := by
  cases rule <;> decide

lemma LintRule.eq_of_id_eq {rule rule' : LintRule} : rule.id = rule'.id → rule = rule' := by
  cases rule <;> cases rule' <;> decide

lemma LintRule.eq_assignmentSpacing (rule : LintRule) :
    rule.id = "SC1068" → rule = .assignmentSpacing := by
  intro h
  exact eq_of_id_eq (h.trans rfl)

lemma mem_lintLine {line : List Char} {number : Nat} {d : Diagnostic} :
    d ∈ lintLine line number ↔ isSkippedLine line = false ∧
      ∃ rule : LintRule, rule.flags line = true ∧ d = rule.finding number := by
  rw [lintLine_eq]
  cases isSkippedLine line with
  | true => simp
  | false =>
    simp only [Bool.false_eq_true, if_false, true_and, List.mem_map, List.mem_filter,
      LintRule.mem_all, eq_comm]

lemma isSkippedLine_eq_false_iff {line : List Char} :
    isSkippedLine line = false ↔
      Text.trim line ≠ [] ∧ (Text.trim line).head? ≠ some '#' := by
  unfold isSkippedLine
  cases Text.trim line <;> simp

/-- What the linter reports: every rule that flags a line which is neither blank nor a comment. -/
lemma mem_lint {text : String} {d : Diagnostic} :
    d ∈ lint text ↔ ∃ (rule : LintRule) (line : List Char) (number : Nat),
      d = rule.finding number ∧ 1 ≤ number ∧
      (Text.lines text.toList)[number - 1]? = some line ∧ isSkippedLine line = false ∧
      rule.flags line = true := by
  simp only [lint, List.mem_flatMap, List.mem_zipIdx_iff_le_and_getElem?_sub, mem_lintLine]
  constructor
  · rintro ⟨⟨line, number⟩, ⟨hnumber, hline⟩, hskipped, rule, hflags, rfl⟩
    exact ⟨rule, line, number, rfl, hnumber, hline, hskipped, hflags⟩
  · rintro ⟨rule, line, number, rfl, hnumber, hline, hskipped, hflags⟩
    exact ⟨(line, number), ⟨hnumber, hline⟩, hskipped, rule, hflags, rfl⟩

/-- Linting a text reports the rule with that name on the line with that number. -/
def Reports (text ruleId : String) (number : Nat) : Prop :=
  ∃ d ∈ lint text, d.ruleId = ruleId ∧ d.line = number

instance (text ruleId : String) (number : Nat) : Decidable (Reports text ruleId number) :=
  inferInstanceAs (Decidable (∃ d ∈ lint text, d.ruleId = ruleId ∧ d.line = number))

/-- A rule is reported on a line exactly when it flags the line and the line is not skipped. -/
lemma reports_iff {text : String} {n : Nat} {line : List Char}
    (h : (Text.lines text.toList)[n]? = some line) (rule : LintRule) :
    Reports text rule.id (n + 1) ↔ isSkippedLine line = false ∧ rule.flags line = true := by
  constructor
  · rintro ⟨d, hd, hid, hnumber⟩
    obtain ⟨rule', line', number, rfl, -, hline, hskipped, hflags⟩ := mem_lint.1 hd
    have hrule : rule' = rule := LintRule.eq_of_id_eq hid
    have hindex : number = n + 1 := hnumber
    rw [hindex, Nat.add_sub_cancel, h, Option.some.injEq] at hline
    rw [← hrule, hline]
    exact ⟨hskipped, hflags⟩
  · rintro ⟨hskipped, hflags⟩
    exact ⟨rule.finding (n + 1), mem_lint.2 ⟨rule, line, n + 1, rfl, Nat.le_add_left 1 n, h,
      hskipped, hflags⟩, rfl, rfl⟩

/-- On a line that is neither blank nor a comment every rule that flags it is reported. -/
lemma reports_iff_flags {text : String} {n : Nat} {line : List Char}
    (h : (Text.lines text.toList)[n]? = some line) (hblank : Text.trim line ≠ [])
    (hcomment : (Text.trim line).head? ≠ some '#') (rule : LintRule) :
    Reports text rule.id (n + 1) ↔ rule.flags line = true := by
  rw [reports_iff h, isSkippedLine_eq_false_iff]
  exact and_iff_right ⟨hblank, hcomment⟩

lemma line_of_mem_lintLine {line : List Char} {number : Nat} {d : Diagnostic}
    (h : d ∈ lintLine line number) : d.line = number := by
  obtain ⟨-, rule, -, rfl⟩ := mem_lintLine.1 h
  rfl

lemma pairwise_lintLine (line : List Char) (number : Nat) :
    (lintLine line number).Pairwise Diagnostic.Precedes := by
  have hrules : LintRule.all.Pairwise fun rule rule' =>
      ruleOrder.idxOf rule.id < ruleOrder.idxOf rule'.id := by
    decide
  rw [lintLine_eq]
  split
  · exact List.Pairwise.nil
  · rw [List.pairwise_map]
    exact (hrules.filter _).imp fun h => Or.inr ⟨rfl, h⟩

lemma pairwise_lint (text : String) : (lint text).Pairwise Diagnostic.Precedes := by
  have hnumbers : ((Text.lines text.toList).zipIdx 1).Pairwise fun a b => a.2 < b.2 := by
    rw [← List.pairwise_map, List.zipIdx_map_snd]
    exact List.pairwise_lt_range'
  rw [lint, List.pairwise_flatMap]
  refine ⟨fun a _ => pairwise_lintLine a.1 a.2, hnumbers.imp fun hlt d hd e he => Or.inl ?_⟩
  rw [line_of_mem_lintLine hd, line_of_mem_lintLine he]
  exact hlt

/-- A line that is flagged as an assignment holds an equals sign and no bracket, so that no other
rule can flag it. -/
lemma eq_assignmentSpacing_of_flags {line : List Char} {rule : LintRule}
    (hspaced : LintRule.assignmentSpacing.flags line = true) (h : rule.flags line = true) :
    rule = .assignmentSpacing := by
  simp only [LintRule.flags, isSpacedAssignment, Bool.and_eq_true, Bool.not_eq_true',
    List.contains_eq_mem, decide_eq_false_iff_not] at hspaced
  obtain ⟨⟨hbracket, -⟩, hlooks⟩ := hspaced
  have hequals : '=' ∈ Text.trim line :=
    Text.mem_trim (mem_of_looksLikeSpacedAssignment hlooks).1 (by decide)
  cases rule with
  | assignmentSpacing => rfl
  | unquotedExpansion => simp [LintRule.flags, isUnquotedExpansion, hequals] at h
  | spaceAfterBracket =>
    simp only [LintRule.flags, lacksSpaceAfterBracket, Bool.and_eq_true] at h
    exact absurd (Text.mem_of_mem_trim (Text.mem_of_occursIn h.1 (by decide))) hbracket
  | spaceBeforeBracket =>
    simp only [LintRule.flags, lacksSpaceBeforeBracket, Bool.and_eq_true] at h
    exact absurd (Text.mem_of_mem_trim (Text.mem_of_occursIn h.1.2 (by decide))) hbracket

/-- The counts of a report add up to its findings. -/
lemma LintReport.summary_eq (r : LintReport) :
    r.summary = ⟨r.diagnostics.countP (·.severity == .error),
      r.diagnostics.countP (·.severity == .warning)⟩ ∧
      r.summary.errors + r.summary.warnings = r.diagnostics.length := by
  have hlength := List.length_eq_countP_add_countP (p := fun d => d.severity == .error)
    (l := r.diagnostics)
  have hwarnings : r.diagnostics.countP (fun d => ¬ (d.severity == .error) = true) =
      r.diagnostics.countP (·.severity == .warning) := by
    refine List.countP_congr fun d _ => ?_
    cases d.severity <;> decide
  rw [hwarnings] at hlength
  rw [summary, ← List.countP_eq_length_filter]
  constructor
  · congr 1
    omega
  · dsimp only
    omega

/-- What holds of the report on a text, whatever the text is. -/
structure LintReport.IsShaped (text : String) (r : LintReport) : Prop where
  /-- Findings come by line, and on a line by rule. -/
  ordered : r.diagnostics.Pairwise Diagnostic.Precedes
  distinct : (r.diagnostics.map fun d => (d.ruleId, d.line)).Nodup
  /-- A finding is that of a rule which flags a line that is neither blank nor a comment. -/
  mem_iff : ∀ d, d ∈ r.diagnostics ↔ ∃ (rule : LintRule) (line : List Char),
    d = rule.finding d.line ∧ 1 ≤ d.line ∧
    (Text.lines text.toList)[d.line - 1]? = some line ∧
    Text.trim line ≠ [] ∧ (Text.trim line).head? ≠ some '#' ∧ rule.flags line = true
  bounded : ∀ d ∈ r.diagnostics, 1 ≤ d.line ∧ d.line ≤ (Text.lines text.toList).length
  severity : ∀ d ∈ r.diagnostics, d.ruleId ∈ ruleOrder ∧
    d.severity = if d.ruleId = "SC2086" then .warning else .error
  /-- A line that is flagged as an assignment has no other finding. -/
  alone : ∀ d ∈ r.diagnostics, ∀ e ∈ r.diagnostics, d.ruleId = "SC1068" → e.line = d.line → e = d
  errors : r.summary.errors = r.diagnostics.countP (·.severity == .error)
  warnings : r.summary.warnings = r.diagnostics.countP (·.severity == .warning)
  total : r.summary.errors + r.summary.warnings = r.diagnostics.length
  clean : r.isClean = true ↔ r.summary.errors = 0 ∧ r.summary.warnings = 0

lemma Diagnostic.Precedes.ne {d e : Diagnostic} (h : d.Precedes e) :
    (d.ruleId, d.line) ≠ (e.ruleId, e.line) := by
  intro heq
  rw [Prod.mk.injEq] at heq
  rcases h with h | ⟨-, h⟩
  · omega
  · rw [heq.1] at h
    exact absurd h (Nat.lt_irrefl _)

/-- Every report has the same shape. -/
theorem lintReport_isShaped (file : Option String) (text : String) :
    (lintReport file text).IsShaped text where
  ordered := pairwise_lint text
  distinct := by
    rw [lintReport, List.Nodup, List.pairwise_map]
    exact (pairwise_lint text).imp Diagnostic.Precedes.ne
  mem_iff d := by
    rw [lintReport, mem_lint]
    simp only [isSkippedLine_eq_false_iff]
    constructor
    · rintro ⟨rule, line, number, rfl, hnumber, hline, ⟨hblank, hcomment⟩, hflags⟩
      exact ⟨rule, line, rfl, hnumber, hline, hblank, hcomment, hflags⟩
    · rintro ⟨rule, line, hd, hnumber, hline, hblank, hcomment, hflags⟩
      exact ⟨rule, line, d.line, hd, hnumber, hline, ⟨hblank, hcomment⟩, hflags⟩
  bounded d hd := by
    simp only [lintReport] at hd
    obtain ⟨rule, line, number, rfl, hnumber, hline, -⟩ := mem_lint.1 hd
    obtain ⟨hlt, -⟩ := List.getElem?_eq_some_iff.1 hline
    exact ⟨hnumber, Nat.le_of_pred_lt hlt⟩
  severity d hd := by
    simp only [lintReport] at hd
    obtain ⟨rule, line, number, rfl, -⟩ := mem_lint.1 hd
    exact rule.severity_eq
  alone d hd e he hspaced hline := by
    simp only [lintReport] at hd he
    obtain ⟨rule, line, number, rfl, -, hget, -, hflags⟩ := mem_lint.1 hd
    obtain ⟨rule', line', number', rfl, -, hget', -, hflags'⟩ := mem_lint.1 he
    have hnumber : number' = number := hline
    have hrule : rule = .assignmentSpacing := rule.eq_assignmentSpacing hspaced
    rw [hnumber, hget, Option.some.injEq] at hget'
    rw [hrule] at hflags
    rw [← hget'] at hflags'
    rw [eq_assignmentSpacing_of_flags hflags hflags', hrule, hnumber]
  errors := by rw [(lintReport file text).summary_eq.1]
  warnings := by rw [(lintReport file text).summary_eq.1]
  total := (lintReport file text).summary_eq.2
  clean := by
    have htotal := (lintReport file text).summary_eq.2
    rw [LintReport.isClean, List.isEmpty_iff_length_eq_zero]
    omega

end SyncScript
