import SyncScript.Lint.Rule
import SyncScript.Proofs.Text.Parts

/-!
# Linting line by line

The findings in a text are those on its lines, one after the other, so a text can be linted in
parts when the line numbers of the later parts are moved. A line without `$`, `=` and `[` has no
findings, and a line without spaces can only be an unquoted expansion.
-/

namespace SyncScript

/-- The finding that many lines further down. -/
def Diagnostic.moved (k : Nat) (d : Diagnostic) : Diagnostic :=
  { d with line := d.line + k }

/-- The findings on lines that are numbered from `first`. -/
def lintFrom (first : Nat) (ls : List (List Char)) : List Diagnostic :=
  (ls.zipIdx first).flatMap fun (line, number) => lintLine line number

lemma lint_eq (script : String) : lint script = lintFrom 1 (Text.lines script.toList) := rfl

lemma lintFrom_cons (first : Nat) (l : List Char) (ls : List (List Char)) :
    lintFrom first (l :: ls) = lintLine l first ++ lintFrom (first + 1) ls := by
  simp [lintFrom]

lemma lintFrom_append (first : Nat) (ls ms : List (List Char)) :
    lintFrom first (ls ++ ms) = lintFrom first ls ++ lintFrom (first + ls.length) ms := by
  simp [lintFrom, List.zipIdx_append]

lemma lintLine_add (line : List Char) (number k : Nat) :
    lintLine line (number + k) = (lintLine line number).map (Diagnostic.moved k) := by
  unfold lintLine
  split
  · rfl
  · simp [Diagnostic.moved, Function.comp_def]

lemma lintFrom_add (first k : Nat) (ls : List (List Char)) :
    lintFrom (first + k) ls = (lintFrom first ls).map (Diagnostic.moved k) := by
  induction ls generalizing first with
  | nil => rfl
  | cons l ls ih =>
    rw [lintFrom_cons, lintFrom_cons, List.map_append, lintLine_add, Nat.add_right_comm, ih]

/-- A line with nothing to report. -/
def isSilent (line : List Char) : Bool :=
  isSkippedLine line || LintRule.all.all (! ·.flags line)

lemma lintLine_eq_nil_iff (line : List Char) (number : Nat) :
    lintLine line number = [] ↔ isSilent line = true := by
  unfold lintLine isSilent
  cases isSkippedLine line <;> simp

lemma lintFrom_eq_nil_iff (first : Nat) (ls : List (List Char)) :
    lintFrom first ls = [] ↔ ∀ l ∈ ls, isSilent l = true := by
  induction ls generalizing first with
  | nil => simp [lintFrom]
  | cons l ls ih => rw [lintFrom_cons, List.append_eq_nil_iff, lintLine_eq_nil_iff, ih]; simp

/-- A spaced assignment holds an equals sign, and a gap before or after it. -/
lemma mem_of_looksLikeSpacedAssignment {line : List Char}
    (h : looksLikeSpacedAssignment line = true) : '=' ∈ line ∧ ∃ c ∈ line, isGap c = true := by
  unfold looksLikeSpacedAssignment at h
  split at h
  · simp at h
  · rename_i c cs hline
    have hcs : cs ⊆ line := by
      intro d hd
      apply (List.dropWhile_suffix Text.isSpace).subset
      rw [← Text.trimStart, hline]
      exact List.mem_cons_of_mem c hd
    have hname : cs.dropWhile isNameChar ⊆ line := fun d hd =>
      hcs ((List.dropWhile_suffix isNameChar).subset hd)
    simp only [Bool.and_eq_true] at h
    obtain ⟨-, h⟩ := h
    split at h
    · rename_i value hvalue
      have hsuffix : '=' :: value ⊆ line := fun d hd =>
        hname ((List.dropWhile_suffix isGap).subset (hvalue ▸ hd))
      refine ⟨hsuffix (by simp), ?_⟩
      split at h
      · simp at h
      · simp only [Bool.and_eq_true, Bool.or_eq_true, Option.any_eq_true] at h
        rcases h.2 with ⟨g, hg, hgap⟩ | ⟨g, hg, hgap⟩
        · exact ⟨g, hname (List.mem_of_head? hg), hgap⟩
        · exact ⟨g, hsuffix (List.mem_cons_of_mem _ (List.mem_of_head? hg)), hgap⟩
    · simp at h

lemma flags_eq_false_of_not_mem {line : List Char} (hd : '$' ∉ line) (he : '=' ∉ line)
    (hb : '[' ∉ line) (rule : LintRule) : rule.flags line = false := by
  rw [← Bool.not_eq_true]
  intro h
  cases rule with
  | assignmentSpacing =>
    simp only [LintRule.flags, isSpacedAssignment, Bool.and_eq_true] at h
    exact he (mem_of_looksLikeSpacedAssignment h.2).1
  | unquotedExpansion =>
    simp only [LintRule.flags, isUnquotedExpansion, Bool.and_eq_true, List.contains_iff_mem] at h
    exact hd (Text.mem_of_mem_trim h.1.1.1.1.1.1)
  | spaceAfterBracket =>
    simp only [LintRule.flags, lacksSpaceAfterBracket, Bool.and_eq_true] at h
    exact hb (Text.mem_of_mem_trim (Text.mem_of_occursIn h.1 (by decide)))
  | spaceBeforeBracket =>
    simp only [LintRule.flags, lacksSpaceBeforeBracket, Bool.and_eq_true] at h
    exact hb (Text.mem_of_mem_trim (Text.mem_of_occursIn h.1.2 (by decide)))

lemma isSilent_of_not_mem {line : List Char} (hd : '$' ∉ line) (he : '=' ∉ line)
    (hb : '[' ∉ line) : isSilent line = true := by
  simp [isSilent, flags_eq_false_of_not_mem hd he hb]

lemma not_isGap_of_not_isSpace {c : Char} (h : Text.isSpace c = false) : isGap c = false := by
  rw [← Bool.not_eq_true]
  intro hg
  simp only [isGap, Bool.or_eq_true, beq_iff_eq] at hg
  rcases hg with rfl | rfl <;> simp [Text.isSpace] at h

/-- On a line without spaces only the expansion rule can speak. -/
lemma flags_of_no_space {line : List Char} (h : ∀ c ∈ line, Text.isSpace c = false)
    (rule : LintRule) :
    rule.flags line = (rule == .unquotedExpansion && isUnquotedExpansion line) := by
  have hblank : ' ' ∉ Text.trim line := fun hm => by
    have := h _ (Text.mem_of_mem_trim hm)
    simp [Text.isSpace] at this
  cases rule with
  | unquotedExpansion => simp [LintRule.flags, Text.trim_eq_self h]
  | assignmentSpacing =>
    simp only [LintRule.flags, isSpacedAssignment]
    cases hl : looksLikeSpacedAssignment line with
    | false => simp
    | true =>
      obtain ⟨-, c, hc, hgap⟩ := mem_of_looksLikeSpacedAssignment hl
      rw [not_isGap_of_not_isSpace (h c hc)] at hgap
      cases hgap
  | spaceAfterBracket =>
    have hif : Text.occursIn "if [".toList (Text.trim line) = false := by
      rw [← Bool.not_eq_true]
      exact fun ho => hblank (Text.mem_of_occursIn ho (by decide))
    rw [LintRule.flags, lacksSpaceAfterBracket, hif]
    rfl
  | spaceBeforeBracket =>
    have hopen : Text.occursIn "[ ".toList (Text.trim line) = false := by
      rw [← Bool.not_eq_true]
      exact fun ho => hblank (Text.mem_of_occursIn ho (by decide))
    rw [LintRule.flags, lacksSpaceBeforeBracket, hopen, Bool.and_false]
    rfl

end SyncScript
