import SyncScript.Proofs.Lint.Assignment
import SyncScript.Proofs.Text.Lines

/-!
# Linting trimmed lines

Of the four rules only the one for assignments looks at a whole line, and it flags a line exactly
when it flags the trimmed one. So the findings in a text depend on its trimmed lines alone, and a
text can be cut at any line end and linted in two parts.
-/

namespace SyncScript

namespace Text

lemma not_isWordChar_of_isSpace {c : Char} (h : isSpace c = true) : isWordChar c = false := by
  have hcodes : ∀ n ∈ spaceCodes, isWordChar (Char.ofNat n) = false := by
    decide +kernel
  exact of_isSpace (P := fun c => isWordChar c = false) hcodes h

lemma trim_dropReturn (line : List Char) : trim (dropReturn line) = trim line := by
  rw [dropReturn]
  split
  · rename_i hreturn
    obtain ⟨init, rfl⟩ := List.getLast?_eq_some_iff.1 hreturn
    rw [List.dropLast_concat, trim_append_space (by decide)]
  · rfl

lemma map_trim_lines_withReturns (cs : List Char) :
    (lines (withReturns cs)).map trim = (lines cs).map trim := by
  obtain ⟨init, last, hplain, hreturns⟩ := exists_splitAtEach_withReturns cs
  have hpiece : ∀ piece : List Char,
      trim (dropReturn (piece ++ ['\r'])) = trim (dropReturn piece) := by
    intro piece
    rw [trim_dropReturn, trim_dropReturn, trim_append_space (by decide)]
  rw [lines_of_splitAtEach hplain, lines_of_splitAtEach hreturns]
  simp [hpiece]

end Text

section Trim

variable {c : Char} {cs after : List Char}

lemma ne_of_isSpace {d : Char} (hc : Text.isSpace c = true) (hd : Text.isSpace d = false) :
    c ≠ d := by
  rintro rfl
  rw [hc] at hd
  cases hd

/-- Whether a text goes on with the `f` of a whole word `if`. -/
def completesIf : List Char → Bool
  | 'f' :: [] => true
  | 'f' :: d :: _ => ! Text.isWordChar d
  | _ => false

lemma hasIfWord_cons (inWord : Bool) (c : Char) (cs : List Char) :
    hasIfWord inWord (c :: cs) =
      ((! inWord && c == 'i' && completesIf cs) || hasIfWord (Text.isWordChar c) cs) := by
  rw [hasIfWord.eq_def]
  rfl

lemma hasIfWord_space_cons (hc : Text.isSpace c = true) (inWord : Bool) (cs : List Char) :
    hasIfWord inWord (c :: cs) = hasIfWord false cs := by
  have hi : (c == 'i') = false := beq_eq_false_iff_ne.2 (ne_of_isSpace hc (by decide))
  rw [hasIfWord_cons, hi, Text.not_isWordChar_of_isSpace hc, Bool.and_false, Bool.false_and,
    Bool.false_or]

lemma completesIf_append_spaces (h : ∀ c ∈ after, Text.isSpace c = true) (cs : List Char) :
    completesIf (cs ++ after) = completesIf cs := by
  cases after with
  | nil => rw [List.append_nil]
  | cons e after =>
    have he := h e List.mem_cons_self
    match cs with
    | [] =>
      have hf : e ≠ 'f' := ne_of_isSpace he (by decide)
      simp [completesIf, hf]
    | [d] =>
      by_cases hd : d = 'f'
      · subst hd
        simp [completesIf, Text.not_isWordChar_of_isSpace he]
      · simp [completesIf, hd]
    | d :: d' :: cs =>
      by_cases hd : d = 'f'
      · subst hd
        rfl
      · simp [completesIf, hd]

lemma hasIfWord_append_spaces (h : ∀ c ∈ after, Text.isSpace c = true) (inWord : Bool)
    (cs : List Char) : hasIfWord inWord (cs ++ after) = hasIfWord inWord cs := by
  induction cs generalizing inWord with
  | nil =>
    rw [List.nil_append]
    induction after generalizing inWord with
    | nil => rfl
    | cons c after ih =>
      rw [List.forall_mem_cons] at h
      rw [hasIfWord_space_cons h.1, ih h.2]
      rfl
  | cons c cs ih =>
    rw [List.cons_append, hasIfWord_cons, hasIfWord_cons, ih, completesIf_append_spaces h]

lemma hasIfWord_spaces_append {before : List Char} (h : ∀ c ∈ before, Text.isSpace c = true)
    (cs : List Char) : hasIfWord false (before ++ cs) = hasIfWord false cs := by
  induction before with
  | nil => rfl
  | cons c before ih =>
    rw [List.forall_mem_cons] at h
    rw [List.cons_append, hasIfWord_space_cons h.1, ih h.2]

/-- Spaces after a line do not bring the value of an assignment nearer. -/
lemma looksLikeSpacedAssignment_append_spaces (h : ∀ c ∈ after, Text.isSpace c = true)
    (cs : List Char) :
    looksLikeSpacedAssignment (cs ++ after) = looksLikeSpacedAssignment cs := by
  rw [Bool.eq_iff_iff, looksLikeSpacedAssignment_iff, looksLikeSpacedAssignment_iff]
  have hcs : cs <+: cs ++ after := List.prefix_append cs after
  refine exists_congr fun a => ⟨fun hpre => ?_, fun hpre => hpre.trans hcs⟩
  rcases Nat.le_total a.text.length cs.length with hle | hle
  · exact List.prefix_of_prefix_length_le hpre hcs hle
  · obtain ⟨s, hs⟩ := List.prefix_of_prefix_length_le hcs hpre hle
    rw [← hs, List.prefix_append_right_inj] at hpre
    obtain rfl | ⟨init, last, rfl⟩ := s.eq_nil_or_concat'
    · rw [← hs, List.append_nil]
    · -- the value would stand among the spaces
      have hvalue : a.value = last := a.eq_value (by rw [← hs, List.append_assoc])
      have hspace := h last (hpre.subset (by simp))
      rw [← hvalue, a.isSpace_value] at hspace
      cases hspace

lemma looksLikeSpacedAssignment_spaces_append {before : List Char}
    (h : ∀ c ∈ before, Text.isSpace c = true) (cs : List Char) :
    looksLikeSpacedAssignment (before ++ cs) = looksLikeSpacedAssignment cs := by
  have hstart : Text.trimStart (before ++ cs) = Text.trimStart cs :=
    List.dropWhile_append_of_pos h
  rw [looksLikeSpacedAssignment, looksLikeSpacedAssignment, hstart]

/-- The rule for assignments flags a line exactly when it flags the trimmed one. -/
lemma isSpacedAssignment_trim (line : List Char) :
    isSpacedAssignment (Text.trim line) = isSpacedAssignment line := by
  have hbracket : (Text.trim line).contains '[' = line.contains '[' := by
    rw [Bool.eq_iff_iff, List.contains_iff_mem, List.contains_iff_mem]
    exact ⟨Text.mem_of_mem_trim, fun h => Text.mem_trim h (by decide)⟩
  obtain ⟨before, after, hline, hbefore, hafter⟩ := Text.exists_append_trim line
  have hword : hasIfWord false line = hasIfWord false (Text.trim line) := by
    conv_lhs => rw [hline]
    rw [hasIfWord_spaces_append hbefore, hasIfWord_append_spaces hafter]
  have hlooks : looksLikeSpacedAssignment line = looksLikeSpacedAssignment (Text.trim line) := by
    conv_lhs => rw [hline]
    rw [looksLikeSpacedAssignment_spaces_append hbefore,
      looksLikeSpacedAssignment_append_spaces hafter]
  rw [isSpacedAssignment, isSpacedAssignment, hbracket, hword, hlooks]

end Trim

lemma flags_congr {line line' : List Char} (h : Text.trim line = Text.trim line')
    (rule : LintRule) : rule.flags line = rule.flags line' := by
  cases rule with
  | assignmentSpacing =>
    rw [LintRule.flags, LintRule.flags, ← isSpacedAssignment_trim, h, isSpacedAssignment_trim]
  | _ => rw [LintRule.flags, LintRule.flags, h]

lemma lintLine_congr {line line' : List Char} (h : Text.trim line = Text.trim line')
    (number : Nat) : lintLine line number = lintLine line' number := by
  have hskipped : isSkippedLine line = isSkippedLine line' := by
    rw [isSkippedLine, isSkippedLine, h]
  rw [lintLine, lintLine, hskipped]
  simp only [flags_congr h]

lemma lintFrom_congr {ls ls' : List (List Char)} (h : ls.map Text.trim = ls'.map Text.trim)
    (first : Nat) : lintFrom first ls = lintFrom first ls' := by
  induction ls generalizing ls' first with
  | nil =>
    rw [List.map_nil, eq_comm, List.map_eq_nil_iff] at h
    rw [h]
  | cons l ls ih =>
    obtain ⟨l', rest, rfl, hl, hrest⟩ := List.map_eq_cons_iff.1 h.symm
    rw [lintFrom_cons, lintFrom_cons, lintLine_congr hl, ih hrest.symm]

/-- The lines that the first part of a text ends up with, when it goes on after a line end, give
the same findings as the part on its own. -/
lemma lintFrom_map_dropReturn (cs : List Char) (first : Nat) :
    lintFrom first ((Text.splitAtEach '\n' cs).map Text.dropReturn) =
      lintFrom first (Text.lines cs) := by
  obtain ⟨init, last, hpieces, -⟩ := Text.exists_splitAtEach_withReturns cs
  rw [Text.lines_of_splitAtEach hpieces, hpieces, List.map_append, lintFrom_append, lintFrom_append,
    List.map_singleton]
  congr 1
  cases last with
  | nil => rfl
  | cons c last => exact lintFrom_congr (by simp [Text.trim_dropReturn]) _

/-- A text that is cut at a line end has the findings of its first part and, moved by the lines up
to the cut, those of the second. Only the trimmed lines of a text matter, and not whether its lines
end in a carriage return. -/
theorem lint_compositional :
    (∀ a b : String, lint (a ++ "\n" ++ b) =
      lint a ++ (lint b).map (Diagnostic.moved (1 + a.toList.count '\n'))) ∧
    (∀ a b : String, (Text.lines a.toList).map Text.trim = (Text.lines b.toList).map Text.trim →
      lint a = lint b) ∧
    ∀ a : String, lint (String.ofList (Text.withReturns a.toList)) = lint a := by
  refine ⟨fun a b => ?_, fun a b h => ?_, fun a => ?_⟩
  · have htext : (a ++ "\n" ++ b).toList = a.toList ++ '\n' :: b.toList := by simp
    rw [lint_eq, htext, Text.lines_append_newline, lintFrom_append, lintFrom_map_dropReturn,
      List.length_map, Text.length_splitAtEach, lintFrom_add, ← lint_eq, ← lint_eq]
  · rw [lint_eq, lint_eq]
    exact lintFrom_congr h 1
  · rw [lint_eq, lint_eq, String.toList_ofList]
    exact lintFrom_congr (Text.map_trim_lines_withReturns a.toList) 1

/-- An indent, a tab after a line and a carriage return change no finding. -/
theorem lint_compositional_indented :
    (Text.lines "\u3000A = 1\t\r\n  echo $x".toList).map Text.trim =
        (Text.lines "A = 1\necho $x".toList).map Text.trim ∧
      lint "\u3000A = 1\t\r\n  echo $x" = lint "A = 1\necho $x" ∧
      (lint "A = 1\necho $x").map Diagnostic.line = [1, 2] := by
  have htrim : (Text.lines "\u3000A = 1\t\r\n  echo $x".toList).map Text.trim =
      (Text.lines "A = 1\necho $x".toList).map Text.trim := by
    repeat rw [String.toList_ofList]
    decide
  exact ⟨htrim, lint_compositional.2.1 _ _ htrim, by decide⟩

end SyncScript
