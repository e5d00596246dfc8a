import SyncScript.Proofs.Lint.Shape

/-!
# Tests with spaced brackets

The two rules for brackets know tests between single brackets, and report none that is written with
its blanks. They take a second bracket for a missing blank: of the tests between double brackets,
one that stands alone is reported for its end, and one after `if` for its beginning.
-/

namespace SyncScript

/-- The ways to write a test with the blanks that it needs. -/
inductive TestForm where
  | single
  | double
  | ifSingle
  | ifDouble
  deriving DecidableEq

namespace TestForm

def opening : TestForm → List Char
  | single => ['[', ' ']
  | double => ['[', '[', ' ']
  | ifSingle => ['i', 'f', ' ', '[', ' ']
  | ifDouble => ['i', 'f', ' ', '[', '[', ' ']

def closing : TestForm → List Char
  | single => [' ', ']']
  | double => [' ', ']', ']']
  | ifSingle => [' ', ']', ';', ' ', 't', 'h', 'e', 'n']
  | ifDouble => [' ', ']', ']', ';', ' ', 't', 'h', 'e', 'n']

def line (form : TestForm) (expression : List Char) : List Char :=
  form.opening ++ expression ++ form.closing

end TestForm

namespace TestForm

variable {expression : List Char}

lemma trim_line {indent : List Char} (h : ∀ c ∈ indent, Text.isSpace c = true) (form : TestForm)
    (expression : List Char) :
    Text.trim (indent ++ form.line expression) = form.line expression := by
  apply Text.trim_indented h
  · cases form <;> simp [line, opening, Text.isSpace]
  · cases form <;> simp [line, closing, Text.isSpace]

/-- After its opening a test holds no `[`, and so no text that holds one. -/
lemma not_infix_tail (h : '[' ∉ expression) (form : TestForm) (pattern : List Char)
    (hpattern : '[' ∈ pattern) : ¬ pattern <:+: expression ++ form.closing := by
  intro hpart
  rcases List.mem_append.1 (hpart.subset hpattern) with hmem | hmem
  · exact h hmem
  · cases form <;> simp [closing] at hmem

lemma lacksSpaceAfterBracket_line (h : '[' ∉ expression) (form : TestForm) :
    lacksSpaceAfterBracket (form.line expression) = true ↔ form = .ifDouble := by
  have htail := not_infix_tail h form
  have hif : "if [".toList = ['i', 'f', ' ', '['] := by rw [String.toList_ofList]
  have hblank : "if [ ".toList = ['i', 'f', ' ', '[', ' '] := by rw [String.toList_ofList]
  rw [lacksSpaceAfterBracket, Bool.and_eq_true, Bool.not_eq_true', ← Bool.not_eq_true,
    Text.occursIn_iff, Text.occursIn_iff, hif, hblank, line, List.append_assoc]
  cases form <;> simp [opening, List.infix_cons_iff, List.cons_prefix_cons, htail]

lemma lacksSpaceBeforeBracket_line (form : TestForm) (expression : List Char) :
    lacksSpaceBeforeBracket (form.line expression) = true ↔ form = .double := by
  have hopen : "[ ".toList = ['[', ' '] := by rw [String.toList_ofList]
  rw [lacksSpaceBeforeBracket, Bool.and_eq_true, Bool.and_eq_true, Bool.not_eq_true',
    ← Bool.not_eq_true, Text.occursIn_iff, hopen, line]
  cases form <;> simp [opening, closing, List.isSuffixOf, List.infix_cons_iff]

end TestForm

/-- Of the four ways to write a test with its blanks, the two rules for brackets report those with
double brackets and no others: the blank after the first bracket is missed after `if`, the one
before the last bracket where the line ends with it. The expression may hold anything but a `[`. -/
theorem bracketRules_report_iff {text : String} {n : Nat} {indent expression : List Char}
    {form : TestForm} (h : (Text.lines text.toList)[n]? = some (indent ++ form.line expression))
    (hindent : ∀ c ∈ indent, Text.isSpace c = true) (hexpression : '[' ∉ expression) :
    (Reports text "SC1035" (n + 1) ↔ form = .ifDouble) ∧
      (Reports text "SC1020" (n + 1) ↔ form = .double) := by
  have htrim := form.trim_line hindent expression
  have hblank : Text.trim (indent ++ form.line expression) ≠ [] := by
    rw [htrim]
    cases form <;> simp [TestForm.line, TestForm.opening]
  have hcomment : (Text.trim (indent ++ form.line expression)).head? ≠ some '#' := by
    rw [htrim]
    cases form <;> simp [TestForm.line, TestForm.opening]
  have hafter : Reports text "SC1035" (n + 1) ↔
      lacksSpaceAfterBracket (Text.trim (indent ++ form.line expression)) = true :=
    reports_iff_flags h hblank hcomment .spaceAfterBracket
  have hbefore : Reports text "SC1020" (n + 1) ↔
      lacksSpaceBeforeBracket (Text.trim (indent ++ form.line expression)) = true :=
    reports_iff_flags h hblank hcomment .spaceBeforeBracket
  rw [hafter, hbefore, htrim]
  exact ⟨TestForm.lacksSpaceAfterBracket_line hexpression form,
    TestForm.lacksSpaceBeforeBracket_line form expression⟩

/-- An indented test between single brackets is reported by neither rule, and its negation between
double brackets by one. -/
theorem bracketRules_report_iff_negation :
    (Text.lines "\tif [ -f x ]; then\n[[ ! -f x ]]".toList)[0]? =
        some (['\t'] ++ TestForm.ifSingle.line "-f x".toList) ∧
      (Text.lines "\tif [ -f x ]; then\n[[ ! -f x ]]".toList)[1]? =
        some ([] ++ TestForm.double.line "! -f x".toList) ∧
      ¬ Reports "\tif [ -f x ]; then\n[[ ! -f x ]]" "SC1035" 1 ∧
      ¬ Reports "\tif [ -f x ]; then\n[[ ! -f x ]]" "SC1020" 1 ∧
      Reports "\tif [ -f x ]; then\n[[ ! -f x ]]" "SC1020" 2 := by
  have hfirst : (Text.lines "\tif [ -f x ]; then\n[[ ! -f x ]]".toList)[0]? =
      some (['\t'] ++ TestForm.ifSingle.line "-f x".toList) := by
    repeat rw [String.toList_ofList]
    decide
  have hsecond : (Text.lines "\tif [ -f x ]; then\n[[ ! -f x ]]".toList)[1]? =
      some ([] ++ TestForm.double.line "! -f x".toList) := by
    repeat rw [String.toList_ofList]
    decide
  have hsingle := bracketRules_report_iff hfirst (by simp [Text.isSpace]) (by decide)
  have hdouble := bracketRules_report_iff hsecond (by simp) (by decide)
  exact ⟨hfirst, hsecond, fun h => absurd (hsingle.1.1 h) (by decide),
    fun h => absurd (hsingle.2.1 h) (by decide), hdouble.2.2 rfl⟩

/-- A test between double brackets is reported although all of its blanks are there, alone and after
`if`. -/
theorem doubleBrackets_reported :
    Text.lines "[[ -f x ]]\nif [[ -f x ]]; then".toList =
        [TestForm.double.line "-f x".toList, TestForm.ifDouble.line "-f x".toList] ∧
      (∀ c ∈ ['\n', '\r', '[', ']'], c ∉ "-f x".toList) ∧ ¬ "if".toList <:+: "-f x".toList ∧
      "-f x".toList.head? = some '-' ∧ "-f x".toList.getLast? = some 'x' ∧
      Reports "[[ -f x ]]\nif [[ -f x ]]; then" "SC1020" 1 ∧
      Reports "[[ -f x ]]\nif [[ -f x ]]; then" "SC1035" 2 := by
  refine ⟨?_, ?_, by decide, by decide, by decide, by decide, by decide⟩
  · repeat rw [String.toList_ofList]
    decide
  · rw [String.toList_ofList]
    simp

end SyncScript
