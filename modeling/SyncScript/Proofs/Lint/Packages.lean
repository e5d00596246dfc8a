import SyncScript.Proofs.Lint.Lines
import SyncScript.Proofs.Script.TextLines

/-!
# Package names under the linter

A package name is a line of its own in a script. It holds no spaces, so of the four rules only the
one for unquoted expansions can flag it, and this one by the characters of the name alone.
-/

namespace SyncScript

/-- A name that reads like an expansion: a dollar sign, no quote and no equals sign, and not the
beginning of a comment, a test, a loop or a tool check. -/
def isExposed (name : String) : Bool :=
  name.toList.contains '$' && ! name.toList.contains '"' && ! name.toList.contains '\'' &&
    ! name.toList.contains '=' && ! ["#", "if", "while", "check_tool"].any (Text.beginsWith name)

/-- One warning for each exposed name, with the line of the name; the first name stands on line
`first` and every other on the line after the name before it. -/
def packageFindings (first : Nat) (names : List String) : List Diagnostic :=
  ((names.zipIdx first).filter fun (name, _) => isExposed name).map fun (_, number) =>
    ⟨"SC2086", .warning, number, LintRule.unquotedExpansion.message⟩

lemma packageFindings_cons (first : Nat) (name : String) (names : List String) :
    packageFindings first (name :: names) =
      (if isExposed name then
        [⟨"SC2086", .warning, first, LintRule.unquotedExpansion.message⟩] else []) ++
        packageFindings (first + 1) names := by
  cases h : isExposed name <;> simp [packageFindings, h]

lemma packageFindings_eq_nil_iff (first : Nat) (names : List String) :
    packageFindings first names = [] ↔ ∀ name ∈ names, isExposed name = false := by
  induction names generalizing first with
  | nil => simp [packageFindings]
  | cons name names ih =>
    rw [packageFindings_cons, List.append_eq_nil_iff, ih]
    simp

lemma severity_of_mem_packageFindings {first : Nat} {names : List String} {d : Diagnostic}
    (h : d ∈ packageFindings first names) : d.severity = .warning := by
  obtain ⟨name, -, rfl⟩ := List.mem_map.1 h
  rfl

/-- A name without spaces is flagged exactly when it is exposed. -/
lemma lintLine_name {name : String} (hblank : Text.isBlank name = false)
    (hspace : ∀ c ∈ name.toList, Text.isSpace c = false) (number : Nat) :
    lintLine name.toList number =
      if isExposed name then
        [⟨"SC2086", .warning, number, LintRule.unquotedExpansion.message⟩] else [] := by
  have hskip : isSkippedLine name.toList = Text.beginsWith name "#" := by
    unfold isSkippedLine Text.beginsWith
    rw [Text.trim_eq_self hspace]
    cases hname : name.toList with
    | nil => simp [Text.isBlank, hname] at hblank
    | cons c cs =>
      change (c == '#') = ('#' == c && true)
      rw [Bool.and_true, BEq.comm]
  have hexposed :
      isExposed name = (isUnquotedExpansion name.toList && ! Text.beginsWith name "#") := by
    have hif : Text.beginsWith name "if" = ['i', 'f'].isPrefixOf name.toList := rfl
    have hwhile : Text.beginsWith name "while" = ['w', 'h', 'i', 'l', 'e'].isPrefixOf name.toList :=
      rfl
    have htool : Text.beginsWith name "check_tool" = "check_tool".toList.isPrefixOf name.toList :=
      rfl
    simp only [isExposed, isUnquotedExpansion, List.any_cons, List.any_nil, Bool.or_false,
      Bool.not_or, hif, hwhile, htool]
    -- the same tests in another order
    ac_rfl
  have hrules : LintRule.all.filter (·.flags name.toList) =
      if isUnquotedExpansion name.toList then [.unquotedExpansion] else [] := by
    simp only [flags_of_no_space hspace]
    cases isUnquotedExpansion name.toList <;> rfl
  rw [lintLine, hskip, hexposed, hrules]
  cases Text.beginsWith name "#" <;> cases isUnquotedExpansion name.toList <;> rfl

/-- The findings on the names of a plan without faults. -/
lemma lintFrom_names {p : Plan} (h : p.faults = []) (first : Nat) :
    lintFrom first (p.system.pythonPackages.names.map String.toList) =
      packageFindings first p.system.pythonPackages.names := by
  have hall : ∀ names : List String, (∀ name ∈ names, name ∈ p.system.pythonPackages.names) →
      ∀ first, lintFrom first (names.map String.toList) = packageFindings first names := by
    intro names hnames
    induction names with
    | nil => exact fun _ => rfl
    | cons name names ih =>
      intro first
      have hname := hnames name (by simp)
      rw [List.map_cons, lintFrom_cons, packageFindings_cons,
        ih fun n hn => hnames n (by simp [hn]),
        lintLine_name (p.system.pythonPackages.not_blank name hname)
          fun c hc => (Plan.isSpace_of_mem_name h hname hc).1]
  exact hall _ (fun _ hname => hname) first

end SyncScript
