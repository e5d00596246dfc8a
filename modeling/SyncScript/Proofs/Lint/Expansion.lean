import SyncScript.Proofs.Lint.Shape

/-!
# Unquoted expansions

The rule for expansions leaves alone tests, loops and calls of the tool check. It goes by the first
characters of a line, so a command whose name only begins like one of these is left alone too: every
line that begins with the letters of `if` or `while`, whatever its first word is.
-/

namespace SyncScript

namespace Shell

/-- A character that ends the name of a command: a space, or the beginning of an operator. -/
def endsName (c : Char) : Bool :=
  Text.isSpace c || ['|', '&', ';', '(', ')', '<', '>'].contains c

/-- What a line begins with, up to the first space or operator. -/
def firstWord (line : List Char) : List Char :=
  line.takeWhile (! endsName ·)

lemma prefix_firstWord_iff {word line : List Char} (h : ∀ c ∈ word, endsName c = false) :
    word <+: firstWord line ↔ word <+: line := by
  refine ⟨fun hword => hword.trans (List.takeWhile_prefix _), ?_⟩
  rintro ⟨rest, rfl⟩
  have hword : ∀ c ∈ word, (! endsName c) = true := fun c hc => by rw [h c hc]; rfl
  rw [firstWord, List.takeWhile_append_of_pos hword]
  exact List.prefix_append word _

end Shell

/-- A line with an expansion on it, and with no quote and no equals sign. -/
structure HasBareExpansion (line : List Char) : Prop where
  expansion : '$' ∈ line
  no_double_quote : '"' ∉ line
  no_single_quote : '\'' ∉ line
  no_equals : '=' ∉ line

lemma isUnquotedExpansion_iff (line : List Char) :
    isUnquotedExpansion line = true ↔
      HasBareExpansion line ∧ ¬ "if".toList <+: line ∧ ¬ "while".toList <+: line ∧
        ¬ "check_tool".toList <+: line := by
  have hbare : HasBareExpansion line ↔
      (('$' ∈ line ∧ '"' ∉ line) ∧ '\'' ∉ line) ∧ '=' ∉ line :=
    ⟨fun h => ⟨⟨⟨h.1, h.2⟩, h.3⟩, h.4⟩, fun h => ⟨h.1.1.1, h.1.1.2, h.1.2, h.2⟩⟩
  have hif : ['i', 'f'].isPrefixOf line = true ↔ "if".toList <+: line := List.isPrefixOf_iff_prefix
  have hwhile : ['w', 'h', 'i', 'l', 'e'].isPrefixOf line = true ↔ "while".toList <+: line :=
    List.isPrefixOf_iff_prefix
  unfold isUnquotedExpansion
  simp only [Bool.and_eq_true, Bool.not_eq_true', ← Bool.not_eq_true, hif, hwhile,
    List.isPrefixOf_iff_prefix, List.contains_iff_mem, hbare, and_assoc]

/-- A line is reported only for a bare expansion, and not where it begins with the letters of `if`
or `while` or where its first word is `check_tool`. In all other cases it is reported, where the
case of a longer first word that begins with `check_tool` is left open. -/
theorem unquotedExpansion_reports {text : String} {n : Nat} {line : List Char}
    (h : (Text.lines text.toList)[n]? = some line) (hblank : Text.trim line ≠ [])
    (hcomment : (Text.trim line).head? ≠ some '#') :
    (Reports text "SC2086" (n + 1) →
      HasBareExpansion (Text.trim line) ∧ ¬ "if".toList <+: Text.trim line ∧
        ¬ "while".toList <+: Text.trim line ∧
        Shell.firstWord (Text.trim line) ≠ "check_tool".toList) ∧
    (HasBareExpansion (Text.trim line) → ¬ "if".toList <+: Text.trim line →
      ¬ "while".toList <+: Text.trim line →
      ¬ "check_tool".toList <+: Shell.firstWord (Text.trim line) →
      Reports text "SC2086" (n + 1)) := by
  have hreports : Reports text "SC2086" (n + 1) ↔ isUnquotedExpansion (Text.trim line) = true :=
    reports_iff_flags h hblank hcomment .unquotedExpansion
  have hname : ∀ c ∈ "check_tool".toList, Shell.endsName c = false := by
    have hall : "check_tool".toList.all (! Shell.endsName ·) = true := by
      rw [String.toList_ofList]
      decide
    simpa using hall
  rw [hreports, isUnquotedExpansion_iff, Shell.prefix_firstWord_iff hname]
  constructor
  · rintro ⟨hbare, hif, hwhile, htool⟩
    refine ⟨hbare, hif, hwhile, fun hword => htool ?_⟩
    rw [← hword]
    exact List.takeWhile_prefix _
  · intro hbare hif hwhile htool
    exact ⟨hbare, hif, hwhile, htool⟩

/-- Names of loops and tool checks count only at the beginning of the line. -/
theorem unquotedExpansion_reports_do_while :
    (Text.lines "\tdo_while $check_tool; if".toList)[0]? =
        some "\tdo_while $check_tool; if".toList ∧
      Text.trim "\tdo_while $check_tool; if".toList = "do_while $check_tool; if".toList ∧
      HasBareExpansion "do_while $check_tool; if".toList ∧
      Shell.firstWord "do_while $check_tool; if".toList = "do_while".toList ∧
      Reports "\tdo_while $check_tool; if" "SC2086" 1 := by
  have hline : (Text.lines "\tdo_while $check_tool; if".toList)[0]? =
      some "\tdo_while $check_tool; if".toList := by
    repeat rw [String.toList_ofList]
    decide
  have htrim : Text.trim "\tdo_while $check_tool; if".toList =
      "do_while $check_tool; if".toList := by
    repeat rw [String.toList_ofList]
    decide
  have hbare : HasBareExpansion "do_while $check_tool; if".toList :=
    ⟨by decide, by decide, by decide, by decide⟩
  have hfirst : Shell.firstWord "do_while $check_tool; if".toList = "do_while".toList := by
    repeat rw [String.toList_ofList]
    decide
  refine ⟨hline, htrim, hbare, hfirst,
    (unquotedExpansion_reports hline ?_ ?_).2 ?_ ?_ ?_ ?_⟩
  all_goals rw [htrim]
  · decide
  · decide
  · exact hbare
  · decide
  · decide
  · rw [hfirst]
    decide

/-- A command whose name is not `if` but begins with its letters is not reported. -/
theorem ifconfig_not_reported :
    Text.lines "ifconfig $IFACE".toList = ["ifconfig $IFACE".toList] ∧
      Text.trim "ifconfig $IFACE".toList = "ifconfig $IFACE".toList ∧
      HasBareExpansion "ifconfig $IFACE".toList ∧
      Shell.firstWord "ifconfig $IFACE".toList = "ifconfig".toList ∧
      "ifconfig" ∉ ["if", "while", "check_tool"] ∧
      ¬ Reports "ifconfig $IFACE" "SC2086" 1 := by
  refine ⟨?_, ?_, ⟨by decide, by decide, by decide, by decide⟩, ?_, by decide, by decide⟩
  all_goals
    repeat rw [String.toList_ofList]
    decide

end SyncScript
