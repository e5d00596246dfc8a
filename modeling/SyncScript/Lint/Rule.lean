import SyncScript.Lint.Diagnostic
import SyncScript.Text.Basic
import SyncScript.Text.WordChar

/-!
# Lint rules

The linter looks at one line at a time and knows four patterns. It does not parse the shell
language, so each rule says exactly which lines it flags.
-/

namespace SyncScript

inductive LintRule where
  | assignmentSpacing
  | unquotedExpansion
  | spaceAfterBracket
  | spaceBeforeBracket
  deriving DecidableEq

namespace LintRule

/-- The rules in the order in which they report on a line. -/
def all : List LintRule :=
  [.assignmentSpacing, .unquotedExpansion, .spaceAfterBracket, .spaceBeforeBracket]

def id : LintRule → String
  | .assignmentSpacing => "SC1068"
  | .unquotedExpansion => "SC2086"
  | .spaceAfterBracket => "SC1035"
  | .spaceBeforeBracket => "SC1020"

def severity : LintRule → Severity
  | .unquotedExpansion => .warning
  | _ => .error

def message : LintRule → String
  | .assignmentSpacing => "Spaces around '=' break variable assignment; remove them"
  | .unquotedExpansion =>
    "Expansion is not quoted; double-quote it to prevent globbing and word splitting"
  | .spaceAfterBracket => "Missing space after '[' in test expression"
  | .spaceBeforeBracket => "Missing space before ']' in test expression"

end LintRule

/-- `if` as a whole word; `before` tells whether a word character stands before the text. -/
def hasIfWord (before : Bool) : List Char → Bool
  | [] => false
  | c :: cs =>
    (! before && c == 'i' &&
      match cs with
      | 'f' :: [] => true
      | 'f' :: d :: _ => ! Text.isWordChar d
      | _ => false) ||
    hasIfWord (Text.isWordChar c) cs

/-- A space or a tab. -/
def isGap (c : Char) : Bool :=
  c == ' ' || c == '\t'

def isNameStart (c : Char) : Bool :=
  c.isAlpha || c == '_'

def isNameChar (c : Char) : Bool :=
  c.isAlphanum || c == '_'

/-- A name, an equals sign with a gap on at least one side of it, and something after it. -/
def looksLikeSpacedAssignment (line : List Char) : Bool :=
  match Text.trimStart line with
  | [] => false
  | c :: cs =>
    isNameStart c &&
    let afterName := cs.dropWhile isNameChar
    match afterName.dropWhile isGap with
    | '=' :: value =>
      match value.dropWhile isGap with
      | [] => false
      | d :: _ => ! Text.isSpace d &&
        ((afterName.head?.any isGap) || (value.head?.any isGap))
    | _ => false

def isSpacedAssignment (line : List Char) : Bool :=
  ! line.contains '[' && ! hasIfWord false line && looksLikeSpacedAssignment line

/-- An expansion on a line that holds neither a quote nor an assignment. Tests, loops and calls of
the tool check are left alone. -/
def isUnquotedExpansion (line : List Char) : Bool :=
  line.contains '$' && ! line.contains '"' && ! line.contains '\'' && ! line.contains '=' &&
    ! ['i', 'f'].isPrefixOf line && ! ['w', 'h', 'i', 'l', 'e'].isPrefixOf line &&
    ! "check_tool".toList.isPrefixOf line

def lacksSpaceAfterBracket (line : List Char) : Bool :=
  Text.occursIn "if [".toList line && ! Text.occursIn "if [ ".toList line

def lacksSpaceBeforeBracket (line : List Char) : Bool :=
  [']'].isSuffixOf line && Text.occursIn "[ ".toList line && ! [' ', ']'].isSuffixOf line

/-- Whether a rule flags a line. All rules but the first look at the line without the spaces at
its ends. -/
def LintRule.flags (rule : LintRule) (line : List Char) : Bool :=
  match rule with
  | .assignmentSpacing => isSpacedAssignment line
  | .unquotedExpansion => isUnquotedExpansion (Text.trim line)
  | .spaceAfterBracket => lacksSpaceAfterBracket (Text.trim line)
  | .spaceBeforeBracket => lacksSpaceBeforeBracket (Text.trim line)

/-- An empty line or a comment, which no rule looks at. -/
def isSkippedLine (line : List Char) : Bool :=
  match Text.trim line with
  | [] => true
  | c :: _ => c == '#'

/-- The findings on the line with number `number`. -/
def lintLine (line : List Char) (number : Nat) : List Diagnostic :=
  if isSkippedLine line then []
  else (LintRule.all.filter (·.flags line)).map fun rule =>
    ⟨rule.id, rule.severity, number, rule.message⟩

/-- The findings in a script, by line and on a line by rule. -/
def lint (script : String) : List Diagnostic :=
  ((Text.lines script.toList).zipIdx 1).flatMap fun (line, number) => lintLine line number

def lintReport (file : Option String) (script : String) : LintReport :=
  ⟨file, lint script⟩

end SyncScript
