import SyncScript.Proofs.Shell.Words
import SyncScript.Script.Sections

/-!
# The sync command

After the command that the user names, a sync command holds nothing but flags and quoted values.
The shell reads them as exactly the arguments that the plan asks for, whatever text its endpoints
and its branch hold.
-/

namespace SyncScript.Plan

/-- A branch is passed on for a Git endpoint only, and only when it is not blank. -/
def branchArguments (e : Endpoint) : List String :=
  match e.kind, e.branch with
  | .git, some branch => if Text.isBlank branch then [] else ["--branch", Text.trimmed branch]
  | _, _ => []

/-- What the sync program is to be called with. -/
def syncArguments (p : Plan) : List String :=
  ["--source", p.source.argument, "--target", p.target.argument] ++
    (if p.source.kind = .git ∧ p.source.useGithubCli = true then ["--use-gh"] else []) ++
    branchArguments p.source ++
    (if p.sync.dryRun then ["--dry-run"] else [])

open Shell CommandWord

/-- The words that stand after the executable. -/
def commandWords (p : Plan) : List CommandWord :=
  [flag "--source", value p.source.argument, flag "--target", value p.target.argument] ++
    (if p.source.usesGithubCli then [flag "--use-gh"] else []) ++
    (match p.source.gitBranch with
      | some branch => [flag "--branch", value branch]
      | none => []) ++
    (if p.sync.dryRun then [flag "--dry-run"] else [])

def commandPrefix (p : Plan) : String :=
  (if p.target.wantsSudo then "sudo " else "") ++ Text.trimmed p.sync.executable

lemma syncCommand_eq (p : Plan) :
    p.syncCommand = p.commandPrefix ++ String.join (p.commandWords.map written) := by
  unfold syncCommand commandPrefix commandWords
  apply String.toList_inj.1
  cases p.source.usesGithubCli <;> cases p.source.gitBranch <;> cases p.sync.dryRun <;>
    simp [written]

lemma commandWords_wellFormed (p : Plan) : ∀ word ∈ p.commandWords, word.WellFormed := by
  have hflag : ∀ name ∈ ["--source", "--target", "--use-gh", "--branch", "--dry-run"],
      (flag name).WellFormed := by
    simp only [WellFormed, ← List.all_eq_true, List.forall_mem_cons]
    repeat rw [String.toList_ofList]
    decide
  intro word hword
  cases word with
  | value text => trivial
  | flag name =>
    apply hflag
    simp only [commandWords, List.mem_append, List.mem_cons, List.not_mem_nil, or_false, flag.injEq,
      reduceCtorEq, false_or] at hword
    rcases hword with (((rfl | rfl) | hgh) | hbranch) | hdry
    · simp
    · simp
    · split at hgh <;> simp_all
    · split at hbranch <;> simp_all
    · split at hdry <;> simp_all

lemma branchArguments_eq (e : Endpoint) :
    branchArguments e = match e.gitBranch with
      | some branch => ["--branch", branch]
      | none => [] := by
  unfold branchArguments Endpoint.gitBranch Text.given
  cases e.kind <;> cases e.branch with
  | none => rfl
  | some branch => cases h : Text.isBlank branch <;> simp [Option.filter, h]

lemma commandWords_meaning (p : Plan) : p.commandWords.map meaning = p.syncArguments := by
  have hgh :
      p.source.usesGithubCli = true ↔ p.source.kind = .git ∧ p.source.useGithubCli = true := by
    simp [Endpoint.usesGithubCli]
  unfold commandWords syncArguments
  rw [branchArguments_eq]
  simp only [← hgh]
  cases p.source.usesGithubCli <;> cases p.source.gitBranch <;> cases p.sync.dryRun <;> rfl

/-- The command ends in a quote or in a flag, never in a space. -/
lemma syncCommand_concat (p : Plan) :
    ∃ cs c, p.syncCommand.toList = cs ++ [c] ∧ (c = '"' ∨ c = 'h' ∨ c = 'n') := by
  have hlast : ∃ c, p.syncCommand.toList.getLast? = some c ∧ (c = '"' ∨ c = 'h' ∨ c = 'n') := by
    unfold syncCommand
    cases p.source.usesGithubCli <;> cases p.source.gitBranch <;> cases p.sync.dryRun <;>
      simp [doubleQuoted, List.getLast?_append, List.getLast?_cons]
  obtain ⟨c, hc, hcases⟩ := hlast
  obtain ⟨cs, hcs⟩ := List.getLast?_eq_some_iff.1 hc
  exact ⟨cs, c, hcs, hcases⟩

/-- For every plan the sync command is `sudo` where the target wants it, then the executable, and
then, behind a blank, text that the shell reads as the arguments of the plan and nothing else: no
value opens an expansion or leaves its quotes. -/
theorem syncCommand_words (p : Plan) :
    ∃ arguments : String,
      p.syncCommand = (if p.target.wantsSudo then "sudo " else "") ++
        Text.trimmed p.sync.executable ++ arguments ∧
      arguments.toList.head? = some ' ' ∧
      Shell.words arguments = .ok p.syncArguments := by
  refine ⟨_, p.syncCommand_eq, ?_, ?_⟩
  · simp [commandWords, written]
  · rw [words_join_written p.commandWords_wellFormed, commandWords_meaning]

end SyncScript.Plan
