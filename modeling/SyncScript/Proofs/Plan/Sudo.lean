import SyncScript.Proofs.Script.SyncCommand
import SyncScript.Proofs.Text.Lines
import SyncScript.Proofs.Text.Parts

/-!
# When the sync command runs under `sudo`

The target alone decides: by the user's own choice, or else, for a local directory, by the first two
parts of its path. The comparison of the path with whole directories is a comparison of these parts.
-/

namespace SyncScript

/-- The names under the root whose directories belong to users. -/
def userDirectories : List String :=
  ["home", "Users", "tmp"]

/-- The path leads from the root into a directory of users. Spaces around it do not count. -/
def LeadsToUsers (path : String) : Prop :=
  ∃ name ∈ userDirectories,
    [[], name.toList] <+: Text.splitAtEach '/' (Text.trim path.toList)

/-- When the commands that write to an endpoint need `sudo`. -/
def Endpoint.NeedsSudo (e : Endpoint) : Prop :=
  e.forceSudo = some true ∨
    e.forceSudo = none ∧ e.kind = .localDir ∧ Text.trim e.path.toList ≠ [] ∧ ¬ LeadsToUsers e.path

lemma userOwnedRoots_eq : userOwnedRoots = userDirectories.map ("/" ++ ·) := by
  decide

/-- A path is a directory under the root, or below it, when its parts say so. -/
lemma prefix_parts_iff {name : String} (h : '/' ∉ name.toList) (path : List Char) :
    [[], name.toList] <+: Text.splitAtEach '/' path ↔
      path = ("/" ++ name).toList ∨ ("/" ++ name ++ "/").toList <+: path := by
  have hparts : ∀ part ∈ [[], name.toList], '/' ∉ part := by simp [h]
  have hjoin : ['/'].intercalate [[], name.toList] = ("/" ++ name).toList := by
    rw [String.toList_append, String.toList_ofList]
    simp
  have hslash : ("/" ++ name ++ "/").toList = ("/" ++ name).toList ++ ['/'] := by
    rw [String.toList_append, String.toList_ofList]
  rw [Text.prefix_splitAtEach_iff hparts (by simp), hjoin, hslash]

lemma not_slash_mem_userDirectories : ∀ name ∈ userDirectories, '/' ∉ name.toList := by
  simp only [userDirectories, List.forall_mem_cons]
  repeat rw [String.toList_ofList]
  decide

lemma suggestsSudo_iff (path : String) :
    suggestsSudo path = true ↔ Text.trim path.toList ≠ [] ∧ ¬ LeadsToUsers path := by
  have hempty : (Text.trimmed path).isEmpty = true ↔ Text.trim path.toList = [] := by
    rw [String.isEmpty_iff, Text.trimmed_eq_empty_iff]
  have husers : (userOwnedRoots.any fun root =>
      Text.trimmed path == root || Text.beginsWith (Text.trimmed path) (root ++ "/")) = true ↔
      LeadsToUsers path := by
    rw [userOwnedRoots_eq, List.any_map, List.any_eq_true]
    refine exists_congr fun name => and_congr_right fun hname => ?_
    rw [prefix_parts_iff (not_slash_mem_userDirectories name hname)]
    simp only [Function.comp_apply, Bool.or_eq_true, beq_iff_eq, Text.beginsWith_iff,
      ← String.toList_inj, Text.toList_trimmed]
  simp only [suggestsSudo, Bool.and_eq_true, Bool.not_eq_true', ← Bool.not_eq_true, hempty, husers,
    ne_eq]

lemma Endpoint.wantsSudo_iff (e : Endpoint) : e.wantsSudo = true ↔ e.NeedsSudo := by
  unfold wantsSudo NeedsSudo
  cases hchoice : e.forceSudo with
  | some choice => simp
  | none => simp [suggestsSudo_iff]

namespace Plan

/-- The plan with a target whose user chose not to run under `sudo`. -/
def withoutSudo (p : Plan) : Plan :=
  { p with target := { p.target with forceSudo := some false } }

lemma syncCommand_withoutSudo (p : Plan) :
    p.syncCommand =
      (if p.target.wantsSudo then "sudo " else "") ++ p.withoutSudo.syncCommand := by
  have hplain : p.withoutSudo.syncCommand =
      Text.trimmed p.sync.executable ++
        String.join (p.commandWords.map Shell.CommandWord.written) := by
    rw [syncCommand_eq, commandPrefix]
    exact congrArg (· ++ String.join _) String.empty_append
  rw [hplain, syncCommand_eq, commandPrefix, String.append_assoc]

lemma sudo_append_ne (s : String) : "sudo " ++ s ≠ s := by
  intro h
  have hlength := congrArg String.length h
  rw [String.length_append] at hlength
  have hsudo : "sudo ".length = 5 := by decide
  omega

lemma syncCommand_eq_sudo_iff (p : Plan) :
    (p.syncCommand = "sudo " ++ p.withoutSudo.syncCommand ↔ p.target.NeedsSudo) ∧
      (p.syncCommand = p.withoutSudo.syncCommand ↔ ¬ p.target.NeedsSudo) := by
  rw [← p.target.wantsSudo_iff, p.syncCommand_withoutSudo]
  cases p.target.wantsSudo with
  | true => simp
  | false => simp [(sudo_append_ne _).symm]

/-- The sync command runs under `sudo` exactly when the target needs it, and is the command without
`sudo` otherwise. Another source never changes this, and the choice made for the source does not
even change the command. -/
theorem syncCommand_sudo (p : Plan) :
    (p.syncCommand = "sudo " ++ p.withoutSudo.syncCommand ↔ p.target.NeedsSudo) ∧
    (p.syncCommand = p.withoutSudo.syncCommand ↔ ¬ p.target.NeedsSudo) ∧
    (∀ source : Endpoint,
      { p with source := source }.syncCommand =
          "sudo " ++ { p with source := source }.withoutSudo.syncCommand ↔
        p.syncCommand = "sudo " ++ p.withoutSudo.syncCommand) ∧
    ∀ choice : Option Bool,
      { p with source := { p.source with forceSudo := choice } }.syncCommand = p.syncCommand := by
  obtain ⟨hsudo, hplain⟩ := p.syncCommand_eq_sudo_iff
  refine ⟨hsudo, hplain, fun source => ?_, fun choice => ?_⟩
  · exact (syncCommand_eq_sudo_iff { p with source := source }).1.trans hsudo.symm
  · rfl

end Plan

end SyncScript
