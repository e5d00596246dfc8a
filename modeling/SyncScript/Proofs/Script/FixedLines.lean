import SyncScript.Proofs.Lint.Lines
import SyncScript.Proofs.Script.Layout
import SyncScript.Proofs.Shell.HereDoc

/-!
# The fixed lines of a script

Everything that the settings of the system put ahead of the requirements is inert: single lines on
which the linter has nothing to report and which open no here-document. The requirements of a plan
without faults are single lines too, since package names hold no spaces.
-/

namespace SyncScript

/-- Writes to a file, as the line that opens a here-document does. -/
def writesFile (line : List Char) : Bool :=
  ['c', 'a', 't', ' '].isPrefixOf line

/-- A character other than line ends, `$`, `=` and `[`. -/
def isPlain (c : Char) : Bool :=
  let n := c.toNat
  n != 10 && n != 13 && n != 36 && n != 61 && n != 91

/-- A single line that the linter passes and that writes no file. Most lines hold plain characters
only, and nothing else about them needs to be looked at. -/
def isInert (line : List Char) : Bool :=
  ! writesFile line &&
    (line.all isPlain || (! line.contains '\n' && ! line.contains '\r' && isSilent line))

lemma isPlain_eq_false_iff (c : Char) :
    isPlain c = false ↔ c ∈ ['\n', '\r', '$', '=', '['] := by
  simp [isPlain, ← Char.toNat_inj, imp_iff_not_or, or_assoc]

lemma plain_single_silent {line : List Char} (h : line.all isPlain = true) :
    ('\n' ∉ line ∧ '\r' ∉ line) ∧ isSilent line = true := by
  have hnot : ∀ c ∈ ['\n', '\r', '$', '=', '['], c ∉ line := by
    intro c hc hmem
    have hplain := List.all_eq_true.1 h c hmem
    rw [(isPlain_eq_false_iff c).2 hc] at hplain
    cases hplain
  exact ⟨⟨hnot _ (by simp), hnot _ (by simp)⟩,
    isSilent_of_not_mem (hnot _ (by simp)) (hnot _ (by simp)) (hnot _ (by simp))⟩

lemma isInert_iff (line : List Char) :
    isInert line = true ↔
      ('\n' ∉ line ∧ '\r' ∉ line) ∧ writesFile line = false ∧ isSilent line = true := by
  have hplain := @plain_single_silent line
  simp only [isInert, Bool.and_eq_true, Bool.or_eq_true, Bool.not_eq_true', List.contains_eq_mem,
    decide_eq_false_iff_not]
  tauto

lemma single_of_isInert {line : List Char} (h : isInert line = true) : '\n' ∉ line ∧ '\r' ∉ line :=
  ((isInert_iff line).1 h).1

lemma writesFile_of_isInert {line : List Char} (h : isInert line = true) :
    writesFile line = false :=
  ((isInert_iff line).1 h).2.1

lemma silent_of_isInert {line : List Char} (h : isInert line = true) : isSilent line = true :=
  ((isInert_iff line).1 h).2.2

lemma isInert_versionFunction : ∀ l ∈ versionFunction, isInert l.toList = true := by
  simp only [versionFunction, componentBranch, shellFunction, List.map_cons, List.map_nil,
    List.cons_append, List.nil_append, String.toList_append, List.forall_mem_cons]
  repeat rw [String.toList_ofList]
  decide

lemma isInert_toolVersionFunction : ∀ l ∈ toolVersionFunction, isInert l.toList = true := by
  simp only [toolVersionFunction, firstVersion, shellFunction, List.map_cons, List.map_nil,
    List.cons_append, List.nil_append, String.toList_append, List.forall_mem_cons]
  repeat rw [String.toList_ofList]
  decide

lemma isInert_checkToolFunction (pm : PackageManager) :
    ∀ l ∈ checkToolFunction pm, isInert l.toList = true := by
  have hinstall :
      isInert ("    " ++ ("    " ++ pm.installCommand ++ " \"$pkg\"")).toList = true := by
    cases pm <;> simp only [PackageManager.installCommand, String.toList_append] <;>
      repeat rw [String.toList_ofList]
    all_goals decide
  simp only [checkToolFunction, shellFunction, List.map_cons, List.map_nil, List.cons_append,
    List.nil_append, List.forall_mem_cons, hinstall, true_and]
  simp only [String.toList_append]
  repeat rw [String.toList_ofList]
  decide

lemma isInert_toolCheckLines (pm : PackageManager) :
    ∀ l ∈ toolCheckLines pm, isInert l.toList = true := by
  intro l hl
  simp only [toolCheckLines, List.mem_append, List.mem_singleton] at hl
  rcases hl with ((((rfl | h) | rfl) | h) | rfl) | h
  · rw [String.toList_ofList]
    decide
  · exact isInert_versionFunction l h
  · decide
  · exact isInert_toolVersionFunction l h
  · decide
  · exact isInert_checkToolFunction pm l h

lemma isInert_check {p : Plan} {r : ToolRequirement} (h : r ∈ p.requirements) :
    isInert r.check.toList = true := by
  have hall : ∀ r ∈ [(⟨"git", "git", some "2.25.0"⟩ : ToolRequirement), ⟨"curl", "curl", none⟩,
      ⟨"python3", "python3", none⟩, ⟨"gh", "gh", some "2.0.0"⟩,
      ⟨"ssh", "openssh-client", some "7.6"⟩, ⟨"ssh", "openssh", some "7.6"⟩,
      ⟨"pip3", "python3-pip", none⟩, ⟨"pip3", "python-pip", none⟩],
      isInert r.check.toList = true := by
    simp only [List.forall_mem_cons]
    unfold ToolRequirement.check
    simp only [String.toList_append]
    repeat rw [String.toList_ofList]
    decide
  simp only [List.forall_mem_cons] at hall
  obtain ⟨hgit, hcurl, hpython, hgh, hclient, hssh, hpip3, hpip, -⟩ := hall
  simp only [Plan.requirements, List.mem_append, List.mem_cons, List.not_mem_nil, or_false] at h
  rcases h with (((rfl | rfl | rfl) | h) | rfl) | h
  · exact hgit
  · exact hcurl
  · exact hpython
  · split at h
    · rw [List.mem_singleton.1 h]
      exact hgh
    · cases h
  · unfold PackageManager.sshPackage
    split
    · exact hclient
    · exact hssh
    · exact hssh
  · split at h
    · rw [List.mem_singleton.1 h]
      unfold PackageManager.pipPackage
      split
      · exact hpip
      · exact hpip3
    · cases h

lemma isInert_toolLines (p : Plan) : ∀ l ∈ p.toolLines, isInert l.toList = true := by
  intro l hl
  rcases List.mem_cons.1 hl with rfl | hl
  · cases p.system.packageManager <;>
      simp only [PackageManager.id, String.toList_append] <;>
      repeat rw [String.toList_ofList]
    all_goals decide
  · obtain ⟨r, hr, rfl⟩ := List.mem_map.1 hl
    exact isInert_check hr

lemma isInert_firewallLines (p : Plan) : ∀ l ∈ p.firewallLines, isInert l.toList = true := by
  unfold Plan.firewallLines
  generalize p.system.packageManager = pm
  cases hfamily : pm.firewall with
  | ufw | firewalld =>
    simp only [hfamily, FirewallFamily.id, List.forall_mem_cons]
    unfold ToolRequirement.check
    simp only [String.toList_append]
    repeat rw [String.toList_ofList]
    decide
  | unsupported =>
    -- only this family leaves the name of the package manager in the text
    have hbrew : pm = .brew := by cases pm <;> simp_all [PackageManager.firewall]
    subst hbrew
    simp only [hfamily, FirewallFamily.id, PackageManager.id, String.toList_append,
      List.forall_mem_cons]
    repeat rw [String.toList_ofList]
    decide

lemma isInert_skipped :
    ∀ l ∈ [Plan.toolsSkipped, Plan.firewallSkipped, Plan.dependenciesSkipped],
      isInert l.toList = true := by
  simp only [Plan.toolsSkipped, Plan.firewallSkipped, Plan.dependenciesSkipped,
    List.forall_mem_cons]
  repeat rw [String.toList_ofList]
  decide

namespace Plan

lemma isInert_setupLines (p : Plan) : ∀ l ∈ p.setupLines, isInert l.toList = true := by
  have htoggled : ∀ (on : Bool) (lines : List String) (skipped : String),
      (∀ l ∈ lines, isInert l.toList = true) → isInert skipped.toList = true →
      ∀ l ∈ toggledLines on lines skipped, isInert l.toList = true := by
    intro on lines skipped hlines hskipped l hl
    cases on with
    | true => exact hlines l hl
    | false => rwa [List.mem_singleton.1 hl]
  intro l hl
  obtain ⟨block, hblock, hl⟩ := List.mem_flatMap.1 hl
  rcases List.mem_append.1 hl with hl | hl
  · simp only [setupBlocks, List.mem_append, List.mem_cons, List.not_mem_nil, or_false] at hblock
    rcases hblock with (rfl | h) | rfl | rfl
    · rw [List.mem_singleton.1 hl, String.toList_ofList]
      decide
    · split at h
      · rw [List.mem_singleton.1 h] at hl
        exact isInert_toolCheckLines _ l hl
      · cases h
    · exact htoggled _ _ _ (isInert_toolLines p) (isInert_skipped _ (by simp)) l hl
    · exact htoggled _ _ _ (isInert_firewallLines p) (isInert_skipped _ (by simp)) l hl
  · rw [List.mem_singleton.1 hl]
    decide

/-- The names of a plan without faults hold neither spaces nor control characters. -/
lemma isSpace_of_mem_name {p : Plan} (h : p.faults = []) {name : String}
    (hname : name ∈ p.system.pythonPackages.names) {c : Char} (hc : c ∈ name.toList) :
    Text.isSpace c = false ∧ Text.isControl c = false := by
  simp only [faults, List.append_eq_nil_iff, List.map_eq_nil_iff, PackageList.faults,
    List.filter_eq_nil_iff] at h
  have hfault := h.2 name hname
  simp only [isPackageFault, List.any_eq_true, not_exists, not_and, Bool.or_eq_true, not_or,
    Bool.not_eq_true] at hfault
  exact hfault c hc

lemma not_mem_name {p : Plan} (h : p.faults = []) {name : String}
    (hname : name ∈ p.system.pythonPackages.names) {c : Char} (hc : Text.isSpace c = true) :
    c ∉ name.toList := by
  intro hmem
  rw [(isSpace_of_mem_name h hname hmem).1] at hc
  cases hc

end Plan

lemma writesFile_eq_false {line : List Char} (h : ' ' ∉ line) : writesFile line = false := by
  rw [← Bool.not_eq_true, writesFile, List.isPrefixOf_iff_prefix]
  exact fun hp => h (hp.subset (by simp))

section HereDoc

variable (content : List String)

lemma isPlain_delimiter : (Shell.delimiter content).toList.all isPlain = true := by
  refine List.all_eq_true.2 fun c hc => ?_
  rw [← Bool.not_eq_false, isPlain_eq_false_iff]
  simp only [List.mem_cons, List.not_mem_nil, or_false]
  rintro (rfl | rfl | rfl | rfl | rfl) <;>
    exact Shell.not_mem_delimiter (by decide) (by decide) hc

lemma isInert_delimiter : isInert (Shell.delimiter content).toList = true := by
  have hspace : ' ' ∉ (Shell.delimiter content).toList :=
    Shell.not_mem_delimiter (by decide) (by decide)
  simp [isInert, writesFile_eq_false hspace, isPlain_delimiter]

/-- The line that opens the requirements does write a file, but is a single silent line like the
others. -/
lemma openingLine_single_silent :
    let line := (Shell.openingLine "requirements.txt" (Shell.delimiter content)).toList
    ('\n' ∉ line ∧ '\r' ∉ line) ∧ isSilent line = true := by
  refine plain_single_silent ?_
  rw [Shell.toList_openingLine]
  simp only [List.all_append, isPlain_delimiter]
  repeat rw [String.toList_ofList]
  decide

end HereDoc

end SyncScript
