import SyncScript.Files.Tree
import SyncScript.PlanFile.Settings
import SyncScript.Proofs.Command.Flags
import SyncScript.Proofs.PlanFile.Root
import SyncScript.Proofs.Results

/-!
# Resolving the settings

The settings of a run come from one plan file: the chosen one, or the first there is in the root.
Choices replace what the file says, and nothing else does.
-/

namespace SyncScript

def Disk.rootFor (disk : Disk Id) (c : Choices) : Path :=
  (detectRoot disk c.start).run

/-- The plan file of a run: the chosen one as it is, or else the first name there is in a root. -/
def Disk.IsPlanPath (disk : Disk Id) (c : Choices) (root path : Path) : Prop :=
  (∃ chosen, c.plan = some chosen ∧ path = ⟨chosen⟩) ∨
  c.plan = none ∧ ∃ before name after, planFileNames = before ++ name :: after ∧
    path = root.join name ∧ disk.Holds path ∧ ∀ other ∈ before, ¬ disk.Holds (root.join other)

/-- Settings that follow a plan file, except for what was chosen for the run. -/
structure Settings.Follows (s : Settings) (c : Choices) (file : PlanFile) : Prop where
  plan : s.plan = { file.plan with
    sync := { file.plan.sync with dryRun := s.plan.sync.dryRun }
    system := { file.plan.system with packageManager := s.plan.system.packageManager } }
  dryRun : s.plan.sync.dryRun = match c.dryRun with
    | some on => on
    | none => file.plan.sync.dryRun
  packageManager : s.plan.system.packageManager = match c.packageManager with
    | some pm => pm
    | none => file.plan.system.packageManager
  output : s.output = match c.output, file.output with
    | some form, _ => form
    | none, some form => form
    | none, none => "human"

lemma Choices.settings_follows (c : Choices) (root path : Path) (file : PlanFile) :
    (c.settings root path file).Follows c file where
  plan := rfl
  dryRun := by cases h : c.dryRun <;> simp [settings, applyTo, h]
  packageManager := by cases h : c.packageManager <;> simp [settings, applyTo, h]
  output := by cases h : c.output <;> cases hfile : file.output <;> simp [settings, h, hfile]

lemma Settings.eq_of_follows {s : Settings} {c : Choices} {file : PlanFile}
    (h : s.Follows c file) : s = c.settings s.repoRoot s.planPath file := by
  have hsettings := c.settings_follows s.repoRoot s.planPath file
  have hplan : s.plan = (c.settings s.repoRoot s.planPath file).plan := by
    rw [h.plan, hsettings.plan, h.dryRun, h.packageManager, hsettings.dryRun,
      hsettings.packageManager]
  have houtput := h.output.trans hsettings.output.symm
  cases s
  exact congrArg₂ (Settings.mk _ _) hplan houtput

lemma PlanFile.ofText_ne_notFound (path root : Path) (text : String) :
    PlanFile.ofText path text ≠ .error (.notFound root) := by
  unfold PlanFile.ofText
  split
  · simp
  · split
    · simp
    · split <;> simp

lemma findPlanFile_eq (disk : Disk Id) (root : Path) :
    (findPlanFile disk root).run =
      (planFileNames.map root.join).find? fun path => (disk.holds path).run :=
  List.idRun_findM? disk.holds (planFileNames.map root.join)

lemma planPath_eq_none_iff (disk : Disk Id) (c : Choices) (root : Path) :
    (planPath disk c root).run = none ↔
      c.plan = none ∧ ∀ name ∈ planFileNames, ¬ disk.Holds (root.join name) := by
  unfold planPath
  cases c.plan with
  | some chosen => exact iff_of_false nofun (by simp)
  | none =>
    dsimp only
    rw [findPlanFile_eq, List.find?_eq_none, List.forall_mem_map]
    exact (and_iff_right rfl).symm

lemma planPath_eq_some_iff (disk : Disk Id) (c : Choices) (root path : Path) :
    (planPath disk c root).run = some path ↔ disk.IsPlanPath c root path := by
  unfold planPath Disk.IsPlanPath
  cases c.plan with
  | some chosen => simp [eq_comm]
  | none =>
    dsimp only
    rw [findPlanFile_eq, List.find?_map, Option.map_eq_some_iff]
    constructor
    · rintro ⟨name, hfind, rfl⟩
      obtain ⟨hname, before, after, hnames, hbefore⟩ := List.find?_eq_some_iff_append.1 hfind
      refine Or.inr ⟨rfl, before, name, after, hnames, rfl, hname, fun other hother hholds => ?_⟩
      have hnot := hbefore other hother
      rw [Bool.not_eq_true', Bool.eq_false_iff] at hnot
      exact hnot hholds
    · rintro (⟨_, hnone, -⟩ | ⟨-, before, name, after, hnames, rfl, hname, hbefore⟩)
      · cases hnone
      · refine ⟨name, ?_, rfl⟩
        rw [List.find?_eq_some_iff_append]
        refine ⟨hname, before, after, hnames, fun other hother => ?_⟩
        rw [Bool.not_eq_true', Bool.eq_false_iff]
        exact hbefore other hother

lemma resolve_eq (disk : Disk Id) (c : Choices) :
    (resolve disk c).run = match (planPath disk c (disk.rootFor c)).run with
      | none => .error (.notFound (disk.rootFor c))
      | some path => (c.settings (disk.rootFor c) path) <$> (loadPlanFile disk path).run := by
  change Id.run (match (planPath disk c (disk.rootFor c)).run with
    | none => _
    | some path => _) = _
  split <;> rfl

lemma resolve_of_planPath {disk : Disk Id} {c : Choices} {path : Path}
    (h : disk.IsPlanPath c (disk.rootFor c) path) :
    (resolve disk c).run =
      (c.settings (disk.rootFor c) path) <$> (loadPlanFile disk path).run := by
  rw [resolve_eq, (planPath_eq_some_iff disk c _ path).2 h]

/-- Either there is no plan file, or the settings are made from the one that is loaded. -/
lemma resolve_cases (disk : Disk Id) (c : Choices) :
    ((planPath disk c (disk.rootFor c)).run = none ∧
      (resolve disk c).run = .error (.notFound (disk.rootFor c))) ∨
    ∃ path, disk.IsPlanPath c (disk.rootFor c) path ∧ (resolve disk c).run =
      (c.settings (disk.rootFor c) path) <$> (loadPlanFile disk path).run := by
  cases hpath : (planPath disk c (disk.rootFor c)).run with
  | none =>
    rw [resolve_eq, hpath]
    exact Or.inl ⟨rfl, rfl⟩
  | some path =>
    have hplan := (planPath_eq_some_iff disk c _ path).1 hpath
    exact Or.inr ⟨path, hplan, resolve_of_planPath hplan⟩

lemma loadPlanFile_ne_notFound (disk : Disk Id) (path root : Path) :
    (loadPlanFile disk path).run ≠ .error (.notFound root) := by
  intro h
  rw [loadPlanFile, Id.run_bind] at h
  cases hread : (disk.readText path).run with
  | error cause =>
    rw [hread] at h
    cases h
  | ok text =>
    rw [hread] at h
    exact PlanFile.ofText_ne_notFound path root text h

lemma resolve_eq_notFound_iff (disk : Disk Id) (c : Choices) (root : Path) :
    (resolve disk c).run = .error (.notFound root) ↔
      root = disk.rootFor c ∧ c.plan = none ∧
        ∀ name ∈ planFileNames, ¬ disk.Holds (root.join name) := by
  constructor
  · intro h
    rcases resolve_cases disk c with ⟨hnone, hresolve⟩ | ⟨path, -, hresolve⟩
    · obtain rfl : root = disk.rootFor c :=
        PlanError.notFound.inj (Except.error.inj (h.symm.trans hresolve))
      exact ⟨rfl, (planPath_eq_none_iff disk c _).1 hnone⟩
    · rw [hresolve, Except.map_eq_error] at h
      exact absurd h (loadPlanFile_ne_notFound disk path root)
  · rintro ⟨rfl, hnone⟩
    rw [resolve_eq, (planPath_eq_none_iff disk c _).2 hnone]

lemma resolve_eq_ok_iff (disk : Disk Id) (c : Choices) (s : Settings) :
    (resolve disk c).run = .ok s ↔
      s.repoRoot = disk.rootFor c ∧ disk.IsPlanPath c s.repoRoot s.planPath ∧
        ∃ file, (loadPlanFile disk s.planPath).run = .ok file ∧ s.Follows c file := by
  constructor
  · intro h
    rcases resolve_cases disk c with ⟨-, hresolve⟩ | ⟨path, hpath, hresolve⟩
    · cases h.symm.trans hresolve
    · rw [hresolve, Except.map_eq_ok] at h
      obtain ⟨file, hload, rfl⟩ := h
      exact ⟨rfl, hpath, file, hload, c.settings_follows _ path file⟩
  · rintro ⟨hroot, hpath, file, hload, hfollows⟩
    rw [hroot] at hpath
    rw [resolve_of_planPath hpath, hload, Settings.eq_of_follows hfollows, hroot]
    rfl

lemma resolve_repoRoot {c : Choices} (h : c.plan ≠ none) (disk : Disk Id) (root : Option String) :
    (fun s => (s.plan, s.output)) <$> (resolve disk { c with repoRoot := root }).run =
      (fun s => (s.plan, s.output)) <$> (resolve disk c).run := by
  obtain ⟨chosen, hchosen⟩ := Option.ne_none_iff_exists'.1 h
  have hload : ∀ c' : Choices, c'.plan = some chosen → (resolve disk c').run =
      (c'.settings (disk.rootFor c') ⟨chosen⟩) <$> (loadPlanFile disk ⟨chosen⟩).run :=
    fun c' hc' => resolve_of_planPath (Or.inl ⟨chosen, hc', rfl⟩)
  rw [hload c hchosen, hload { c with repoRoot := root } hchosen]
  cases (loadPlanFile disk ⟨chosen⟩).run <;> rfl

/-- The way upwards drops one component after another. It comes to an end, and the root is the
first path on it that holds a mark. The plan file is the chosen one or the first there is in the
root, and without both there is none. It is followed in everything that is not chosen for the run,
where a dry run is chosen by its flag. With a chosen plan file, the root has no influence on the
plan and the output. -/
theorem resolve_settings (disk : Disk Id) (c : Choices) :
    (∀ n p, Path.ancestor n c.start = some p →
      p.components = c.start.components.take (c.start.components.length - n)) ∧
    (∃ n, Path.ancestor n c.start = none) ∧
    disk.IsFirstRoot c.start (disk.rootFor c) ∧
    (∀ root, (resolve disk c).run = .error (.notFound root) ↔
      root = disk.rootFor c ∧ c.plan = none ∧
        ∀ name ∈ planFileNames, ¬ disk.Holds (root.join name)) ∧
    (∀ path e, disk.IsPlanPath c (disk.rootFor c) path → (loadPlanFile disk path).run = .error e →
      (resolve disk c).run = .error e) ∧
    (∀ s, (resolve disk c).run = .ok s ↔
      s.repoRoot = disk.rootFor c ∧ disk.IsPlanPath c s.repoRoot s.planPath ∧
        ∃ file, (loadPlanFile disk s.planPath).run = .ok file ∧ s.Follows c file) ∧
    (∀ arguments command, Command.ofArguments arguments = .ok command →
      command.choices? = some c → ∀ s file, (resolve disk c).run = .ok s →
        (loadPlanFile disk s.planPath).run = .ok file →
        (s.plan.sync.dryRun = true ↔
          "--dry-run" ∈ arguments ∨ file.plan.sync.dryRun = true)) ∧
    (c.plan ≠ none → ∀ root,
      (fun s => (s.plan, s.output)) <$> (resolve disk { c with repoRoot := root }).run =
        (fun s => (s.plan, s.output)) <$> (resolve disk c).run) := by
  refine ⟨fun n p => Path.ancestor_components, exists_ancestor_eq_none c.start,
    detectRoot_isFirstRoot disk c.start, resolve_eq_notFound_iff disk c,
    fun path e hpath hload => ?_, resolve_eq_ok_iff disk c,
    fun arguments command hcommand hchoices s file hs hload => ?_,
    fun hplan root => resolve_repoRoot hplan disk root⟩
  · rw [resolve_of_planPath hpath, Except.map_eq_error]
    exact hload
  · obtain ⟨-, -, found, hfound, hfollows⟩ := (resolve_eq_ok_iff disk c s).1 hs
    obtain rfl : found = file := Except.ok.inj (hfound.symm.trans hload)
    rw [hfollows.dryRun, Command.dryRun_of_arguments hcommand hchoices]
    by_cases hflag : "--dry-run" ∈ arguments <;> simp [hflag]

/-- A tree with a plan file in a directory above `/r/a`. -/
def planTree : FileTree where
  entries := [
    (["r"], .directory), (["r", "a"], .directory),
    (["r", "repull.toml"], .file "source.path=\"/a\"\ntarget.path=\"/b\"".toUTF8)]

def planTreeChoices : Choices where
  repoRoot := some "/r/a"
  dryRun := some true

/-- The plan file above the start is found, and the flag turns its dry run on. -/
theorem resolve_settings_planTree :
    Command.ofArguments ["preview", "--repo-root=/r/a", "--dry-run"] =
      .ok (.preview planTreeChoices) ∧
    ∃ s, (resolve (planTree.disk []) planTreeChoices).run = .ok s ∧
      s.planPath = ⟨"/r/repull.toml"⟩ ∧ s.plan.sync.dryRun = true := by
  have hcommand : Command.ofArguments ["preview", "--repo-root=/r/a", "--dry-run"] =
      .ok (.preview planTreeChoices) := by
    decide
  have hpath : (resolve (planTree.disk []) planTreeChoices).run.toOption.map Settings.planPath =
      some ⟨"/r/repull.toml"⟩ := by
    decide +kernel
  obtain ⟨-, -, -, -, -, hok, hdryRun, -⟩ := resolve_settings (planTree.disk []) planTreeChoices
  cases hresolve : (resolve (planTree.disk []) planTreeChoices).run with
  | error e =>
    rw [hresolve] at hpath
    cases hpath
  | ok s =>
    rw [hresolve] at hpath
    obtain ⟨-, -, file, hload, -⟩ := (hok s).1 hresolve
    exact ⟨hcommand, s, rfl, Option.some.inj hpath,
      (hdryRun _ _ hcommand rfl s file hresolve hload).2 (Or.inl (by decide))⟩

end SyncScript
