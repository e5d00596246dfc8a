import SyncScript.Proofs.Script.Layout

/-!
# What a script depends on

An endpoint carries settings for every kind of endpoint, and a plan carries settings for parts of
the script that may be off. Two plans that agree on the settings that apply to them compile to the
same script or are refused with the same faults, whatever their other settings hold.
-/

namespace SyncScript

/-- Two endpoints that stand for the same place. The login counts for SSH only, where a blank text
is the same as none. -/
structure Endpoint.SamePlace (a b : Endpoint) : Prop where
  kind : a.kind = b.kind
  path : a.path = b.path
  user : a.kind = .ssh → Text.given a.user = Text.given b.user
  host : a.kind = .ssh → Text.given a.host = Text.given b.host
  privateKey : a.kind = .ssh → Text.given a.privateKey = Text.given b.privateKey

/-- Two plans that agree on every setting that applies to them. The package manager applies where
tools are installed or the firewall is set up. Packages may differ where none are installed, as
long as both lists are without faults. -/
structure Plan.SameUse (p q : Plan) : Prop where
  source : p.source.SamePlace q.source
  target : p.target.SamePlace q.target
  githubCli : p.source.kind = .git → p.source.useGithubCli = q.source.useGithubCli
  branch : p.source.kind = .git →
    (Text.given p.source.branch).map Text.trimmed = (Text.given q.source.branch).map Text.trimmed
  wantsSudo : p.target.wantsSudo = q.target.wantsSudo
  installTools : p.system.installTools = q.system.installTools
  configureFirewall : p.system.configureFirewall = q.system.configureFirewall
  installDependencies : p.system.installDependencies = q.system.installDependencies
  packageManager : p.system.installTools = true ∨ p.system.configureFirewall = true →
    p.system.packageManager = q.system.packageManager
  packages : p.system.pythonPackages = q.system.pythonPackages ∨
    p.system.installDependencies = false ∧ p.system.pythonPackages.faults = [] ∧
      q.system.pythonPackages.faults = []
  executable : Text.trimmed p.sync.executable = Text.trimmed q.sync.executable
  dryRun : p.sync.dryRun = q.sync.dryRun

namespace Endpoint.SamePlace

variable {a b : Endpoint}

lemma faults_eq (h : a.SamePlace b) : a.faults = b.faults := by
  unfold faults
  rw [← h.path, ← h.kind]
  cases hkind : a.kind with
  | localDir => rfl
  | ssh => rw [h.host hkind, h.user hkind]
  | git => rfl

lemma argument_eq (h : a.SamePlace b) : a.argument = b.argument := by
  unfold argument
  rw [← h.path, ← h.kind]
  cases hkind : a.kind with
  | localDir => rfl
  | ssh => rw [h.user hkind, h.host hkind, h.privateKey hkind]
  | git => rfl

end Endpoint.SamePlace

namespace Plan

lemma toggled_congr (kind : SectionKind) {on : Bool} {lines others : List String} (skipped : String)
    (h : on = true → lines = others) :
    toggled kind on lines skipped = toggled kind on others skipped := by
  cases on with
  | true => rw [h rfl]
  | false => rfl

end Plan

namespace Plan.SameUse

variable {p q : Plan}

lemma faults_eq (h : p.SameUse q) : p.faults = q.faults := by
  have hpackages : p.system.pythonPackages.faults = q.system.pythonPackages.faults := by
    rcases h.packages with heq | ⟨-, hp, hq⟩
    · rw [heq]
    · rw [hp, hq]
  rw [faults, faults, h.source.faults_eq, h.target.faults_eq, hpackages]

lemma usesGithubCli_eq (h : p.SameUse q) : p.source.usesGithubCli = q.source.usesGithubCli := by
  unfold Endpoint.usesGithubCli
  rw [← h.source.kind]
  by_cases hkind : p.source.kind = .git
  · rw [h.githubCli hkind]
  · rw [beq_false_of_ne hkind, Bool.false_and, Bool.false_and]

lemma gitBranch_eq (h : p.SameUse q) : p.source.gitBranch = q.source.gitBranch := by
  unfold Endpoint.gitBranch
  rw [← h.source.kind]
  by_cases hkind : p.source.kind = .git
  · rw [if_pos hkind, if_pos hkind, h.branch hkind]
  · rw [if_neg hkind, if_neg hkind]

lemma toolLines_eq (h : p.SameUse q) (hon : p.system.installTools = true) :
    p.toolLines = q.toolLines := by
  have hpm := h.packageManager (Or.inl hon)
  unfold toolLines requirements
  rw [hpm, h.usesGithubCli_eq, h.installDependencies]

lemma firewallLines_eq (h : p.SameUse q) (hon : p.system.configureFirewall = true) :
    p.firewallLines = q.firewallLines := by
  have hpm := h.packageManager (Or.inr hon)
  unfold firewallLines
  rw [hpm]

lemma dependencyLines_eq (h : p.SameUse q) (hon : p.system.installDependencies = true) :
    p.dependencyLines = q.dependencyLines := by
  have hpackages : p.system.pythonPackages = q.system.pythonPackages :=
    h.packages.resolve_right fun hoff => by simp [hoff.1] at hon
  unfold dependencyLines
  rw [hpackages]

lemma syncCommand_eq (h : p.SameUse q) : p.syncCommand = q.syncCommand := by
  unfold syncCommand
  rw [h.wantsSudo, h.executable, h.source.argument_eq, h.target.argument_eq, h.usesGithubCli_eq,
    h.gitBranch_eq, h.dryRun]

lemma sections_eq (h : p.SameUse q) : p.sections = q.sections := by
  have htools := toggled_congr .tools toolsSkipped h.toolLines_eq
  have hfirewall := toggled_congr .firewall firewallSkipped h.firewallLines_eq
  have hdependencies := toggled_congr .dependencies dependenciesSkipped h.dependencyLines_eq
  have hhelper : (if p.system.installTools || p.system.configureFirewall then
        [(⟨.helper, true, unlines (toolCheckLines p.system.packageManager)⟩ : Section)] else []) =
      if p.system.installTools || p.system.configureFirewall then
        [⟨.helper, true, unlines (toolCheckLines q.system.packageManager)⟩] else [] := by
    split
    · rename_i hon
      rw [h.packageManager (by simpa using hon)]
    · rfl
  simp only [sections]
  rw [htools, hfirewall, hdependencies, hhelper, h.syncCommand_eq, h.installTools,
    h.configureFirewall, h.installDependencies]

end Plan.SameUse

/-- Settings that do not apply have no influence: plans that agree on the others give the same
script, or the same faults. -/
theorem compile_eq_of_sameUse {p q : Plan} (h : p.SameUse q) : compile p = compile q := by
  rw [compile, compile, h.faults_eq, h.sections_eq]

/-- A plan full of settings that do not apply to it. -/
def crowdedPlan : Plan where
  source := {
    path := "/srv/app", host := some "example.org", user := some "deploy", branch := some "main",
    useGithubCli := true, forceSudo := some true }
  target := {
    kind := .ssh, path := "/srv/app", host := some "example.org", user := some "deploy",
    privateKey := some " ", branch := some "main", useGithubCli := true }
  system := { packageManager := .brew, pythonPackages := .ofList ["rich"] }
  sync := { executable := " sync " }

/-- The plan with those settings only that apply to it. -/
def barePlan : Plan where
  source := { path := "/srv/app" }
  target := {
    kind := .ssh, path := "/srv/app", host := some "example.org", user := some "deploy" }
  sync := { executable := "sync" }

theorem compile_eq_of_sameUse_crowdedPlan :
    crowdedPlan.SameUse barePlan ∧ crowdedPlan ≠ barePlan ∧
      compile crowdedPlan = .ok barePlan.script := by
  have hsame : crowdedPlan.SameUse barePlan :=
    { source := ⟨rfl, rfl, nofun, nofun, nofun⟩
      target := ⟨rfl, rfl, fun _ => rfl, fun _ => rfl, fun _ => by decide⟩
      githubCli := nofun
      branch := nofun
      wantsSudo := rfl
      installTools := rfl
      configureFirewall := rfl
      installDependencies := rfl
      packageManager := by decide
      packages := Or.inr ⟨rfl, by decide, by decide⟩
      executable := by decide
      dryRun := rfl }
  have hfaults : barePlan.faults = [] := by decide
  refine ⟨hsame, by decide, ?_⟩
  rw [compile_eq_of_sameUse hsame]
  exact (compile_eq_ok_iff _ _).2 ⟨hfaults, rfl⟩

end SyncScript
