import SyncScript.Proofs.Plan.Rules
import SyncScript.Proofs.Script.FixedLines

/-!
# Which plans compile

A plan compiles exactly when it is well formed. Otherwise the refusal lists every rule that the
plan breaks. A script always has the same sections in the same order, and a section that is turned
off is a comment on a single line.
-/

namespace SyncScript

/-- The part of a plan that a fault belongs to, as the message of the fault begins with it. -/
def PlanFault.label : PlanFault → String
  | .source _ => "Source: "
  | .target _ => "Target: "
  | .package _ => "System: "

lemma PlanFault.beginsWith_label (fault : PlanFault) :
    Text.beginsWith fault.message fault.label = true := by
  rw [Text.beginsWith_iff]
  cases fault with
  | source fault => exact ⟨fault.reason.toList, by simp [message, label, EndpointFault.message]⟩
  | target fault => exact ⟨fault.reason.toList, by simp [message, label, EndpointFault.message]⟩
  | package name => simp [message, label, packageMessage]

/-- The sections that a setting of the system turns off. -/
def System.turnsOff (s : System) : SectionKind → Bool
  | .tools => ! s.installTools
  | .firewall => ! s.configureFirewall
  | .dependencies => ! s.installDependencies
  | .shebang | .helper | .sync => false

/-- A comment that takes a single line. -/
def IsComment (body : String) : Prop :=
  Text.beginsWith body "#" = true ∧ '\n' ∉ body.toList ∧ '\r' ∉ body.toList

lemma isComment_skipped :
    ∀ body ∈ [Plan.toolsSkipped, Plan.firewallSkipped, Plan.dependenciesSkipped],
      IsComment body := by
  have hstart : ∀ body ∈ [Plan.toolsSkipped, Plan.firewallSkipped, Plan.dependenciesSkipped],
      Text.beginsWith body "#" = true := by
    simp only [Plan.toolsSkipped, Plan.firewallSkipped, Plan.dependenciesSkipped, Text.beginsWith,
      List.forall_mem_cons]
    repeat rw [String.toList_ofList]
    decide
  exact fun body hbody => ⟨hstart body hbody, single_of_isInert (isInert_skipped body hbody)⟩

namespace Plan

lemma kinds_sections (p : Plan) :
    p.sections.map Section.kind =
      [.shebang] ++
        (if p.system.installTools = true ∨ p.system.configureFirewall = true then [.helper]
          else []) ++
        [.tools, .firewall, .dependencies, .sync] := by
  have hhelper : (p.system.installTools || p.system.configureFirewall) = true ↔
      p.system.installTools = true ∨ p.system.configureFirewall = true := by
    simp
  simp only [sections, hhelper]
  split <;> simp [toggled_kind]

/-- A section that can be turned off is populated when it is on, and else a comment. -/
lemma toggled_populated (kind : SectionKind) (on : Bool) (lines : List String) {skipped : String}
    (h : IsComment skipped) :
    (toggled kind on lines skipped).populated = on ∧
      (on = false → IsComment (toggled kind on lines skipped).body) := by
  cases on with
  | true => exact ⟨rfl, nofun⟩
  | false => exact ⟨rfl, fun _ => h⟩

lemma populated_of_mem_sections {p : Plan} {part : Section} (h : part ∈ p.sections) :
    (part.populated = false ↔ p.system.turnsOff part.kind = true) ∧
      (part.populated = false → IsComment part.body) := by
  -- sections without a setting are always populated
  have hfixed : ∀ kind body, p.system.turnsOff kind = false →
      ((⟨kind, true, body⟩ : Section).populated = false ↔ p.system.turnsOff kind = true) ∧
        ((⟨kind, true, body⟩ : Section).populated = false → IsComment body) := by
    intro kind body hkind
    simp [hkind]
  have htoggled : ∀ kind on lines, ∀ skipped ∈ [toolsSkipped, firewallSkipped, dependenciesSkipped],
      p.system.turnsOff kind = (! on) →
      ((toggled kind on lines skipped).populated = false ↔
        p.system.turnsOff (toggled kind on lines skipped).kind = true) ∧
        ((toggled kind on lines skipped).populated = false →
          IsComment (toggled kind on lines skipped).body) := by
    intro kind on lines skipped hskipped hkind
    obtain ⟨hpopulated, hcomment⟩ := toggled_populated kind on lines (isComment_skipped _ hskipped)
    rw [hpopulated, toggled_kind, hkind]
    exact ⟨by simp, hcomment⟩
  simp only [sections, List.mem_append, List.mem_cons, List.not_mem_nil, or_false] at h
  rcases h with (rfl | h) | rfl | rfl | rfl | rfl
  · exact hfixed _ _ rfl
  · split at h
    · rw [List.mem_singleton.1 h]
      exact hfixed _ _ rfl
    · cases h
  · exact htoggled _ _ _ _ (by simp) rfl
  · exact htoggled _ _ _ _ (by simp) rfl
  · exact htoggled _ _ _ _ (by simp) rfl
  · exact hfixed _ _ rfl

end Plan

/-- A plan compiles exactly when it is well formed. A plan that is not is refused with its faults:
the rules it breaks, in the order source, target, packages, each of them once and each with a
message that says where it belongs. A script has its sections in a fixed order, the helper only
where tools or the firewall need it, and a section is unpopulated, and then a comment on one line,
exactly when its setting is off. -/
theorem compile_wellFormed (p : Plan) :
    ((∃ s, compile p = .ok s) ↔ p.IsWellFormed) ∧
    (¬ p.IsWellFormed →
      ∃ e, compile p = .error e ∧ e.faults = p.faults ∧
        (∀ fault, fault ∈ e.faults ↔ p.Breaks fault) ∧
        e.faults.Sublist p.rules ∧ e.faults.Nodup ∧
        ∀ fault ∈ e.faults, Text.beginsWith fault.message fault.label = true) ∧
    (∀ s, compile p = .ok s →
      s.sections.map Section.kind =
        [.shebang] ++
          (if p.system.installTools = true ∨ p.system.configureFirewall = true then [.helper]
            else []) ++
          [.tools, .firewall, .dependencies, .sync] ∧
      ∀ part ∈ s.sections,
        (part.populated = false ↔ p.system.turnsOff part.kind = true) ∧
        (part.populated = false → IsComment part.body)) := by
  refine ⟨?_, fun hill => ?_, fun s hs => ?_⟩
  · rw [← p.faults_eq_nil_iff]
    constructor
    · rintro ⟨s, hs⟩
      exact ((compile_eq_ok_iff p s).1 hs).1
    · intro hfaults
      exact ⟨p.script, (compile_eq_ok_iff p p.script).2 ⟨hfaults, rfl⟩⟩
  · have hfaults : p.faults ≠ [] := fun hnil => hill (p.faults_eq_nil_iff.1 hnil)
    refine ⟨⟨p.faults⟩, ?_, rfl, p.mem_faults_iff, p.faults_sublist, p.faults_nodup,
      fun fault _ => fault.beginsWith_label⟩
    rw [compile, if_neg (by simpa using hfaults)]
  · obtain ⟨-, rfl⟩ := (compile_eq_ok_iff p s).1 hs
    exact ⟨p.kinds_sections, fun part hpart => Plan.populated_of_mem_sections hpart⟩

/-- A plan in which both endpoints and a package are at fault. -/
def faultyPlan : Plan where
  source := { kind := .ssh, path := "srv/app", host := some " ", user := some "deploy" }
  target := { kind := .git, path := "git@host/app" }
  system := { pythonPackages := .ofList ["rich", "a b"] }

/-- All faults of a plan are reported together, in the order of the rules. -/
theorem compile_wellFormed_faultyPlan :
    ¬ faultyPlan.IsWellFormed ∧
    ∃ e, compile faultyPlan = .error e ∧
      e.faults = [.source .sshHostMissing, .source .remotePathRelative,
        .target .gitSeparatorMissing, .package "a b"] := by
  have hfaults : faultyPlan.faults = [.source .sshHostMissing, .source .remotePathRelative,
      .target .gitSeparatorMissing, .package "a b"] := by
    decide
  have hill : ¬ faultyPlan.IsWellFormed := by
    rw [← faultyPlan.faults_eq_nil_iff, hfaults]
    simp
  obtain ⟨e, he, hlist, -⟩ := (compile_wellFormed faultyPlan).2.1 hill
  exact ⟨hill, e, he, hlist.trans hfaults⟩

end SyncScript
