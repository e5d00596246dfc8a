import Mathlib.Data.List.Nodup
import SyncScript.Plan
import SyncScript.Proofs.Text.Parts

/-!
# The rules for plans

What makes a plan well formed, and when a plan breaks which rule. The faults of a plan are exactly
the rules it breaks, each of them once and in a fixed order, and a plan without faults is a well
formed one.
-/

namespace SyncScript

/-- An optional text that is there and is not blank. -/
def Text.IsGiven (s : Option String) : Prop :=
  ∃ text, s = some text ∧ isBlank text = false

lemma Text.given_eq_none_iff (s : Option String) : given s = none ↔ ¬ IsGiven s := by
  unfold given IsGiven
  cases s with
  | none => simp
  | some text => cases h : isBlank text <;> simp [Option.filter, h]

lemma Text.given_eq_some_iff (s : Option String) (text : String) :
    given s = some text ↔ s = some text ∧ isBlank text = false := by
  rw [given, Option.filter_eq_some_iff, Bool.not_eq_true']

/-- An endpoint that can be synced from and to. -/
structure Endpoint.IsWellFormed (e : Endpoint) : Prop where
  path_given : Text.isBlank e.path = false
  localDir : e.kind = .localDir → "/".toList <+: e.path.toList
  ssh : e.kind = .ssh → "/".toList <+: e.path.toList ∧ Text.IsGiven e.host ∧ Text.IsGiven e.user
  git : e.kind = .git → (∃ scheme ∈ gitSchemes, scheme.toList <+: e.path.toList) ∧
    ("git@".toList <+: e.path.toList → ':' ∈ e.path.toList)

structure Plan.IsWellFormed (p : Plan) : Prop where
  source : p.source.IsWellFormed
  target : p.target.IsWellFormed
  packages : ∀ name ∈ p.system.pythonPackages.names, ∀ c ∈ name.toList,
    Text.isSpace c = false ∧ Text.isControl c = false

/-- When an endpoint breaks a rule. Without a path only the rule about the path is broken; the
other rules each belong to one kind of endpoint. -/
def Endpoint.Breaks (e : Endpoint) : EndpointFault → Prop
  | .pathMissing => Text.isBlank e.path = true
  | .localPathRelative =>
    Text.isBlank e.path = false ∧ e.kind = .localDir ∧ ¬ "/".toList <+: e.path.toList
  | .sshHostMissing => Text.isBlank e.path = false ∧ e.kind = .ssh ∧ ¬ Text.IsGiven e.host
  | .sshUserMissing => Text.isBlank e.path = false ∧ e.kind = .ssh ∧ ¬ Text.IsGiven e.user
  | .remotePathRelative =>
    Text.isBlank e.path = false ∧ e.kind = .ssh ∧ ¬ "/".toList <+: e.path.toList
  | .gitSchemeUnknown =>
    Text.isBlank e.path = false ∧ e.kind = .git ∧
      ∀ scheme ∈ gitSchemes, ¬ scheme.toList <+: e.path.toList
  | .gitSeparatorMissing =>
    Text.isBlank e.path = false ∧ e.kind = .git ∧ "git@".toList <+: e.path.toList ∧
      ':' ∉ e.path.toList

/-- When a plan breaks a rule. Every package name has a rule of its own. -/
def Plan.Breaks (p : Plan) : PlanFault → Prop
  | .source fault => p.source.Breaks fault
  | .target fault => p.target.Breaks fault
  | .package name => name ∈ p.system.pythonPackages.names ∧
    ∃ c ∈ name.toList, Text.isSpace c = true ∨ Text.isControl c = true

/-- The rules for endpoints, in the order in which broken ones are listed. -/
def EndpointFault.all : List EndpointFault :=
  [.pathMissing, .localPathRelative, .sshHostMissing, .sshUserMissing, .remotePathRelative,
    .gitSchemeUnknown, .gitSeparatorMissing]

/-- The rules for a plan: those for its source, for its target, and for each of its packages. -/
def Plan.rules (p : Plan) : List PlanFault :=
  EndpointFault.all.map .source ++ EndpointFault.all.map .target ++
    p.system.pythonPackages.names.map .package

namespace Endpoint

lemma wellFormed_iff (e : Endpoint) : e.IsWellFormed ↔ ∀ fault, ¬ e.Breaks fault := by
  constructor
  · intro h fault hbreaks
    cases fault with
    | pathMissing => exact absurd hbreaks (by simp [Breaks, h.path_given])
    | localPathRelative => exact hbreaks.2.2 (h.localDir hbreaks.2.1)
    | sshHostMissing => exact hbreaks.2.2 (h.ssh hbreaks.2.1).2.1
    | sshUserMissing => exact hbreaks.2.2 (h.ssh hbreaks.2.1).2.2
    | remotePathRelative => exact hbreaks.2.2 (h.ssh hbreaks.2.1).1
    | gitSchemeUnknown =>
      obtain ⟨scheme, hscheme, hstart⟩ := (h.git hbreaks.2.1).1
      exact hbreaks.2.2 scheme hscheme hstart
    | gitSeparatorMissing => exact hbreaks.2.2.2 ((h.git hbreaks.2.1).2 hbreaks.2.2.1)
  · intro h
    have hpath : Text.isBlank e.path = false := Bool.eq_false_iff.2 (h .pathMissing)
    refine ⟨hpath, fun hkind => ?_, fun hkind => ⟨?_, ?_, ?_⟩, fun hkind => ⟨?_, fun hstart => ?_⟩⟩
    · exact Classical.not_not.1 fun hn => h .localPathRelative ⟨hpath, hkind, hn⟩
    · exact Classical.not_not.1 fun hn => h .remotePathRelative ⟨hpath, hkind, hn⟩
    · exact Classical.not_not.1 fun hn => h .sshHostMissing ⟨hpath, hkind, hn⟩
    · exact Classical.not_not.1 fun hn => h .sshUserMissing ⟨hpath, hkind, hn⟩
    · by_contra hn
      push Not at hn
      exact h .gitSchemeUnknown ⟨hpath, hkind, hn⟩
    · exact Classical.not_not.1 fun hn => h .gitSeparatorMissing ⟨hpath, hkind, hstart, hn⟩

lemma mem_faults_iff (e : Endpoint) (fault : EndpointFault) :
    fault ∈ e.faults ↔ e.Breaks fault := by
  unfold faults
  by_cases hblank : Text.isBlank e.path = true
  · rw [if_pos hblank]
    cases fault <;> simp [Breaks, hblank]
  · have hpath : Text.isBlank e.path = false := Bool.eq_false_iff.2 hblank
    rw [if_neg hblank]
    cases hkind : e.kind with
    | localDir =>
      simp only [Text.beginsWith_iff]
      cases fault <;> simp [Breaks, hpath, hkind]
    | ssh =>
      simp only [Text.beginsWith_iff]
      cases fault <;> simp [Breaks, hpath, hkind, Text.given_eq_none_iff]
    | git =>
      have hscheme : gitSchemes.any (Text.beginsWith e.path) = true ↔
          ∃ scheme ∈ gitSchemes, scheme.toList <+: e.path.toList := by
        simp only [List.any_eq_true, Text.beginsWith_iff]
      have hseparator : (Text.beginsWith e.path "git@" && ! e.path.toList.contains ':') = true ↔
          "git@".toList <+: e.path.toList ∧ ':' ∉ e.path.toList := by
        simp [Text.beginsWith_iff]
      simp only [hscheme, hseparator]
      cases fault <;> simp [Breaks, hpath, hkind]

lemma faults_sublist (e : Endpoint) : e.faults.Sublist EndpointFault.all := by
  unfold faults
  split
  · decide
  · cases hkind : e.kind with
    | localDir =>
      have hrules : [EndpointFault.localPathRelative].Sublist EndpointFault.all := by decide
      refine List.Sublist.trans ?_ hrules
      dsimp only
      split <;> simp
    | ssh =>
      have hrules : ([.sshHostMissing] ++ [.sshUserMissing] ++ [.remotePathRelative] :
          List EndpointFault).Sublist EndpointFault.all := by
        decide
      refine List.Sublist.trans ((List.Sublist.append ?_ ?_).append ?_) hrules
      all_goals split <;> simp
    | git =>
      have hrules : ([.gitSchemeUnknown] ++ [.gitSeparatorMissing] :
          List EndpointFault).Sublist EndpointFault.all := by
        decide
      refine List.Sublist.trans (List.Sublist.append ?_ ?_) hrules
      all_goals split <;> simp

lemma faults_eq_nil_iff (e : Endpoint) : e.faults = [] ↔ e.IsWellFormed := by
  rw [wellFormed_iff, List.eq_nil_iff_forall_not_mem]
  exact forall_congr' fun fault => not_congr (e.mem_faults_iff fault)

end Endpoint

lemma isPackageFault_iff (name : String) :
    isPackageFault name = true ↔
      ∃ c ∈ name.toList, Text.isSpace c = true ∨ Text.isControl c = true := by
  simp only [isPackageFault, List.any_eq_true, Bool.or_eq_true]

namespace Plan

lemma mem_faults_iff (p : Plan) (fault : PlanFault) : fault ∈ p.faults ↔ p.Breaks fault := by
  cases fault with
  | source fault => simp [faults, Breaks, Endpoint.mem_faults_iff]
  | target fault => simp [faults, Breaks, Endpoint.mem_faults_iff]
  | package name => simp [faults, Breaks, PackageList.faults, isPackageFault_iff]

lemma faults_sublist (p : Plan) : p.faults.Sublist p.rules := by
  have hpackages : p.system.pythonPackages.faults.Sublist p.system.pythonPackages.names :=
    List.filter_sublist
  exact ((p.source.faults_sublist.map _).append (p.target.faults_sublist.map _)).append
    (hpackages.map _)

lemma nodup_rules (p : Plan) : p.rules.Nodup := by
  have hall : EndpointFault.all.Nodup := by decide
  have hsource : (EndpointFault.all.map PlanFault.source).Nodup :=
    hall.map fun _ _ h => PlanFault.source.inj h
  have htarget : (EndpointFault.all.map PlanFault.target).Nodup :=
    hall.map fun _ _ h => PlanFault.target.inj h
  have hpackages : (p.system.pythonPackages.names.map PlanFault.package).Nodup :=
    p.system.pythonPackages.nodup.map fun _ _ h => PlanFault.package.inj h
  refine (hsource.append htarget ?_).append hpackages ?_
  · intro fault hs ht
    obtain ⟨a, -, rfl⟩ := List.mem_map.1 hs
    obtain ⟨b, -, hb⟩ := List.mem_map.1 ht
    cases hb
  · intro fault he hp
    obtain ⟨name, -, rfl⟩ := List.mem_map.1 hp
    simp at he

lemma faults_nodup (p : Plan) : p.faults.Nodup :=
  p.nodup_rules.sublist p.faults_sublist

lemma faults_eq_nil_iff (p : Plan) : p.faults = [] ↔ p.IsWellFormed := by
  have hpackages : p.system.pythonPackages.faults = [] ↔
      ∀ name ∈ p.system.pythonPackages.names, ∀ c ∈ name.toList,
        Text.isSpace c = false ∧ Text.isControl c = false := by
    rw [PackageList.faults, List.filter_eq_nil_iff]
    refine forall₂_congr fun name _ => ?_
    rw [isPackageFault_iff]
    push Not
    simp only [Bool.not_eq_true]
  simp only [faults, List.append_eq_nil_iff, List.map_eq_nil_iff, Endpoint.faults_eq_nil_iff,
    hpackages]
  exact ⟨fun h => ⟨h.1.1, h.1.2, h.2⟩, fun h => ⟨⟨h.source, h.target⟩, h.packages⟩⟩

end Plan

end SyncScript
