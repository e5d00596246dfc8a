import SyncScript.Proofs.PlanFile.NearestRoot

/-!
# Places of files

Where a path leads can be told from its steps alone, since a tree has no links. So paths that begin
in the same way and never go up lead to the same place only if they are the same.
-/

namespace SyncScript

namespace FileTree

variable {t : FileTree} {directory : Location} {p : Path}

lemma kindAt?_eq_some_iff {kind : FileKind} :
    t.kindAt? directory p = some kind ↔
      ∃ l, t.locate directory p = .ok l ∧ t.kindOf? l = some kind := by
  rw [kindAt?]
  cases t.locate directory p with
  | ok l => simp
  | error cause => simp

end FileTree

namespace Component

/-- The component that a step of a path is. -/
def ofStep (part : List Char) : Component :=
  if part = ['.', '.'] then .parent else .name part

/-- Whether a component is a step, and not where a path starts. -/
def isStep (c : Component) : Bool :=
  c != .root && c != .current

lemma ofStep_injective : Function.Injective ofStep := by
  intro a b hab
  unfold ofStep at hab
  split_ifs at hab with ha hb hb
  · rw [ha, hb]
  · exact Component.name.inj hab

lemma isStep_ofStep (part : List Char) : (ofStep part).isStep = true := by
  unfold ofStep
  split_ifs <;> rfl

end Component

namespace Path

variable {p q : Path}

/-- Two paths that begin in the same way, at the root, at a leading dot or at neither, and that do
not go up. -/
structure SpelledAlike (p q : Path) : Prop where
  origin : p.origin = q.origin
  left : Component.parent ∉ p.components
  right : Component.parent ∉ q.components

lemma components_eq (p : Path) :
    p.components =
      (if p.origin = ['/'] then [.root] else if p.origin = ['.'] then [.current] else []) ++
        p.steps.map Component.ofStep :=
  rfl

lemma filter_components (p : Path) :
    p.components.filter Component.isStep = p.steps.map Component.ofStep := by
  have horigin : (if p.origin = ['/'] then [Component.root]
      else if p.origin = ['.'] then [.current] else []).filter Component.isStep = [] := by
    split_ifs <;> rfl
  have hsteps : (p.steps.map Component.ofStep).filter Component.isStep =
      p.steps.map Component.ofStep :=
    List.filter_eq_self.2 (List.forall_mem_map.2 fun part _ => Component.isStep_ofStep part)
  rw [components_eq, List.filter_append, horigin, hsteps, List.nil_append]

lemma root_mem_components_iff (p : Path) :
    Component.root ∈ p.components ↔ p.isAbsolute = true := by
  rw [isAbsolute_iff, components_eq, List.mem_append]
  constructor
  · rintro (hroot | hroot)
    · by_contra hne
      rw [if_neg hne] at hroot
      split_ifs at hroot
      · cases List.mem_singleton.1 hroot
      · cases hroot
    · obtain ⟨part, -, hpart⟩ := List.mem_map.1 hroot
      have hstep := Component.isStep_ofStep part
      rw [hpart] at hstep
      cases hstep
  · intro horigin
    rw [if_pos horigin]
    exact Or.inl List.mem_cons_self

/-- Where a path leads to depends on its components alone. -/
lemma place_eq_of_components (h : p.components = q.components) (directory : Location) :
    p.place directory p.steps.length = q.place directory q.steps.length := by
  have habsolute : p.isAbsolute = q.isAbsolute := by
    rw [Bool.eq_iff_iff, ← root_mem_components_iff, ← root_mem_components_iff, h]
  have hsteps : p.steps = q.steps := by
    apply List.map_injective_iff.2 Component.ofStep_injective
    rw [← filter_components, ← filter_components, h]
  rw [place, place, List.take_length, List.take_length, base, base, habsolute, hsteps]

/-- Paths that are spelled alike and lead to the same place are the same. -/
lemma SpelledAlike.components_eq_of_place (h : SpelledAlike p q) {directory : Location}
    (hplace : p.place directory p.steps.length = q.place directory q.steps.length) :
    p.components = q.components := by
  have hbase : p.base directory = q.base directory := by
    rw [base, base, isAbsolute_eq_of_origin h.origin]
  rw [place_of_no_parent h.left, place_of_no_parent h.right, hbase, List.append_cancel_left_eq,
    List.take_length, List.take_length] at hplace
  have hsteps : p.steps = q.steps :=
    List.map_injective_iff.2 (fun a b hab => String.ofList_injective hab) hplace
  rw [components_eq, components_eq, h.origin, hsteps]

end Path

end SyncScript
