import SyncScript.PlanFile.Lookup
import SyncScript.Proofs.Files.Parents

/-!
# The search for the root

On a disk whose answers do not change, the search from a start upwards ends at the first of the
start, its parent, the parent of this one and so on, that holds a mark of a root, and at the start
if none does.
-/

namespace SyncScript

def Disk.Holds (disk : Disk Id) (p : Path) : Prop :=
  (disk.holds p).run = true

/-- What makes a path a root: a plan file or a Git directory is found under it. -/
def Disk.HoldsMark (disk : Disk Id) (p : Path) : Prop :=
  ∃ name ∈ rootMarks, disk.Holds (p.join name)

/-- The first path that holds a mark on the way from a start to its parents, or the start. -/
def Disk.IsFirstRoot (disk : Disk Id) (start root : Path) : Prop :=
  (∃ n, Path.ancestor n start = some root ∧ disk.HoldsMark root ∧
    ∀ m q, m < n → Path.ancestor m start = some q → ¬ disk.HoldsMark q) ∨
  root = start ∧ ∀ n q, Path.ancestor n start = some q → ¬ disk.HoldsMark q

lemma isRoot_iff (disk : Disk Id) (p : Path) : (isRoot disk p).run = true ↔ disk.HoldsMark p := by
  have hany : (isRoot disk p).run = rootMarks.any fun name => (disk.holds (p.join name)).run :=
    congrArg Id.run (List.anyM_pure (m := Id))
  rw [hany, List.any_eq_true]
  rfl

lemma detectRoot_eq (disk : Disk Id) (start : Path) :
    (detectRoot disk start).run =
      (start.upwards.find? fun p => (isRoot disk p).run).getD start := by
  have hfind : (start.upwards.findM? (isRoot disk)).run =
      start.upwards.find? fun p => (isRoot disk p).run :=
    List.idRun_findM? (isRoot disk) start.upwards
  rw [← hfind]
  rfl

lemma detectRoot_isFirstRoot (disk : Disk Id) (start : Path) :
    disk.IsFirstRoot start (detectRoot disk start).run := by
  rw [detectRoot_eq]
  cases hfind : start.upwards.find? fun p => (isRoot disk p).run with
  | none =>
    refine Or.inr ⟨rfl, fun n q hq hmark => ?_⟩
    rw [← Path.getElem?_parents] at hq
    have hnot := List.find?_eq_none.1 hfind q (List.mem_of_getElem? hq)
    exact hnot ((isRoot_iff disk q).2 hmark)
  | some root =>
    obtain ⟨hroot, n, hn, hget, hbefore⟩ := List.find?_eq_some_iff_getElem.1 hfind
    refine Or.inl ⟨n, ?_, (isRoot_iff disk root).1 hroot, fun m q hm hq hmark => ?_⟩
    · rw [← Path.getElem?_parents, List.getElem?_eq_some_iff]
      exact ⟨hn, hget⟩
    · rw [← Path.getElem?_parents] at hq
      obtain ⟨hlt, rfl⟩ := List.getElem?_eq_some_iff.1 hq
      have hnot := hbefore m hm
      rw [Bool.not_eq_true', Bool.eq_false_iff] at hnot
      exact hnot ((isRoot_iff disk _).2 hmark)

lemma exists_ancestor_eq_none (p : Path) : ∃ n, Path.ancestor n p = none :=
  ⟨_, (Path.getElem?_parents p _).symm.trans (List.getElem?_eq_none (Nat.le_refl _))⟩

end SyncScript
