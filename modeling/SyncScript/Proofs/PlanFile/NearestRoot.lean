import SyncScript.Proofs.Files.Walk
import SyncScript.Proofs.PlanFile.Root

/-!
# The nearest root

The search for the root goes back along the steps of the start: from the directory where they end,
through those they pass, to the one where they begin. These are the directories above the start
when all steps lead down from the root of the tree. But `..` leads up, so that going back over it
leads down again, and a relative start begins at the working directory, above which the search
does not look.
-/

namespace SyncScript

namespace FileTree

variable {t : FileTree} {directory l : Location} {start : Path}

/-- A directory with a plan file or a Git directory in it. -/
def Marked (t : FileTree) (l : Location) : Prop :=
  ∃ name ∈ rootMarks, (t.get? (l ++ [name])).isSome = true

instance (t : FileTree) (l : Location) : Decidable (t.Marked l) :=
  inferInstanceAs (Decidable (∃ name ∈ rootMarks, (t.get? (l ++ [name])).isSome = true))

/-- The nearest marked directory upwards from a location, or the location itself without one. -/
def IsNearestRoot (t : FileTree) (l root : Location) : Prop :=
  (root <+: l ∧ t.Marked root ∧ ∀ m, m <+: l → root.length < m.length → ¬ t.Marked m) ∨
    root = l ∧ ∀ m, m <+: l → ¬ t.Marked m

/-- The last marked one of the locations that are passed in `n` steps, or the last one. -/
def IsLastRoot (t : FileTree) (place : Nat → Location) (n i : Nat) : Prop :=
  (t.Marked (place i) ∧ ∀ j, i < j → j ≤ n → ¬ t.Marked (place j)) ∨
    i = n ∧ ∀ j ≤ n, ¬ t.Marked (place j)

lemma isFileName_of_mem_rootMarks :
    ∀ name ∈ rootMarks, '/' ∉ name.toList ∧ '\x00' ∉ name.toList ∧
      Path.isIdle name.toList = false ∧ name.toList ≠ ['.', '.'] := by
  decide

lemma holdsMark_ancestor {q : Path} {n : Nat} (h : t.locate directory start = .ok l)
    (hdir : t.kindOf? l = some .directory) (hq : Path.ancestor n start = some q) :
    (t.disk directory).HoldsMark q ↔
      t.Marked (start.place directory (start.steps.length - n)) := by
  have hname : ∀ name ∈ rootMarks, (t.disk directory).Holds (q.join name) ↔
      (t.get? (start.place directory (start.steps.length - n) ++ [name])).isSome = true := by
    intro name hmark
    obtain ⟨hslash, hnul, hidle, hparent⟩ := isFileName_of_mem_rootMarks name hmark
    exact kindAt?_ancestor h hdir hq hslash hnul hidle hparent
  constructor
  · rintro ⟨name, hmark, hholds⟩
    exact ⟨name, hmark, (hname name hmark).1 hholds⟩
  · rintro ⟨name, hmark, hentry⟩
    exact ⟨name, hmark, (hname name hmark).2 hentry⟩

lemma exists_ancestor_place (h : t.locate directory start = .ok l)
    (hdir : t.kindOf? l = some .directory) {j : Nat} (hj : j ≤ start.steps.length) :
    ∃ q, Path.ancestor (start.steps.length - j) start = some q ∧
      ((t.disk directory).HoldsMark q ↔ t.Marked (start.place directory j)) := by
  obtain ⟨q, hq⟩ := start.exists_ancestor (Nat.sub_le start.steps.length j)
  have hmark := holdsMark_ancestor h hdir hq
  rw [Nat.sub_sub_self hj] at hmark
  exact ⟨q, hq, hmark⟩

lemma exists_place_detectRoot (h : t.locate directory start = .ok l)
    (hdir : t.kindOf? l = some .directory) :
    ∃ i ≤ start.steps.length,
      t.Leads directory (detectRoot (t.disk directory) start).run (start.place directory i) ∧
      t.IsLastRoot (start.place directory) start.steps.length i := by
  rcases detectRoot_isFirstRoot (t.disk directory) start with
    ⟨n, hroot, hmark, hbefore⟩ | ⟨hroot, hnone⟩
  · -- the `n`-th parent has `n` steps less, or none where `n` is too large for that
    refine ⟨start.steps.length - n, Nat.sub_le _ _, leads_ancestor h hdir hroot,
      Or.inl ⟨(holdsMark_ancestor h hdir hroot).1 hmark, fun j hij hj hmarked => ?_⟩⟩
    obtain ⟨q, hq, hiff⟩ := exists_ancestor_place h hdir hj
    have hearlier : start.steps.length - j < n := by omega
    exact hbefore _ q hearlier hq (hiff.2 hmarked)
  · refine ⟨start.steps.length, Nat.le_refl _, ?_, Or.inr ⟨rfl, fun j hj hmarked => ?_⟩⟩
    · rw [hroot]
      exact leads_ancestor (n := 0) h hdir rfl
    · obtain ⟨q, hq, hiff⟩ := exists_ancestor_place h hdir hj
      exact hnone _ q hq (hiff.2 hmarked)

end FileTree

namespace Path

/-- From a location that is passed to the last one, all locations in between are passed. -/
lemma exists_place_between {p : Path} {directory m : Location} {i : Nat} (hi : i ≤ p.steps.length)
    (h : m <+: p.place directory p.steps.length) :
    m <+: p.place directory i ∨ ∃ j ≤ p.steps.length, i ≤ j ∧ p.place directory j = m := by
  have hadd : ∀ k, p.place directory (i + k) =
      ((p.steps.drop i).take k).foldl Location.next (p.place directory i) := by
    intro k
    rw [place, place, ← List.foldl_append, ← List.take_add]
  have hlast : p.place directory p.steps.length =
      (p.steps.drop i).foldl Location.next (p.place directory i) := by
    have hlength : p.steps.length = i + (p.steps.drop i).length := by
      rw [List.length_drop]
      omega
    rw [hlength, hadd, List.take_length]
  rw [hlast] at h
  rcases Location.exists_of_prefix_foldl_next h with habove | ⟨k, hk, hplace⟩
  · exact Or.inl habove
  · rw [List.length_drop] at hk
    exact Or.inr ⟨i + k, by omega, Nat.le_add_right i k, (hadd k).trans hplace⟩

lemma place_zero (p : Path) (directory : Location) : p.place directory 0 = p.base directory := by
  rw [place, List.take_zero, List.foldl_nil]

lemma place_of_no_parent {p : Path} (h : Component.parent ∉ p.components) (directory : Location)
    (n : Nat) : p.place directory n = p.base directory ++ (p.steps.take n).map String.ofList := by
  have hsteps : ∀ step ∈ p.steps, step ≠ ['.', '.'] := by
    rintro step hstep rfl
    exact h (List.mem_append_right _ (List.mem_map.2 ⟨_, hstep, if_pos rfl⟩))
  exact Location.foldl_next_of_no_parent
    (fun step hstep => hsteps step (List.mem_of_mem_take hstep)) _

lemma place_prefix {p : Path} (h : Component.parent ∉ p.components) (directory : Location)
    {i n : Nat} (hi : i ≤ n) : p.place directory i <+: p.place directory n := by
  rw [place_of_no_parent h, place_of_no_parent h, List.prefix_append_right_inj]
  exact (List.take_prefix_take_left hi).map String.ofList

end Path

namespace FileTree

variable {t : FileTree} {directory l : Location} {start : Path}

/-- Where no location that is passed is marked, marks can only be above the working directory. -/
lemma unmarked_iff (h : ∀ j ≤ start.steps.length, ¬ t.Marked (start.place directory j))
    (hl : start.place directory start.steps.length = l) :
    (∀ m, m <+: l → ¬ t.Marked m) ↔
      start.isAbsolute = true ∨ ∀ m, m <+: directory → m <+: l → ¬ t.Marked m := by
  constructor
  · intro hnone
    exact Or.inr fun m _ hm => hnone m hm
  · intro hnone m hm
    rw [← hl] at hm
    rcases Path.exists_place_between (Nat.zero_le _) hm with habove | ⟨j, hj, -, rfl⟩
    · by_cases habsolute : start.isAbsolute = true
      · have hroot : m = start.place directory 0 := by
          rw [Path.place_zero, Path.base, if_pos habsolute] at habove ⊢
          exact List.prefix_nil.1 habove
        rw [hroot]
        exact h 0 (Nat.zero_le _)
      · rw [Path.place_zero, Path.base, if_neg habsolute] at habove
        exact hnone.resolve_left habsolute m habove (hl ▸ hm)
    · exact h j hj

lemma isNearestRoot_iff {i : Nat} (hi : i ≤ start.steps.length)
    (h : t.IsLastRoot (start.place directory) start.steps.length i)
    (hl : start.place directory start.steps.length = l) :
    t.IsNearestRoot l (start.place directory i) ↔
      start.place directory i <+: l ∧ (t.Marked (start.place directory i) ∨
        start.isAbsolute = true ∨ ∀ m, m <+: directory → m <+: l → ¬ t.Marked m) := by
  rcases h with ⟨hmarked, hafter⟩ | ⟨rfl, hnone⟩
  · -- a mark between the root and the start would be passed after the root
    have hnearest : start.place directory i <+: l →
        ∀ m, m <+: l → (start.place directory i).length < m.length → ¬ t.Marked m := by
      intro habove m hm hlength
      rw [← hl] at hm
      rcases Path.exists_place_between hi hm with hshort | ⟨j, hj, hij, rfl⟩
      · have hle := hshort.length_le
        omega
      · have hne : i ≠ j := by
          rintro rfl
          omega
        exact hafter j (by omega) hj
    constructor
    · rintro (⟨habove, -⟩ | ⟨heq, -⟩)
      · exact ⟨habove, Or.inl hmarked⟩
      · exact ⟨heq ▸ List.prefix_refl _, Or.inl hmarked⟩
    · rintro ⟨habove, -⟩
      exact Or.inl ⟨habove, hmarked, hnearest habove⟩
  · have hlast := hnone _ (Nat.le_refl _)
    rw [hl] at hlast ⊢
    rw [← unmarked_iff hnone hl]
    constructor
    · rintro (⟨-, hmarked, -⟩ | ⟨-, hunmarked⟩)
      · exact absurd hmarked hlast
      · exact ⟨List.prefix_refl l, Or.inr hunmarked⟩
    · rintro ⟨-, hunmarked⟩
      exact Or.inr ⟨rfl, hunmarked.resolve_left hlast⟩

/-- The search for the root finds the last marked directory that the steps of the start pass, or
else the start. This is the nearest root exactly if it is at or above the start, as always without
`..`, and if no mark is missed: with a relative start those above the working directory are, where
no directory on the way is marked. -/
theorem detectRoot_nearest (h : t.locate directory start = .ok l)
    (hdir : t.kindOf? l = some .directory) :
    ∃ i ≤ start.steps.length,
      t.Leads directory (detectRoot (t.disk directory) start).run (start.place directory i) ∧
      t.IsLastRoot (start.place directory) start.steps.length i ∧
      (t.IsNearestRoot l (start.place directory i) ↔
        start.place directory i <+: l ∧ (t.Marked (start.place directory i) ∨
          start.isAbsolute = true ∨ ∀ m, m <+: directory → m <+: l → ¬ t.Marked m)) ∧
      (Component.parent ∉ start.components → start.place directory i <+: l) := by
  obtain ⟨i, hi, hleads, hlast⟩ := exists_place_detectRoot h hdir
  have hl := (eq_place_of_locate h).symm
  refine ⟨i, hi, hleads, hlast, isNearestRoot_iff hi hlast hl, fun hparent => ?_⟩
  rw [← hl]
  exact Path.place_prefix hparent directory hi

/-- A tree with a plan file at its root and a Git directory in `/a/b`. -/
def rootTree : FileTree where
  entries := [
    (["repull.toml"], .file .empty), (["a"], .directory), (["a", "b"], .directory),
    (["a", "b", ".git"], .directory)]

/-- From an absolute start without `..` the nearest root is found. -/
theorem detectRoot_nearest_rootTree :
    rootTree.locate [] ⟨"/a"⟩ = .ok ["a"] ∧
    ∃ root, rootTree.Leads [] (detectRoot (rootTree.disk []) ⟨"/a"⟩).run root ∧
      rootTree.IsNearestRoot ["a"] root := by
  have hstart : rootTree.locate [] ⟨"/a"⟩ = .ok ["a"] := by decide
  obtain ⟨i, -, hleads, -, hnearest, habove⟩ := detectRoot_nearest hstart (by decide)
  have hparent : Component.parent ∉ (⟨"/a"⟩ : Path).components := by decide
  exact ⟨hstart, _, hleads, hnearest.2 ⟨habove hparent, Or.inr (Or.inl (by decide))⟩⟩

/-- From `/a/b/..` the search goes down into `/a/b`, and from `.` it does not go up at all. -/
theorem detectRoot_not_nearest :
    (rootTree.locate [] ⟨"/a/b/.."⟩ = .ok ["a"] ∧
      rootTree.Leads [] (detectRoot (rootTree.disk []) ⟨"/a/b/.."⟩).run ["a", "b"] ∧
      ¬ rootTree.IsNearestRoot ["a"] ["a", "b"]) ∧
    rootTree.locate ["a"] ⟨"."⟩ = .ok ["a"] ∧
      rootTree.Leads ["a"] (detectRoot (rootTree.disk ["a"]) ⟨"."⟩).run ["a"] ∧
      ¬ rootTree.IsNearestRoot ["a"] ["a"] := by
  refine ⟨⟨by decide, ?_, ?_⟩, by decide, ?_, ?_⟩
  · rw [Leads]
    decide
  · rintro (⟨habove, -⟩ | ⟨heq, -⟩)
    · exact absurd habove (by decide)
    · cases heq
  · rw [Leads]
    decide
  · rintro (⟨-, hmarked, -⟩ | ⟨-, hnone⟩)
    · exact absurd hmarked (by decide)
    · exact hnone [] (by decide) (by decide)

end FileTree

end SyncScript
