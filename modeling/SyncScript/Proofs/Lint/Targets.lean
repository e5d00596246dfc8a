import Mathlib.Data.List.Induction
import Mathlib.Data.List.Nodup
import SyncScript.Lint.Files

/-!
# The files that arguments name

The files to lint are those that the arguments name, one argument after the other, and a path that
is the same as one before it is left out. So more arguments only add files at the end, and the list
of files names itself when it is given as arguments again.
-/

namespace SyncScript

namespace Path

/-- The paths that are not the same as any before them. -/
def firsts (paths : List Path) : List Path :=
  (paths.zipIdx.filter fun p => ! (paths.take p.2).any p.1.same).map Prod.fst

lemma any_same_iff {p : Path} {paths : List Path} :
    paths.any p.same = true ↔ ∃ q ∈ paths, p.components = q.components := by
  simp [same]

lemma firsts_concat (paths : List Path) (p : Path) :
    firsts (paths ++ [p]) = if paths.any p.same then firsts paths else firsts paths ++ [p] := by
  have hbefore : paths.zipIdx.filter (fun q => ! ((paths ++ [p]).take q.2).any q.1.same) =
      paths.zipIdx.filter (fun q => ! (paths.take q.2).any q.1.same) := by
    refine List.filter_congr fun q hmem => ?_
    have hi : q.2 < paths.length := by simpa using (List.mem_zipIdx hmem).2.1
    rw [List.take_append_of_le_length (Nat.le_of_lt hi)]
  rw [firsts, List.zipIdx_append, List.filter_append, hbefore, List.map_append, firsts]
  by_cases h : paths.any p.same = true <;> simp [h]

lemma mem_of_mem_firsts {p : Path} {paths : List Path} (h : p ∈ firsts paths) : p ∈ paths := by
  obtain ⟨⟨q, i⟩, hmem, rfl⟩ := List.mem_map.1 h
  obtain ⟨-, hi, hq⟩ := List.mem_zipIdx (List.mem_filter.1 hmem).1
  rw [hq]
  exact List.getElem_mem _

/-- Leaving paths out leaves one of each kind. -/
lemma exists_mem_firsts {p : Path} {paths : List Path} (h : p ∈ paths) :
    ∃ q ∈ firsts paths, p.components = q.components := by
  induction paths using List.reverseRecOn generalizing p with
  | nil => cases h
  | append_singleton paths last ih =>
    rw [firsts_concat]
    split
    · rename_i hlast
      rcases List.mem_append.1 h with hp | hp
      · exact ih hp
      · rw [List.mem_singleton.1 hp]
        obtain ⟨q, hq, hsame⟩ := any_same_iff.1 hlast
        obtain ⟨r, hr, hqr⟩ := ih hq
        exact ⟨r, hr, hsame.trans hqr⟩
    · rcases List.mem_append.1 h with hp | hp
      · obtain ⟨q, hq, hsame⟩ := ih hp
        exact ⟨q, List.mem_append_left _ hq, hsame⟩
      · exact ⟨p, List.mem_append_right _ hp, rfl⟩

lemma any_firsts (p : Path) (paths : List Path) :
    (firsts paths).any p.same = paths.any p.same := by
  rw [Bool.eq_iff_iff, any_same_iff, any_same_iff]
  constructor
  · rintro ⟨q, hq, hsame⟩
    exact ⟨q, mem_of_mem_firsts hq, hsame⟩
  · rintro ⟨q, hq, hsame⟩
    obtain ⟨r, hr, hqr⟩ := exists_mem_firsts hq
    exact ⟨r, hr, hsame.trans hqr⟩

lemma foldl_addNew (paths : List Path) : paths.foldl addNew [] = firsts paths := by
  induction paths using List.reverseRecOn with
  | nil => rfl
  | append_singleton paths last ih =>
    rw [List.foldl_concat, ih, firsts_concat, addNew, any_firsts]

lemma pairwise_firsts (paths : List Path) :
    (firsts paths).Pairwise fun p q => p.components ≠ q.components := by
  induction paths using List.reverseRecOn with
  | nil => exact List.Pairwise.nil
  | append_singleton paths last ih =>
    rw [firsts_concat]
    split
    · exact ih
    · rename_i hlast
      rw [any_same_iff] at hlast
      refine List.pairwise_append.2 ⟨ih, List.pairwise_singleton _ _, fun p hp q hq hsame => ?_⟩
      rw [List.mem_singleton.1 hq] at hsame
      exact hlast ⟨p, mem_of_mem_firsts hp, hsame.symm⟩

/-- More paths add those that are not the same as any before, and nothing else. -/
lemma firsts_append (paths more : List Path) :
    firsts (paths ++ more) =
      firsts paths ++ (firsts more).filter fun p => ! (firsts paths).any p.same := by
  induction more using List.reverseRecOn with
  | nil => simp [firsts]
  | append_singleton more last ih =>
    rw [← List.append_assoc, firsts_concat, firsts_concat, List.any_append, ih]
    cases hmore : more.any last.same with
    | true => rw [Bool.or_true, if_pos rfl, if_pos rfl]
    | false =>
      rw [Bool.or_false, if_neg Bool.false_ne_true, List.filter_append, List.filter_singleton,
        any_firsts]
      cases paths.any last.same <;> simp

lemma firsts_eq_self {paths : List Path}
    (h : paths.Pairwise fun p q => p.components ≠ q.components) : firsts paths = paths := by
  induction paths using List.reverseRecOn with
  | nil => rfl
  | append_singleton paths last ih =>
    obtain ⟨hpaths, -, hnew⟩ := List.pairwise_append.1 h
    have hlast : ¬ paths.any last.same = true := by
      rw [any_same_iff]
      rintro ⟨q, hq, hsame⟩
      exact hnew q hq last List.mem_cons_self hsame.symm
    rw [firsts_concat, if_neg hlast, ih hpaths]

end Path

namespace Disk

/-- The paths that an argument names: itself if it leads anywhere, else the paths that match it. -/
inductive Names (disk : Disk Id) (argument : String) : Path → Prop
  | directly (h : (disk.kind? ⟨argument⟩).run ≠ none) : Names disk argument ⟨argument⟩
  | byPattern {p : Path} (h : (disk.kind? ⟨argument⟩).run = none)
    (hp : p ∈ (Glob.paths disk argument).run) : Names disk argument p

/-- The files among the paths that arguments name, one argument after the other and as often as
they are named. -/
def namedFiles (disk : Disk Id) (arguments : List String) : List Path :=
  (arguments.flatMap fun argument => (argumentPaths disk argument).run).filter fun p =>
    (disk.kind? p).run == some .file

variable {disk : Disk Id}

lemma run_argumentPaths (argument : String) :
    (argumentPaths disk argument).run =
      if (disk.kind? ⟨argument⟩).run.isSome then [⟨argument⟩]
      else (Glob.paths disk argument).run := by
  rw [argumentPaths, Id.run_bind]
  exact apply_ite Id.run _ _ _

lemma mem_argumentPaths {argument : String} {p : Path} :
    p ∈ (argumentPaths disk argument).run ↔ disk.Names argument p := by
  rw [run_argumentPaths]
  split
  · rename_i hsome
    rw [List.mem_singleton]
    constructor
    · rintro rfl
      exact .directly (Option.isSome_iff_ne_none.1 hsome)
    · intro hnames
      cases hnames with
      | directly => rfl
      | byPattern hnone =>
        rw [hnone] at hsome
        cases hsome
  · rename_i hnone
    rw [Option.not_isSome_iff_eq_none] at hnone
    constructor
    · exact .byPattern hnone
    · intro hnames
      cases hnames with
      | directly hsome => exact absurd hnone hsome
      | byPattern _ hp => exact hp

lemma mem_namedFiles {arguments : List String} {p : Path} :
    p ∈ disk.namedFiles arguments ↔
      (∃ argument ∈ arguments, disk.Names argument p) ∧ (disk.kind? p).run = some .file := by
  simp only [namedFiles, List.mem_filter, List.mem_flatMap, mem_argumentPaths, beq_iff_eq]

lemma namedFiles_append (a b : List String) :
    disk.namedFiles (a ++ b) = disk.namedFiles a ++ disk.namedFiles b := by
  rw [namedFiles, List.flatMap_append, List.filter_append]
  rfl

/-- Paths of files, given as arguments, name themselves. -/
lemma namedFiles_text {files : List Path} (h : ∀ p ∈ files, (disk.kind? p).run = some .file) :
    disk.namedFiles (files.map Path.text) = files := by
  have hnamed : ∀ p ∈ files, (argumentPaths disk p.text).run = [p] := by
    intro p hp
    rw [run_argumentPaths, h p hp]
    rfl
  rw [namedFiles, List.flatMap_map, List.flatMap_congr hnamed, List.flatMap_singleton',
    List.filter_eq_self]
  intro p hp
  rw [h p hp, beq_self_eq_true]

end Disk

lemma run_filterM {α : Type} (p : α → Id Bool) (xs : List α) :
    (xs.filterM p).run = xs.filter fun x => (p x).run := by
  have haux : ∀ found : List α,
      (xs.filterAuxM p found).run = (xs.filter fun x => (p x).run).reverse ++ found := by
    induction xs with
    | nil =>
      intro found
      rfl
    | cons x xs ih =>
      intro found
      rw [List.filterAuxM, Id.run_bind, ih]
      cases hx : (p x).run <;> simp [hx]
  rw [List.filterM, Id.run_bind, haux, List.append_nil]
  exact List.reverse_reverse _

variable {disk : Disk Id}

lemma run_expandTargets (arguments : List String) :
    (expandTargets disk arguments).run = Path.firsts (disk.namedFiles arguments) := by
  rw [← Path.foldl_addNew, expandTargets, Id.run_bind, Id.run_bind, run_filterM, List.idRun_mapM,
    ← List.flatMap_def]
  rfl

lemma pairwise_expandTargets (disk : Disk Id) (arguments : List String) :
    (expandTargets disk arguments).run.Pairwise fun p q => p.components ≠ q.components := by
  rw [run_expandTargets]
  exact Path.pairwise_firsts _

/-- Whatever the answers of the disk are, the files to lint are regular files, no two of them the
same path, and each file that an argument names is among them as the same path, where it is named
first. More arguments add what they name beyond that at the end, and the files name themselves. -/
theorem expandTargets_laws (disk : Disk Id) (a b : List String) :
    let files := fun arguments => (expandTargets disk arguments).run
    (∀ p ∈ files a, (disk.kind? p).run = some .file ∧ ∃ argument ∈ a, disk.Names argument p) ∧
    (files a).Pairwise (fun p q => p.components ≠ q.components) ∧
    (∀ argument ∈ a, ∀ p, disk.Names argument p → (disk.kind? p).run = some .file →
      ∃ q ∈ files a, p.components = q.components) ∧
    files a = Path.firsts (disk.namedFiles a) ∧
    files (a ++ b) = files a ++ (files b).filter (fun p => ! (files a).any p.same) ∧
    files ((files a).map Path.text) = files a := by
  intro files
  have hfiles : ∀ arguments, files arguments = Path.firsts (disk.namedFiles arguments) :=
    run_expandTargets
  have hmem : ∀ p ∈ files a,
      (disk.kind? p).run = some .file ∧ ∃ argument ∈ a, disk.Names argument p := by
    intro p hp
    rw [hfiles] at hp
    exact (Disk.mem_namedFiles.1 (Path.mem_of_mem_firsts hp)).symm
  have hpairwise : (files a).Pairwise fun p q => p.components ≠ q.components :=
    pairwise_expandTargets disk a
  refine ⟨hmem, hpairwise, ?_, hfiles a, ?_, ?_⟩
  · intro argument hargument p hnames hkind
    rw [hfiles]
    exact Path.exists_mem_firsts (Disk.mem_namedFiles.2 ⟨⟨argument, hargument, hnames⟩, hkind⟩)
  · rw [hfiles, hfiles, hfiles, Disk.namedFiles_append, Path.firsts_append]
  · rw [hfiles, Disk.namedFiles_text fun p hp => (hmem p hp).1, Path.firsts_eq_self hpairwise]

end SyncScript
