import SyncScript.Proofs.Command.LintRuns
import SyncScript.Proofs.Files.Places
import SyncScript.Proofs.Lint.Targets

/-!
# Distinct files

The files to lint are told apart by their paths. Paths that are spelled alike lead to different
files then, but a file is linted again where it is named by a path that begins in another way or
goes up.
-/

namespace SyncScript

namespace FileTree

/-- The places that paths lead to, one for each path that leads anywhere. -/
def places (t : FileTree) (directory : Location) (paths : List Path) : List Location :=
  paths.filterMap fun p => (t.locate directory p).toOption

/-- The text of the file at a place, if it is one that can be read. -/
def textOf? (t : FileTree) (l : Location) : Option String :=
  match t.get? l with
  | some (.file content) => String.fromUTF8? content
  | _ => none

variable {t : FileTree} {directory : Location}

lemma text?_disk (p : Path) :
    (t.disk directory).text? p = (t.locate directory p).toOption.bind t.textOf? := by
  change (t.readTextAt directory p).toOption = _
  rw [readTextAt]
  cases t.locate directory p with
  | error cause => rfl
  | ok l =>
    dsimp only [bind, Except.bind, Except.toOption, Option.bind, textOf?]
    cases t.get? l with
    | none => rfl
    | some entry =>
      cases entry with
      | directory => rfl
      | file content =>
        dsimp only
        cases String.fromUTF8? content <;> rfl

/-- Where every path leads to a place, the places are those, in the order of the paths. -/
lemma map_locate_eq {paths : List Path} (h : ∀ p ∈ paths, ∃ l, t.locate directory p = .ok l) :
    paths.map (t.locate directory) = (t.places directory paths).map .ok := by
  induction paths with
  | nil => rfl
  | cons p paths ih =>
    obtain ⟨⟨l, hl⟩, hpaths⟩ := List.forall_mem_cons.1 h
    have hplaces : t.places directory (p :: paths) = l :: t.places directory paths := by
      rw [places, List.filterMap_cons, hl]
      rfl
    rw [hplaces, List.map_cons, List.map_cons, hl, ih hpaths]

lemma mem_places {paths : List Path} {l : Location} :
    l ∈ t.places directory paths ↔ ∃ p ∈ paths, t.locate directory p = .ok l := by
  simp only [places, List.mem_filterMap, Except.toOption_eq_some]

lemma nodup_places {paths : List Path}
    (h : paths.Pairwise fun p q => t.locate directory p ≠ t.locate directory q) :
    (t.places directory paths).Nodup := by
  rw [List.nodup_iff_pairwise_ne, places, List.pairwise_filterMap]
  refine h.imp fun {p q} hne l hl m hm hlm => ?_
  rw [Except.toOption_eq_some] at hl hm
  rw [hl, hm, hlm] at hne
  exact hne rfl

lemma filterMap_text?_disk (paths : List Path) :
    paths.filterMap (t.disk directory).text? = (t.places directory paths).filterMap t.textOf? := by
  rw [places, List.filterMap_filterMap]
  exact congrArg (List.filterMap · paths) (funext text?_disk)

end FileTree

/-- The totals of a run are those of the texts in the files that it is to look at. -/
lemma lint_showsTotals {t : FileTree} {directory : Location} {arguments : List String}
    (hne : (expandTargets (t.disk directory) arguments).run ≠ []) {texts : List String}
    (htexts : (t.places directory (expandTargets (t.disk directory) arguments).run).filterMap
      t.textOf? = texts) (output : Option String) (color : Bool) :
    ∃ outcome,
      (Command.run (t.disk directory) color (.lint arguments output)).run = .finished outcome ∧
      outcome.printed.ShowsTotals (.ofName (output.getD "human")) color
        ((texts.flatMap lint).countP (·.severity == .error))
        ((texts.flatMap lint).countP (·.severity == .warning)) texts.length := by
  obtain ⟨hfindings, hlength⟩ :=
    @reports_texts (t.disk directory) (expandTargets (t.disk directory) arguments).run
  rw [FileTree.filterMap_text?_disk, htexts] at hfindings hlength
  have htotals := Report.linted_showsTotals
    (lintFiles (t.disk directory) (expandTargets (t.disk directory) arguments).run).run.1
    (lintFiles (t.disk directory) (expandTargets (t.disk directory) arguments).run).run.2
    (.ofName (output.getD "human")) color
  rw [hfindings, hlength] at htotals
  refine ⟨lintOutcome _ _ _ _, ?_, htotals⟩
  rw [Command.run, run_lintEnding, if_neg hne]

section Targets

variable {t : FileTree} {directory : Location} {arguments : List String}

lemma exists_locate_of_mem_expandTargets {p : Path}
    (hp : p ∈ (expandTargets (t.disk directory) arguments).run) :
    ∃ l, t.locate directory p = .ok l ∧ t.kindOf? l = some .file := by
  rw [run_expandTargets] at hp
  have hkind := (Disk.mem_namedFiles.1 (Path.mem_of_mem_firsts hp)).2
  exact FileTree.kindAt?_eq_some_iff.1 hkind

/-- The files to lint are at the places of the files that the arguments name. -/
lemma mem_places_expandTargets {l : Location} :
    l ∈ t.places directory (expandTargets (t.disk directory) arguments).run ↔
      t.kindOf? l = some .file ∧ ∃ argument ∈ arguments, ∃ p,
        (t.disk directory).Names argument p ∧ t.locate directory p = .ok l := by
  rw [FileTree.mem_places]
  constructor
  · rintro ⟨p, hp, hl⟩
    obtain ⟨m, hm, hkind⟩ := exists_locate_of_mem_expandTargets hp
    rw [hl] at hm
    cases hm
    rw [run_expandTargets] at hp
    obtain ⟨argument, hargument, hnames⟩ :=
      (Disk.mem_namedFiles.1 (Path.mem_of_mem_firsts hp)).1
    exact ⟨hkind, argument, hargument, p, hnames, hl⟩
  · rintro ⟨hkind, argument, hargument, p, hnames, hl⟩
    have hnamed : p ∈ (t.disk directory).namedFiles arguments := Disk.mem_namedFiles.2
      ⟨⟨argument, hargument, hnames⟩, FileTree.kindAt?_eq_some_iff.2 ⟨l, hl, hkind⟩⟩
    obtain ⟨q, hq, hsame⟩ := Path.exists_mem_firsts hnamed
    rw [← run_expandTargets] at hq
    obtain ⟨m, hm, -⟩ := exists_locate_of_mem_expandTargets hq
    -- the path that is kept in place of `p` leads where `p` does
    have hlm : l = m := by
      rw [FileTree.eq_place_of_locate hl, FileTree.eq_place_of_locate hm,
        Path.place_eq_of_components hsame]
    exact ⟨q, hq, hlm ▸ hm⟩

lemma pairwise_not_spelledAlike :
    (expandTargets (t.disk directory) arguments).run.Pairwise fun p q =>
      t.locate directory p = t.locate directory q → ¬ p.SpelledAlike q := by
  refine (pairwise_expandTargets _ _).imp_of_mem fun {p q} hp _ hne hplace halike => hne ?_
  obtain ⟨l, hl, -⟩ := exists_locate_of_mem_expandTargets hp
  have hsame : p.place directory p.steps.length = q.place directory q.steps.length := by
    rw [← FileTree.eq_place_of_locate hl, ← FileTree.eq_place_of_locate (hplace ▸ hl)]
  exact halike.components_eq_of_place hsame

end Targets

/-- The files to lint are all files that the arguments name, and two of them are the same file only
if their paths begin differently or one of them goes up. The totals of a run count the findings in
each entry that can be read once, so where all paths are spelled alike, they count each file
once. -/
theorem lint_distinct_files (t : FileTree) (directory : Location) (arguments : List String)
    (output : Option String) (color : Bool) :
    let disk := t.disk directory
    let files := (expandTargets disk arguments).run
    let places := t.places directory files
    let texts := places.filterMap t.textOf?
    files.map (t.locate directory) = places.map .ok ∧
    (∀ l, l ∈ places ↔ t.kindOf? l = some .file ∧
      ∃ argument ∈ arguments, ∃ p, disk.Names argument p ∧ t.locate directory p = .ok l) ∧
    files.Pairwise (fun p q => p.components ≠ q.components) ∧
    files.Pairwise (fun p q => t.locate directory p = t.locate directory q →
      ¬ p.SpelledAlike q) ∧
    (files.Pairwise Path.SpelledAlike → places.Nodup) ∧
    (files ≠ [] → ∃ outcome,
      (Command.run disk color (.lint arguments output)).run = .finished outcome ∧
      outcome.printed.ShowsTotals (.ofName (output.getD "human")) color
        ((texts.flatMap lint).countP (·.severity == .error))
        ((texts.flatMap lint).countP (·.severity == .warning)) texts.length) := by
  intro disk files places texts
  have hspelled : files.Pairwise fun p q => t.locate directory p = t.locate directory q →
      ¬ p.SpelledAlike q := pairwise_not_spelledAlike
  refine ⟨?_, fun l => mem_places_expandTargets, pairwise_expandTargets disk arguments, hspelled,
    ?_, ?_⟩
  · apply FileTree.map_locate_eq
    intro p hp
    obtain ⟨l, hl, -⟩ := exists_locate_of_mem_expandTargets hp
    exact ⟨l, hl⟩
  · intro halike
    apply FileTree.nodup_places
    exact (hspelled.and halike).imp fun h hplace => h.1 hplace h.2
  · intro hne
    exact lint_showsTotals hne rfl output color

/-- A tree with a script that has an error and a file that is no text. -/
def scriptsTree : FileTree where
  entries := [(["one.sh"], .file "FOO = 1\n".toUTF8), (["two.sh"], .file ⟨#[255]⟩)]

lemma textOf?_scriptsTree :
    scriptsTree.textOf? ["one.sh"] = some "FOO = 1\n" ∧ scriptsTree.textOf? ["two.sh"] = none := by
  constructor
  · exact FileTree.fromUTF8?_toUTF8 _
  · decide +kernel

/-- The script counts twice where it is named with a leading dot and without, and the file that is
no text does not count. -/
theorem scriptsTree_totals :
    let disk := scriptsTree.disk []
    let places := fun arguments => scriptsTree.places [] (expandTargets disk arguments).run
    (lint "FOO = 1\n").countP (·.severity == .error) = 1 ∧
    places ["./one.sh", "one.sh"] = [["one.sh"], ["one.sh"]] ∧
    (∃ outcome, (Command.run disk false (.lint ["./one.sh", "one.sh"] none)).run =
        .finished outcome ∧ outcome.printed.ShowsTotals .human false 2 0 2) ∧
    places ["one.sh", "two.sh"] = [["one.sh"], ["two.sh"]] ∧
    ∃ outcome, (Command.run disk false (.lint ["one.sh", "two.sh"] none)).run =
        .finished outcome ∧ outcome.printed.ShowsTotals .human false 1 0 1 := by
  intro disk places
  have hlint : lint "FOO = 1\n" = [LintRule.assignmentSpacing.finding 1] := by decide
  have htwice : places ["./one.sh", "one.sh"] = [["one.sh"], ["one.sh"]] := by decide
  have hboth : places ["one.sh", "two.sh"] = [["one.sh"], ["two.sh"]] := by decide
  obtain ⟨hone, htwo⟩ := textOf?_scriptsTree
  refine ⟨by rw [hlint]; rfl, htwice, ?_, hboth, ?_⟩
  · have htexts : (places ["./one.sh", "one.sh"]).filterMap scriptsTree.textOf? =
        ["FOO = 1\n", "FOO = 1\n"] := by
      simp [htwice, hone]
    have htotals := lint_showsTotals (by decide) htexts none false
    simpa [hlint, LintRule.finding, LintRule.severity, OutputForm.ofName] using htotals
  · have htexts : (places ["one.sh", "two.sh"]).filterMap scriptsTree.textOf? = ["FOO = 1\n"] := by
      simp [hboth, hone, htwo]
    have htotals := lint_showsTotals (by decide) htexts none false
    simpa [hlint, LintRule.finding, LintRule.severity, OutputForm.ofName] using htotals

end SyncScript
