import SyncScript.Proofs.Script.TextLines

/-!
# The requirements in a compiled script

The package names of a plan stand in a here-document for the requirements file. No name can end it
early or open another one, so the shell writes exactly the list of the plan and installs from it.
-/

namespace SyncScript

/-- The text cut at its line ends. -/
def Script.textLines (s : Script) : List String :=
  (Text.splitAtEach '\n' s.text.toList).map String.ofList

lemma Plan.textLines_script {p : Plan} (h : p.faults = []) :
    ∃ after, p.script.textLines = p.fixedLines ++ after := by
  refine ⟨(Text.splitAtEach '\n' (p.syncCommand.toList ++ ['\n'])).map String.ofList, ?_⟩
  rw [Script.textLines, splitAtEach_text h, List.map_append, List.map_map]
  simp only [Function.comp_def, String.ofList_toList, List.map_id']

/-- Between lines that lack a property there is one place for a line that has it. -/
lemma eq_length_of_getElem? {α : Type} {P : α → Prop} {before after : List α} {x y : α} {j : Nat}
    (h : ∀ l ∈ before ++ after, ¬ P l) (hj : (before ++ x :: after)[j]? = some y) (hy : P y) :
    j = before.length := by
  rcases Nat.lt_trichotomy j before.length with hlt | heq | hgt
  · rw [List.getElem?_append_left hlt] at hj
    exact absurd hy (h y (List.mem_append_left _ (List.mem_of_getElem? hj)))
  · exact heq
  · rw [List.getElem?_append_right (by omega)] at hj
    obtain ⟨k, hk⟩ : ∃ k, j - before.length = k + 1 := ⟨j - before.length - 1, by omega⟩
    rw [hk, List.getElem?_cons_succ] at hj
    exact absurd hy (h y (List.mem_append_right _ (List.mem_of_getElem? hj)))

lemma writesFile_openingLine (close : String) :
    writesFile (Shell.openingLine "requirements.txt" close).toList = true := by
  rw [Shell.toList_openingLine, String.toList_ofList]
  rfl

namespace Plan

/-- Where the here-document stands among the fixed lines, and that nothing else there looks like
its first line. -/
lemma fixedLines_packages {p : Plan} (h : p.faults = [])
    (hon : p.system.installDependencies = true) (hne : p.system.pythonPackages.names ≠ []) :
    ∃ before, p.fixedLines = before ++
        Shell.openingLine "requirements.txt" (Shell.delimiter p.system.pythonPackages.names) ::
          (p.system.pythonPackages.names ++ [Shell.delimiter p.system.pythonPackages.names,
            "pip3 install -r requirements.txt", ""]) ∧
      ∀ l ∈ before ++ (p.system.pythonPackages.names ++
          [Shell.delimiter p.system.pythonPackages.names, "pip3 install -r requirements.txt", ""]),
        ¬ writesFile l.toList = true := by
  refine ⟨p.setupLines ++ ["# --- Python dependencies ---"], ?_, ?_⟩
  · rw [fixedLines, requirementLines_packages hon hne]
    simp
  · intro l hl
    rw [Bool.not_eq_true]
    simp only [List.mem_append, List.mem_cons, List.not_mem_nil, or_false] at hl
    rcases hl with (hsetup | rfl) | hname | rfl | rfl | rfl
    · exact writesFile_of_isInert (p.isInert_setupLines l hsetup)
    · exact writesFile_of_isInert (isInert_requirements _ (by simp))
    · exact writesFile_eq_false (not_mem_name h hname (by decide))
    · exact writesFile_of_isInert (isInert_delimiter _)
    · exact writesFile_of_isInert (isInert_requirements _ (by simp))
    · decide

end Plan

/-- In the script of every plan, packages stand in the only here-document ahead of the sync
command: the shell reads back exactly their names, in the order of the plan, and goes on with the
installation. Without packages there is no here-document, and dependencies that are off leave a
comment on a single line. -/
theorem compile_hereDoc {p : Plan} {s : Script} (h : compile p = .ok s) :
    (p.system.installDependencies = true → p.system.pythonPackages.names ≠ [] →
      ∃ i close,
        i < s.linesBefore .sync ∧
        s.textLines[i]? = some (Shell.openingLine "requirements.txt" close) ∧
        (∀ j d, j < s.linesBefore .sync →
          s.textLines[j]? = some (Shell.openingLine "requirements.txt" d) → j = i) ∧
        ∃ after, Shell.readHereDoc close (s.textLines.drop (i + 1)) =
          some (p.system.pythonPackages.names, "pip3 install -r requirements.txt" :: after)) ∧
    (p.system.installDependencies = true → p.system.pythonPackages.names = [] →
      ∃ dependencies, s.section? .dependencies = some dependencies ∧
        Text.occursIn "<<".toList dependencies.body.toList = false) ∧
    (p.system.installDependencies = false →
      ∃ dependencies, s.section? .dependencies = some dependencies ∧
        Text.beginsWith dependencies.body "#" = true ∧ '\n' ∉ dependencies.body.toList) := by
  obtain ⟨hfaults, rfl⟩ := (compile_eq_ok_iff p s).1 h
  have hbody : p.requirementSection.body = unlines p.requirementLines := Plan.toggled_body _ _ _ _
  refine ⟨fun hon hne => ?_, fun hon he => ?_, fun hoff => ?_⟩
  · obtain ⟨before, hfixed, hothers⟩ := Plan.fixedLines_packages hfaults hon hne
    obtain ⟨after, htext⟩ := Plan.textLines_script hfaults
    have hlength := congrArg List.length hfixed
    rw [List.length_append, List.length_cons] at hlength
    refine ⟨before.length, Shell.delimiter p.system.pythonPackages.names, ?_, ?_, ?_, ?_⟩
    · rw [Plan.linesBefore_sync hfaults]
      omega
    · rw [htext, hfixed, List.append_assoc, List.getElem?_append_right (Nat.le_refl _),
        Nat.sub_self]
      rfl
    · intro j d hj hopen
      rw [Plan.linesBefore_sync hfaults] at hj
      rw [htext, List.getElem?_append_left hj, hfixed] at hopen
      exact eq_length_of_getElem? (P := fun l => writesFile l.toList = true) hothers hopen
        (writesFile_openingLine d)
    · refine ⟨"" :: after, ?_⟩
      rw [htext, hfixed, List.append_assoc, List.drop_length_add_append]
      simp only [List.cons_append, List.drop_succ_cons, List.drop_zero, List.append_assoc,
        List.nil_append]
      exact Shell.readHereDoc_append (Shell.delimiter_not_mem _) _
  · refine ⟨_, p.section?_dependencies, ?_⟩
    rw [hbody, Plan.requirementLines_empty hon he, ← Bool.not_eq_true]
    refine fun ho => absurd (Text.mem_of_occursIn ho (c := '<') (by decide)) ?_
    simp only [unlines, String.toList_intercalate, List.map_cons, List.map_nil]
    repeat rw [String.toList_ofList]
    decide
  · refine ⟨_, p.section?_dependencies, ?_⟩
    rw [hbody, Plan.requirementLines_off hoff, unlines, String.intercalate_singleton]
    refine ⟨?_, (single_of_isInert (isInert_skipped _ (by simp))).1⟩
    rw [Text.beginsWith, Plan.dependenciesSkipped, String.toList_ofList, String.toList_ofList]
    rfl

/-- A plan between two local directories that installs packages. -/
def localPlan (packages : List String) : Plan where
  source := { path := "/tmp/a" }
  target := { path := "/tmp/b" }
  system := { installDependencies := true, pythonPackages := .ofList packages }
  sync := { executable := "sync" }

lemma compile_localPlan (packages : List String)
    (h : (PackageList.ofList packages).faults = []) :
    compile (localPlan packages) = .ok (localPlan packages).script := by
  have hends : (localPlan []).faults = [] := by decide
  refine (compile_eq_ok_iff _ _).2 ⟨?_, rfl⟩
  simp only [Plan.faults, List.append_eq_nil_iff, List.map_eq_nil_iff] at hends ⊢
  exact ⟨hends.1, h⟩

/-- Names that look like delimiters are packages like any other. -/
theorem compile_hereDoc_delimiter_names :
    compile (localPlan ["EOF", "requests", "EOF_1"]) =
      .ok (localPlan ["EOF", "requests", "EOF_1"]).script ∧
    ∃ i close after,
      Shell.readHereDoc close ((localPlan ["EOF", "requests", "EOF_1"]).script.textLines.drop i) =
        some (["EOF", "requests", "EOF_1"], "pip3 install -r requirements.txt" :: after) := by
  have hok := compile_localPlan ["EOF", "requests", "EOF_1"] (by decide)
  have hnames : (localPlan ["EOF", "requests", "EOF_1"]).system.pythonPackages.names =
      ["EOF", "requests", "EOF_1"] := by
    decide
  obtain ⟨i, close, -, -, -, after, hread⟩ := (compile_hereDoc hok).1 rfl (by simp [hnames])
  rw [hnames] at hread
  exact ⟨hok, i + 1, close, after, hread⟩

end SyncScript
