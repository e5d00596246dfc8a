import SyncScript.Proofs.Command.Flags

/-!
# Options that commands share

Commands that need a plan take the same options. Arguments that name no option of a single command
mean the same to all of them: they are refused for the same reason, or they make the same choices.
-/

namespace SyncScript

/-- Whether an argument gives an option or a flag, with a value after it or without one. -/
def Gives (name argument : String) : Prop :=
  argument = "--" ++ name ∨ Text.beginsWith argument ("--" ++ name ++ "=") = true

lemma exists_takeWhile_equals {cs : List Char} (h : '=' ∈ cs) :
    ∃ value, cs = cs.takeWhile (· != '=') ++ '=' :: value := by
  induction cs with
  | nil => cases h
  | cons c cs ih =>
    by_cases hc : c = '='
    · subst hc
      exact ⟨cs, rfl⟩
    · obtain ⟨value, hvalue⟩ := ih ((List.mem_cons.1 h).resolve_left (Ne.symm hc))
      refine ⟨value, ?_⟩
      rw [List.takeWhile_cons_of_pos (by simpa using hc), List.cons_append, ← hvalue]

lemma gives_of_splitAtEquals {argument : String} {cs : List Char}
    (h : argument.toList = '-' :: '-' :: cs) : Gives (splitAtEquals cs).1 argument := by
  by_cases hmem : '=' ∈ cs
  · obtain ⟨value, hvalue⟩ := exists_takeWhile_equals hmem
    refine Or.inr (List.isPrefixOf_iff_prefix.2 ⟨value, ?_⟩)
    have hname : (splitAtEquals cs).1.toList = cs.takeWhile (· != '=') := String.toList_ofList
    rw [String.toList_append, String.toList_append, hname, h, List.append_assoc, List.append_assoc]
    exact congrArg (['-', '-'] ++ ·) hvalue.symm
  · left
    rw [splitAtEquals_of_not_mem hmem]
    exact (eq_dashes_append_iff h).2 String.toList_ofList.symm

namespace Given

/-- Arguments that were taken as a usage allows. -/
structure Fits (usage : Usage) (g : Given) : Prop where
  values : ∀ v ∈ g.values, v.1 ∈ usage.options
  flags : ∀ f ∈ g.flags, f ∈ usage.flags
  opened : ∀ o ∈ g.open?, o.name ∈ usage.options

variable {usage : Usage} {g g' : Given}

lemma fits_empty : Fits usage {} :=
  ⟨nofun, nofun, nofun⟩

lemma settle_fits (hg : g.Fits usage) (h : g.settle usage = .ok g') : g'.Fits usage := by
  unfold settle at h
  split at h
  · cases h
    exact hg
  · cases h
  · rename_i name value hopen
    split at h
    · cases h
    · split at h
      · cases h
      · cases h
        refine ⟨?_, hg.flags, nofun⟩
        exact List.forall_mem_append.2 ⟨hg.values, by simpa using hg.opened _ hopen⟩

lemma addOption_fits {name : String} {value : Option String} (hname : name ∈ usage.options)
    (hg : g.Fits usage) (h : g.addOption usage name value = .ok g') : g'.Fits usage := by
  obtain ⟨settled, hsettled, h⟩ := Except.bind_eq_ok.1 h
  have hfits : Fits usage { settled with open? := some ⟨name, value⟩ } := by
    obtain ⟨hvalues, hflags, -⟩ := settle_fits hg hsettled
    exact ⟨hvalues, hflags, by simpa using hname⟩
  split at h
  · exact settle_fits hfits h
  · cases h
    exact hfits

lemma addFlag_fits {name : String} {value : Option String} (hname : name ∈ usage.flags)
    (hg : g.Fits usage) (h : g.addFlag usage name value = .ok g') : g'.Fits usage := by
  unfold addFlag at h
  cases value with
  | some text => cases h
  | none =>
    rw [if_neg (by simp)] at h
    obtain ⟨settled, hsettled, h⟩ := Except.bind_eq_ok.1 h
    obtain ⟨hvalues, hflags, hopened⟩ := settle_fits hg hsettled
    dsimp only at h
    split at h
    · cases h
    · cases h
      exact ⟨hvalues, List.forall_mem_cons.2 ⟨hname, hflags⟩, hopened⟩

lemma addNamed_fits {name : String} {value : Option String} (hg : g.Fits usage)
    (h : g.addNamed usage name value = .ok g') : g'.Fits usage := by
  unfold addNamed at h
  split at h
  · rename_i hname
    exact addOption_fits (List.contains_iff_mem.1 hname) hg h
  · split at h
    · rename_i hname
      exact addFlag_fits (List.contains_iff_mem.1 hname) hg h
    · cases h

lemma addPlain_fits {argument : String} (hpaths : usage.takesPaths = false) (hg : g.Fits usage)
    (h : g.addPlain usage argument = .ok g') : g'.Fits usage := by
  unfold addPlain at h
  split at h
  · rename_i name hopen
    cases h
    exact ⟨hg.values, hg.flags, by simpa using hg.opened _ hopen⟩
  · rw [addPath_refused hpaths] at h
    cases h

lemma value?_eq_none {name : String} (hg : g.Fits usage) (hname : name ∉ usage.options) :
    g.value? name = none := by
  rw [value?, List.lookup_eq_none_iff]
  intro v hv
  rw [bne_iff_ne]
  rintro rfl
  exact hname (hg.values v hv)

lemma flag_eq_false {name : String} (hg : g.Fits usage) (hname : name ∉ usage.flags) :
    g.flag name = false := by
  rw [flag, ← Bool.not_eq_true, List.contains_iff_mem]
  exact fun h => hname (hg.flags name h)

/-- No argument of a command asks for the version. -/
lemma settle_ne_versionAsked : g.settle usage ≠ .error .versionAsked := by
  unfold settle
  split
  · simp
  · simp
  · split
    · simp
    · split <;> simp

lemma addNamed_ne_versionAsked (name : String) (value : Option String) :
    g.addNamed usage name value ≠ .error .versionAsked := by
  have hoption : g.addOption usage name value ≠ .error .versionAsked := by
    refine Except.bind_ne_error settle_ne_versionAsked fun settled => ?_
    split
    · exact settle_ne_versionAsked
    · exact nofun
  have hflag : g.addFlag usage name value ≠ .error .versionAsked := by
    unfold addFlag
    cases value with
    | some text => exact nofun
    | none =>
      rw [if_neg (by simp)]
      refine Except.bind_ne_error settle_ne_versionAsked fun settled => ?_
      dsimp only
      split <;> exact nofun
  unfold addNamed
  split
  · exact hoption
  · split
    · exact hflag
    · exact nofun

lemma addPlain_ne_versionAsked (hpaths : usage.takesPaths = false) (argument : String) :
    g.addPlain usage argument ≠ .error .versionAsked := by
  unfold addPlain
  split
  · exact nofun
  · rw [addPath_refused hpaths]
    exact nofun

end Given

namespace Usage

variable {usage : Usage} {g g' : Given}

lemma take_fits (hpaths : usage.takesPaths = false) {arguments : List String} (hg : g.Fits usage)
    (h : usage.take g arguments = .ok g') : g'.Fits usage := by
  induction arguments generalizing g with
  | nil => exact Given.settle_fits hg h
  | cons argument rest ih =>
    rw [take] at h
    split at h
    · obtain ⟨taken, htaken, h⟩ := Except.bind_eq_ok.1 h
      cases rest with
      | nil =>
        cases htaken
        exact Given.settle_fits hg h
      | cons path paths =>
        rw [List.foldlM_cons, Given.addPath_refused hpaths] at htaken
        cases htaken
    · obtain ⟨taken, htaken, h⟩ := Except.bind_eq_ok.1 h
      exact ih (Given.addNamed_fits hg htaken) h
    · cases h
    · obtain ⟨taken, htaken, h⟩ := Except.bind_eq_ok.1 h
      exact ih (Given.addPlain_fits hpaths hg htaken) h

lemma take_ne_versionAsked (hpaths : usage.takesPaths = false) (g : Given)
    (arguments : List String) : usage.take g arguments ≠ .error .versionAsked := by
  induction arguments generalizing g with
  | nil => exact Given.settle_ne_versionAsked
  | cons argument rest ih =>
    rw [take]
    split
    · cases rest with
      | nil => exact Given.settle_ne_versionAsked
      | cons path paths =>
        rw [List.foldlM_cons, Given.addPath_refused hpaths]
        intro h
        cases h
    · exact Except.bind_ne_error (Given.addNamed_ne_versionAsked _ _) ih
    · intro h
      cases h
    · exact Except.bind_ne_error (Given.addPlain_ne_versionAsked hpaths argument) ih

section SameOptions

variable {usage' : Usage}

lemma settle_congr (h : usage.admits = usage'.admits) (g : Given) :
    g.settle usage = g.settle usage' := by
  unfold Given.settle
  rw [h]

lemma addNamed_congr (h : usage.admits = usage'.admits) {name : String}
    (hoption : usage.options.contains name = usage'.options.contains name)
    (hflag : usage.flags.contains name = usage'.flags.contains name) (g : Given)
    (value : Option String) : g.addNamed usage name value = g.addNamed usage' name value := by
  unfold Given.addNamed Given.addOption Given.addFlag
  simp only [hoption, hflag, settle_congr h]

lemma addPlain_congr (hpaths : usage.takesPaths = false) (hpaths' : usage'.takesPaths = false)
    (g : Given) (argument : String) : g.addPlain usage argument = g.addPlain usage' argument := by
  unfold Given.addPlain
  split
  · rfl
  · rw [Given.addPath_refused hpaths, Given.addPath_refused hpaths']

/-- Commands that differ only in names that are not given take the arguments alike. -/
lemma take_congr (h : usage.admits = usage'.admits) (hpaths : usage.takesPaths = false)
    (hpaths' : usage'.takesPaths = false) {arguments : List String}
    (hnames : ∀ argument ∈ arguments, ∀ name, Gives name argument →
      usage.options.contains name = usage'.options.contains name ∧
        usage.flags.contains name = usage'.flags.contains name) (g : Given) :
    usage.take g arguments = usage'.take g arguments := by
  induction arguments generalizing g with
  | nil => exact settle_congr h g
  | cons argument rest ih =>
    obtain ⟨hargument, hrest⟩ := List.forall_mem_cons.1 hnames
    rw [take, take]
    split
    -- after `--` comes a path or nothing, and a path is refused under both usages
    · cases rest with
      | nil => exact settle_congr h g
      | cons path paths =>
        rw [List.foldlM_cons, List.foldlM_cons, Given.addPath_refused hpaths,
          Given.addPath_refused hpaths']
        rfl
    · rename_i hdashes
      obtain ⟨hoption, hflag⟩ := hargument _ (gives_of_splitAtEquals hdashes)
      dsimp only
      rw [addNamed_congr h hoption hflag]
      exact bind_congr (ih hrest)
    · rfl
    · rw [addPlain_congr hpaths hpaths']
      exact bind_congr (ih hrest)

end SameOptions

end Usage

namespace Choices

lemma read_eq_take (options flags arguments : List String) :
    (usage options flags).read arguments = (usage options flags).take {} arguments := by
  rw [Usage.read]
  cases (usage options flags).take {} arguments <;> rfl

/-- Arguments that name neither an option nor a flag of a command are read as without them. -/
lemma read_congr {options flags arguments : List String}
    (hoptions : ∀ name ∈ options, ∀ argument ∈ arguments, ¬ Gives name argument)
    (hflags : ∀ name ∈ flags, ∀ argument ∈ arguments, ¬ Gives name argument) :
    (usage options flags).read arguments = (usage [] []).read arguments := by
  rw [read_eq_take, read_eq_take]
  have hadmits : (usage options flags).admits = (usage [] []).admits := rfl
  refine Usage.take_congr hadmits rfl rfl (fun argument hargument name hname => ⟨?_, ?_⟩) {}
  · have hnew : name ∉ options := fun hmem => hoptions name hmem argument hargument hname
    simp [usage, hnew]
  · have hnew : name ∉ flags := fun hmem => hflags name hmem argument hargument hname
    simp [usage, hnew]

end Choices

namespace Command

/-- Without `--write` and `--strict`, the commands that need a plan are all refused for the same
reason or all make the same choices. -/
lemma ofArguments_planCommands {arguments : List String}
    (hwrite : ∀ argument ∈ arguments, ¬ Gives "write" argument)
    (hstrict : ∀ argument ∈ arguments, ¬ Gives "strict" argument) :
    (∃ r, r.exitCode = 2 ∧ ofArguments ("validate" :: arguments) = .error r ∧
      ofArguments ("preview" :: arguments) = .error r ∧
      ofArguments ("compile" :: arguments) = .error r) ∨
    ∃ c, ofArguments ("validate" :: arguments) = .ok (.validate c) ∧
      ofArguments ("preview" :: arguments) = .ok (.preview c) ∧
      ofArguments ("compile" :: arguments) = .ok (.compile c none false) := by
  have hread : (Choices.usage ["write"] ["strict"]).read arguments =
      (Choices.usage [] []).read arguments :=
    Choices.read_congr (by simpa using hwrite) (by simpa using hstrict)
  have hcompile : ofArguments ("compile" :: arguments) =
      (Choices.usage ["write"] ["strict"]).read arguments >>= fun g =>
        return .compile (.ofGiven g) (g.value? "write") (g.flag "strict") := rfl
  have hvalidate : ofArguments ("validate" :: arguments) =
      (Choices.usage [] []).read arguments >>= fun g => return .validate (.ofGiven g) := rfl
  have hpreview : ofArguments ("preview" :: arguments) =
      (Choices.usage [] []).read arguments >>= fun g => return .preview (.ofGiven g) := rfl
  rw [hcompile, hvalidate, hpreview, hread, Choices.read_eq_take]
  cases htake : (Choices.usage [] []).take {} arguments with
  | error r =>
    have hr : r ≠ .versionAsked := by
      rintro rfl
      exact Usage.take_ne_versionAsked rfl {} arguments htake
    exact Or.inl ⟨r, if_neg hr, rfl, rfl, rfl⟩
  | ok g =>
    have hfits := Usage.take_fits rfl Given.fits_empty htake
    have hnowrite : g.value? "write" = none := Given.value?_eq_none hfits (by decide)
    have hnostrict : g.flag "strict" = false := Given.flag_eq_false hfits (by decide)
    refine Or.inr ⟨.ofGiven g, rfl, rfl, ?_⟩
    change Except.ok (compile (.ofGiven g) (g.value? "write") (g.flag "strict")) = _
    rw [hnowrite, hnostrict]

end Command

end SyncScript
