import Mathlib.Data.List.TakeWhile
import SyncScript.Command.Basic
import SyncScript.Proofs.Results

/-!
# Flags on the command line

A command that takes no paths has a flag exactly when the flag stands among its arguments: the flag
cannot be taken for the value of an option, and an argument that is like it is refused.
-/

namespace SyncScript

namespace Given

variable {usage : Usage} {g g' : Given}

lemma settle_flags (h : g.settle usage = .ok g') : g'.flags = g.flags := by
  unfold settle at h
  split at h
  · cases h
    rfl
  · cases h
  · split at h
    · cases h
    · split at h
      · cases h
      · cases h
        rfl

lemma addOption_flags {name : String} {value : Option String}
    (h : g.addOption usage name value = .ok g') : g'.flags = g.flags := by
  rw [addOption, Except.bind_eq_ok] at h
  obtain ⟨settled, hsettled, h⟩ := h
  rw [← settle_flags hsettled]
  split at h
  · exact settle_flags (g := { settled with open? := some ⟨name, value⟩ }) h
  · cases h
    rfl

lemma addFlag_flags {name : String} {value : Option String}
    (h : g.addFlag usage name value = .ok g') : value = none ∧ g'.flags = name :: g.flags := by
  unfold addFlag at h
  cases value with
  | some text => cases h
  | none =>
    rw [if_neg (by simp)] at h
    obtain ⟨settled, hsettled, h⟩ := Except.bind_eq_ok.1 h
    rw [← settle_flags hsettled]
    dsimp only at h
    split at h
    · cases h
    · cases h
      exact ⟨rfl, rfl⟩

lemma addPath_refused (h : usage.takesPaths = false) (path : String) :
    g.addPath usage path = .error .unknownArgument := by
  simp only [addPath, h]
  rfl

lemma addNamed_flags {name : String} {value : Option String}
    (h : g.addNamed usage name value = .ok g') :
    (usage.options.contains name = true ∧ g'.flags = g.flags) ∨
      (value = none ∧ g'.flags = name :: g.flags) := by
  unfold addNamed at h
  split at h
  · rename_i hoption
    exact Or.inl ⟨hoption, addOption_flags h⟩
  · split at h
    · exact Or.inr (addFlag_flags h)
    · cases h

lemma addPlain_flags {argument : String} (hpaths : usage.takesPaths = false)
    (h : g.addPlain usage argument = .ok g') : g'.flags = g.flags := by
  unfold addPlain at h
  split at h
  · cases h
    rfl
  · rw [addPath_refused hpaths] at h
    cases h

end Given

lemma splitAtEquals_of_not_mem {cs : List Char} (h : '=' ∉ cs) :
    splitAtEquals cs = (String.ofList cs, none) := by
  have hwhole : cs.takeWhile (· != '=') = cs := by
    rw [List.takeWhile_eq_self_iff]
    intro c hc
    rw [bne_iff_ne]
    rintro rfl
    exact h hc
  rw [splitAtEquals, hwhole, if_neg (by simpa using h)]

lemma splitAtEquals_eq_none {cs : List Char} {name : String}
    (h : splitAtEquals cs = (name, none)) : cs = name.toList := by
  by_cases hmem : '=' ∈ cs
  · rw [splitAtEquals, if_pos (by simpa using hmem)] at h
    cases h
  · rw [splitAtEquals_of_not_mem hmem] at h
    rw [← (Prod.mk.inj h).1, String.toList_ofList]

lemma eq_dashes_append_iff {argument name : String} {cs : List Char}
    (h : argument.toList = '-' :: '-' :: cs) : argument = "--" ++ name ↔ cs = name.toList := by
  rw [← String.toList_inj, h, String.toList_append]
  simp

namespace Usage

/-- What a command that takes no paths does with its next argument: two hyphens end the arguments,
a flag is added, and anything else leaves the flags as they are. -/
lemma take_cons {usage : Usage} (hpaths : usage.takesPaths = false) {argument : String}
    {rest : List String} {g g' : Given} (h : usage.take g (argument :: rest) = .ok g') :
    (argument = "--" ∧ rest = [] ∧ g'.flags = g.flags) ∨
    (∃ taken name, usage.take taken rest = .ok g' ∧ argument = "--" ++ name ∧
      taken.flags = name :: g.flags) ∨
    (∃ taken, usage.take taken rest = .ok g' ∧ taken.flags = g.flags ∧
      ∀ name : String, '=' ∉ name.toList → argument = "--" ++ name →
        usage.options.contains name = true) := by
  unfold take at h
  split at h
  · rename_i hdashes
    obtain ⟨taken, htaken, h⟩ := Except.bind_eq_ok.1 h
    cases rest with
    | nil =>
      cases htaken
      exact Or.inl ⟨String.toList_inj.1 hdashes, rfl, Given.settle_flags h⟩
    | cons path paths =>
      rw [List.foldlM_cons, Given.addPath_refused hpaths] at htaken
      cases htaken
  · rename_i cs hne hdashes
    cases hsplit : splitAtEquals cs with
    | mk name value =>
      rw [hsplit] at h
      obtain ⟨taken, htaken, htake⟩ := Except.bind_eq_ok.1 h
      rcases Given.addNamed_flags htaken with ⟨hoption, hflags⟩ | ⟨rfl, hflags⟩
      · refine Or.inr (Or.inr ⟨taken, htake, hflags, fun other hequals hother => ?_⟩)
        rw [eq_dashes_append_iff hdashes] at hother
        rw [hother, splitAtEquals_of_not_mem hequals, String.ofList_toList] at hsplit
        rwa [(Prod.mk.inj hsplit).1]
      · exact Or.inr (Or.inl ⟨taken, name, htake,
          (eq_dashes_append_iff hdashes).2 (splitAtEquals_eq_none hsplit), hflags⟩)
  · cases h
  · rename_i hends hdashes hdash
    obtain ⟨taken, htaken, h⟩ := Except.bind_eq_ok.1 h
    refine Or.inr (Or.inr ⟨taken, h, Given.addPlain_flags hpaths htaken, fun name _ hname => ?_⟩)
    exact absurd (by rw [hname]; simp) (hdashes name.toList)

/-- A flag is taken exactly when it stands among the arguments. -/
lemma flag_of_take {usage : Usage} {name : String} (hpaths : usage.takesPaths = false)
    (hoption : usage.options.contains name = false) (hname : name ≠ "")
    (hequals : '=' ∉ name.toList) {arguments : List String} {g g' : Given}
    (h : usage.take g arguments = .ok g') :
    g'.flag name = true ↔ g.flag name = true ∨ "--" ++ name ∈ arguments := by
  induction arguments generalizing g with
  | nil => simp [Given.flag, Given.settle_flags h]
  | cons argument rest ih =>
    rcases take_cons hpaths h with ⟨rfl, rfl, hflags⟩ | ⟨taken, flag, hrest, rfl, hflags⟩ |
      ⟨taken, hrest, hflags, hother⟩
    · have hne : "--" ++ name ≠ "--" := by
        intro heq
        have hlist := congrArg String.toList heq
        rw [String.toList_append] at hlist
        exact hname (by simpa using hlist)
      simp [Given.flag, hflags, hne]
    · have hinj : "--" ++ name = "--" ++ flag ↔ name = flag := by
        simp [← String.toList_inj]
      rw [ih hrest, List.mem_cons, hinj]
      simp only [Given.flag, hflags, List.contains_cons, Bool.or_eq_true, beq_iff_eq]
      rw [or_assoc, or_left_comm]
    · have hne : "--" ++ name ≠ argument := by
        intro heq
        rw [hother name hequals heq.symm] at hoption
        cases hoption
      rw [ih hrest, Given.flag, Given.flag, hflags, List.mem_cons, or_iff_right hne]

end Usage

namespace Command

/-- The choices of a command that needs a plan. -/
def choices? : Command → Option Choices
  | .compile choices _ _ | .validate choices | .preview choices => some choices
  | .version | .lint _ _ => none

lemma dryRun_of_read {options flags arguments : List String} {g : Given}
    (hoption : options.contains "dry-run" = false)
    (h : (Choices.usage options flags).read arguments = .ok g) :
    (Choices.ofGiven g).dryRun = if "--dry-run" ∈ arguments then some true else none := by
  obtain ⟨taken, htaken, h⟩ := Except.bind_eq_ok.1 h
  obtain rfl : taken = g := by cases h; rfl
  have hflag : taken.flag "dry-run" = true ↔
      Given.flag {} "dry-run" = true ∨ "--" ++ "dry-run" ∈ arguments :=
    Usage.flag_of_take rfl (by simpa [Choices.usage] using hoption) (by decide) (by decide) htaken
  rw [Choices.ofGiven]
  simp only [hflag]
  simp [Given.flag]

lemma exists_read {first : String} {rest : List String} {command : Command} {choices : Choices}
    (h : ofName? first rest = some (.ok command)) (hchoices : command.choices? = some choices) :
    first ≠ "--dry-run" ∧ ∃ options flags g, options.contains "dry-run" = false ∧
      (Choices.usage options flags).read rest = .ok g ∧ choices = .ofGiven g := by
  unfold ofName? at h
  split at h
  · obtain ⟨g, -, h⟩ := Except.bind_eq_ok.1 (Option.some.inj h)
    cases h
    cases hchoices
  · obtain ⟨g, hread, h⟩ := Except.bind_eq_ok.1 (Option.some.inj h)
    cases h
    exact ⟨by decide, ["write"], ["strict"], g, by decide, hread, (Option.some.inj hchoices).symm⟩
  · obtain ⟨g, hread, h⟩ := Except.bind_eq_ok.1 (Option.some.inj h)
    cases h
    exact ⟨by decide, [], [], g, rfl, hread, (Option.some.inj hchoices).symm⟩
  · obtain ⟨g, hread, h⟩ := Except.bind_eq_ok.1 (Option.some.inj h)
    cases h
    exact ⟨by decide, [], [], g, rfl, hread, (Option.some.inj hchoices).symm⟩
  · obtain ⟨g, -, h⟩ := Except.bind_eq_ok.1 (Option.some.inj h)
    cases h
    cases hchoices
  · cases h

lemma dryRun_of_arguments {arguments : List String} {command : Command} {choices : Choices}
    (h : ofArguments arguments = .ok command) (hchoices : command.choices? = some choices) :
    choices.dryRun = if "--dry-run" ∈ arguments then some true else none := by
  cases arguments with
  | nil => cases h
  | cons first rest =>
    have hname : ofName? first rest = some (.ok command) := by
      rw [ofArguments] at h
      cases hname : ofName? first rest with
      | none =>
        rw [hname] at h
        cases h
      | some read =>
        rw [hname] at h
        exact congrArg some h
    obtain ⟨hfirst, options, flags, g, hoption, hread, rfl⟩ := exists_read hname hchoices
    have hmem : "--dry-run" ∈ first :: rest ↔ "--dry-run" ∈ rest := by
      rw [List.mem_cons, or_iff_right hfirst.symm]
    rw [dryRun_of_read hoption hread]
    simp only [hmem]

end Command

end SyncScript
