import Mathlib.Data.List.Induction
import SyncScript.Files.Tree
import SyncScript.Proofs.Files.Parents

/-!
# Walks through a file tree

A walk along a path passes one location for each step of the path, and has to find a directory at
each of them to go on. So a walk that arrives also shows where the parents of the path lead: to the
locations that were passed on the way.
-/

namespace SyncScript

namespace Location

/-- Where a step of a path leads. -/
def next (l : Location) (step : List Char) : Location :=
  if step = ['.', '.'] then l.dropLast else l ++ [String.ofList step]

lemma foldl_next_of_no_parent {steps : List (List Char)} (h : ∀ step ∈ steps, step ≠ ['.', '.'])
    (l : Location) : steps.foldl next l = l ++ steps.map String.ofList := by
  induction steps generalizing l with
  | nil => simp
  | cons step steps ih =>
    have hstep : step ≠ ['.', '.'] := h step List.mem_cons_self
    rw [List.foldl_cons, next, if_neg hstep, ih fun s hs => h s (List.mem_cons_of_mem _ hs)]
    simp

/-- Steps lead down by one name at a time, so every location above the last one is passed, if it
is not above the first one already. -/
lemma exists_of_prefix_foldl_next {l m : Location} {steps : List (List Char)}
    (h : m <+: steps.foldl next l) :
    m <+: l ∨ ∃ n ≤ steps.length, (steps.take n).foldl next l = m := by
  induction steps using List.reverseRecOn generalizing m with
  | nil => exact Or.inl h
  | append_singleton steps step ih =>
    have hearlier : m <+: steps.foldl next l →
        m <+: l ∨ ∃ n ≤ (steps ++ [step]).length, ((steps ++ [step]).take n).foldl next l = m := by
      intro hm
      refine (ih hm).imp_right fun ⟨n, hn, hplace⟩ => ⟨n, ?_, ?_⟩
      · rw [List.length_append]
        omega
      · rw [List.take_append_of_le_length hn, hplace]
    rw [List.foldl_append, List.foldl_cons, List.foldl_nil, next] at h
    -- `..` leads to a location above the one before, and a name adds just the new location
    by_cases hstep : step = ['.', '.']
    · rw [if_pos hstep] at h
      exact hearlier (h.trans (List.dropLast_prefix _))
    · rw [if_neg hstep] at h
      rcases List.prefix_concat_iff.1 h with rfl | hm
      · refine Or.inr ⟨(steps ++ [step]).length, Nat.le_refl _, ?_⟩
        rw [List.take_length, List.foldl_append, List.foldl_cons, List.foldl_nil, next,
          if_neg hstep]
      · exact hearlier hm

end Location

namespace FileTree

variable {t : FileTree}

lemma walk_of_not_directory {l : Location} (h : t.kindOf? l ≠ some .directory)
    {parts : List (List Char)} (hne : parts ≠ []) : t.walk l parts = .error .notDirectory := by
  cases parts with
  | nil => exact absurd rfl hne
  | cons part parts => rw [walk, if_pos h]

lemma walk_append (t : FileTree) (l : Location) (parts rest : List (List Char)) :
    t.walk l (parts ++ rest) = t.walk l parts >>= fun m => t.walk m rest := by
  induction parts generalizing l with
  | nil => rfl
  | cons part parts ih =>
    rw [List.cons_append, walk, walk]
    split
    · rfl
    · split
      · exact ih l
      · split
        · exact ih _
        · dsimp only
          split
          · exact ih _
          · rfl

/-- Parts that lead nowhere may be left out of a walk that goes on after them: what they ask of the
location, the next part asks as well. -/
lemma walk_filter (t : FileTree) (l : Location) (parts : List (List Char)) (last : List Char) :
    t.walk l (parts.filter (! Path.isIdle ·) ++ [last]) = t.walk l (parts ++ [last]) := by
  induction parts generalizing l with
  | nil => rfl
  | cons part parts ih =>
    by_cases hdir : t.kindOf? l = some .directory
    · by_cases hidle : Path.isIdle part = true
      · rw [List.filter_cons_of_neg (by simp [hidle]), ih, List.cons_append, walk,
          if_neg (not_not.2 hdir), if_pos hidle]
      · rw [List.filter_cons_of_pos (by simp [hidle]), List.cons_append, List.cons_append, walk,
          walk, if_neg (not_not.2 hdir), if_neg (not_not.2 hdir), if_neg hidle, if_neg hidle, ih]
        simp only [ih]
    · rw [walk_of_not_directory hdir (by simp), walk_of_not_directory hdir (by simp)]

/-- A walk that arrives goes along the parts that lead somewhere. -/
lemma walk_eq_foldl_filter {parts : List (List Char)} {l m : Location}
    (h : t.walk l parts = .ok m) : m = (parts.filter (! Path.isIdle ·)).foldl Location.next l := by
  induction parts generalizing l with
  | nil =>
    cases h
    rfl
  | cons part parts ih =>
    rw [walk] at h
    split at h
    · cases h
    · split at h
      · rename_i hidle
        rw [List.filter_cons_of_neg (by simp [hidle])]
        exact ih h
      · rename_i hidle
        rw [List.filter_cons_of_pos (by simp [hidle]), List.foldl_cons, Location.next]
        split at h
        · rename_i hparent
          rw [if_pos hparent]
          exact ih h
        · rename_i hparent
          rw [if_neg hparent]
          dsimp only at h
          split at h
          · exact ih h
          · cases h

lemma walk_eq_foldl {steps : List (List Char)} (hsteps : ∀ step ∈ steps, Path.isIdle step = false)
    {l m : Location} (h : t.walk l steps = .ok m) : m = steps.foldl Location.next l := by
  have hfilter : steps.filter (! Path.isIdle ·) = steps := by
    rw [List.filter_eq_self]
    intro step hstep
    rw [hsteps step hstep]
    rfl
  rw [walk_eq_foldl_filter h, hfilter]

lemma walk_dot {l : Location} (h : t.kindOf? l = some .directory) : t.walk l [['.']] = .ok l := by
  rw [walk, if_neg (not_not.2 h), if_pos (by decide), walk]

lemma walk_name {l : Location} (h : t.kindOf? l = some .directory) {name : List Char}
    (hidle : Path.isIdle name = false) (hparent : name ≠ ['.', '.']) :
    (∃ m, t.walk l [name] = .ok m ∧ (t.kindOf? m).isSome) ↔
      (t.get? (l ++ [String.ofList name])).isSome := by
  rw [walk, if_neg (not_not.2 h), if_neg (by simp [hidle]), if_neg hparent]
  by_cases hnext : (t.get? (l ++ [String.ofList name])).isSome
  · simp [hnext, walk, kindOf?]
  · simp [hnext]

lemma walk_take {steps : List (List Char)} (hsteps : ∀ step ∈ steps, Path.isIdle step = false)
    {l m : Location} (h : t.walk l (steps ++ [['.']]) = .ok m) (n : Nat) :
    t.walk l (steps.take n) = .ok ((steps.take n).foldl Location.next l) ∧
      t.kindOf? ((steps.take n).foldl Location.next l) = some .directory := by
  rw [← List.take_append_drop n steps, List.append_assoc, walk_append] at h
  cases hpassed : t.walk l (steps.take n) with
  | error cause =>
    rw [hpassed] at h
    cases h
  | ok passed =>
    rw [hpassed] at h
    obtain rfl := walk_eq_foldl (fun step hstep => hsteps step (List.mem_of_mem_take hstep)) hpassed
    refine ⟨rfl, ?_⟩
    by_contra hdir
    have hstops : t.walk _ (steps.drop n ++ [['.']]) = .error .notDirectory :=
      walk_of_not_directory hdir (by simp)
    cases hstops.symm.trans h

end FileTree

namespace Path

def base (directory : Location) (p : Path) : Location :=
  if p.isAbsolute then [] else directory

/-- The location that is passed after a number of steps. -/
def place (directory : Location) (p : Path) (n : Nat) : Location :=
  (p.steps.take n).foldl Location.next (p.base directory)

lemma isIdle_of_mem_steps {p : Path} {step : List Char} (h : step ∈ p.steps) :
    isIdle step = false := by
  have hstep := (List.mem_filter.1 h).2
  simpa using hstep

lemma base_of_slash {p : Path} {cs : List Char} (h : p.text.toList = '/' :: cs)
    (directory : Location) : p.base directory = [] := by
  have habsolute : p.isAbsolute = true := by rw [isAbsolute_iff, origin, h, split]
  rw [base, if_pos habsolute]

lemma base_of_no_slash {p : Path} (h : ∀ cs, p.text.toList ≠ '/' :: cs) (directory : Location) :
    p.base directory = directory := by
  have hrelative : ¬ p.isAbsolute = true := by
    rw [isAbsolute, Text.beginsWith_iff]
    rintro ⟨cs, hcs⟩
    exact h cs hcs.symm
  rw [base, if_neg hrelative]

lemma steps_of_slash {p : Path} {cs : List Char} (h : p.text.toList = '/' :: cs) :
    p.steps = (Text.splitAtEach '/' cs).filter (! isIdle ·) := by
  rw [steps, h, split]

lemma steps_of_no_slash {p : Path} (h : ∀ cs, p.text.toList ≠ '/' :: cs) :
    p.steps = (Text.splitAtEach '/' p.text.toList).filter (! isIdle ·) := by
  rw [steps]
  generalize p.text.toList = cs at h
  unfold split
  split
  · exact absurd rfl (h _)
  · rfl
  · rename_i cs
    have hdot := Text.splitAtEach_append_cons '/' ['.'] cs
    have hempty := Text.splitAtEach_append_cons '/' [] cs
    rw [List.singleton_append] at hdot
    rw [List.nil_append] at hempty
    rw [hdot, hempty, List.filter_append, List.filter_append]
    rfl
  · rfl

/-- The slash that is put between a path and what is joined to it, unless there is one already. -/
def separator (cs : List Char) : List Char :=
  if cs = [] ∨ cs.getLast? = some '/' then [] else ['/']

lemma toList_join (p : Path) {name : String} (hslash : '/' ∉ name.toList) :
    (p.join name).text.toList = p.text.toList ++ separator p.text.toList ++ name.toList := by
  have hname : ¬ Text.beginsWith name "/" = true := by
    rw [Text.beginsWith_iff]
    rintro ⟨cs, hcs⟩
    exact hslash (by rw [← hcs]; simp)
  have hends : (p.text.isEmpty || p.text.toList.getLast? == some '/') = true ↔
      p.text.toList = [] ∨ p.text.toList.getLast? = some '/' := by
    rw [Bool.or_eq_true, String.isEmpty_iff, beq_iff_eq, String.toList_eq_nil_iff]
  rw [join, if_neg hname, separator]
  by_cases h : p.text.toList = [] ∨ p.text.toList.getLast? = some '/'
  · rw [if_pos h, if_pos (hends.2 h)]
    simp
  · rw [if_neg h, if_neg (h ∘ hends.1)]
    simp

lemma exists_splitAtEach_separator (cs : List Char) {name : List Char} (hslash : '/' ∉ name) :
    ∃ parts, Text.splitAtEach '/' (cs ++ separator cs ++ name) = parts ++ [name] ∧
      parts.filter (! isIdle ·) = (Text.splitAtEach '/' cs).filter (! isIdle ·) := by
  have hname := Text.splitAtEach_eq_singleton hslash
  by_cases hempty : cs = []
  · rw [hempty]
    exact ⟨[], hname, rfl⟩
  · by_cases hlast : cs.getLast? = some '/'
    · obtain ⟨ds, rfl⟩ := List.getLast?_eq_some_iff.1 hlast
      refine ⟨Text.splitAtEach '/' ds, ?_, ?_⟩
      · rw [separator, if_pos (Or.inr hlast), List.append_nil, List.append_assoc,
          List.singleton_append, Text.splitAtEach_append_cons, hname]
      · rw [Text.splitAtEach_append_cons, List.filter_append]
        simp [Text.splitAtEach, isIdle]
    · refine ⟨Text.splitAtEach '/' cs, ?_, rfl⟩
      rw [separator, if_neg (not_or.2 ⟨hempty, hlast⟩), List.append_assoc, List.singleton_append,
        Text.splitAtEach_append_cons, hname]

end Path

namespace FileTree

lemma start_of_slash {p : Path} {cs : List Char} (h : p.text.toList = '/' :: cs)
    (directory : Location) : start directory p = ([], Text.splitAtEach '/' cs) := by
  unfold start
  rw [h]
  rfl

lemma start_of_no_slash {p : Path} (h : ∀ cs, p.text.toList ≠ '/' :: cs) (directory : Location) :
    start directory p = (directory, Text.splitAtEach '/' p.text.toList) := by
  unfold start
  split
  · rename_i hslash
    exact absurd hslash (h _)
  · rfl

lemma start_eq (directory : Location) (p : Path) :
    ∃ parts, start directory p = (p.base directory, parts) ∧
      parts.filter (! Path.isIdle ·) = p.steps := by
  by_cases hslash : ∃ cs, p.text.toList = '/' :: cs
  · obtain ⟨cs, hcs⟩ := hslash
    refine ⟨_, ?_, (Path.steps_of_slash hcs).symm⟩
    rw [start_of_slash hcs, Path.base_of_slash hcs]
  · rw [not_exists] at hslash
    refine ⟨_, ?_, (Path.steps_of_no_slash hslash).symm⟩
    rw [start_of_no_slash hslash, Path.base_of_no_slash hslash]

lemma start_join (directory : Location) (p : Path) {name : String} (hslash : '/' ∉ name.toList) :
    ∃ parts, start directory (p.join name) = (p.base directory, parts ++ [name.toList]) ∧
      parts.filter (! Path.isIdle ·) = p.steps := by
  have htext := p.toList_join hslash
  by_cases habsolute : ∃ cs, p.text.toList = '/' :: cs
  · obtain ⟨cs, hcs⟩ := habsolute
    have hseparator : Path.separator ('/' :: cs) = Path.separator cs := by
      cases cs <;> simp [Path.separator]
    obtain ⟨parts, hparts, hfilter⟩ := Path.exists_splitAtEach_separator cs hslash
    rw [hcs, hseparator, List.cons_append, List.cons_append] at htext
    refine ⟨parts, ?_, hfilter.trans (Path.steps_of_slash hcs).symm⟩
    rw [start_of_slash htext, Path.base_of_slash hcs, hparts]
  · rw [not_exists] at habsolute
    obtain ⟨parts, hparts, hfilter⟩ := Path.exists_splitAtEach_separator p.text.toList hslash
    have hrelative : ∀ cs, (p.join name).text.toList ≠ '/' :: cs := by
      intro cs hcs
      rw [htext] at hcs
      cases htoList : p.text.toList with
      | nil =>
        rw [htoList] at hcs
        exact hslash (by rw [show name.toList = '/' :: cs from hcs]; simp)
      | cons c ds =>
        rw [htoList] at hcs
        exact habsolute ds (by rw [htoList, (List.cons.inj hcs).1])
    refine ⟨parts, ?_, hfilter.trans (Path.steps_of_no_slash habsolute).symm⟩
    rw [start_of_no_slash hrelative, Path.base_of_no_slash habsolute, htext, hparts]

/-- The directory that a path stands for, which is the working directory for the empty path. -/
def Leads (t : FileTree) (directory : Location) (p : Path) (l : Location) : Prop :=
  t.locate directory (p.join ".") = .ok l

variable {t : FileTree} {directory l : Location}

lemma locate_join {p : Path} (hp : '\x00' ∉ p.text.toList) {name : String}
    (hname : name.toList ≠ []) (hslash : '/' ∉ name.toList) (hnul : '\x00' ∉ name.toList) :
    t.locate directory (p.join name) = t.walk (p.base directory) (p.steps ++ [name.toList]) := by
  have htext := p.toList_join hslash
  have hempty : ¬ (p.join name).text.isEmpty = true := by
    rw [String.isEmpty_iff, ← String.toList_eq_nil_iff, htext]
    simp [hname]
  have hclean : ¬ (p.join name).text.toList.contains '\x00' = true := by
    rw [htext, List.contains_iff_mem, List.mem_append, List.mem_append, not_or, not_or]
    refine ⟨⟨hp, ?_⟩, hnul⟩
    rw [Path.separator]
    split <;> simp
  obtain ⟨parts, hstart, hfilter⟩ := start_join directory p hslash
  rw [locate, if_neg hempty, if_neg hclean, hstart]
  dsimp only
  rw [← hfilter, walk_filter]

/-- A path that leads anywhere leads to the location after its last step. -/
lemma eq_place_of_locate {p : Path} (h : t.locate directory p = .ok l) :
    l = p.place directory p.steps.length := by
  unfold locate at h
  split at h
  · cases h
  · split at h
    · cases h
    · obtain ⟨parts, hstart, hfilter⟩ := start_eq directory p
      rw [hstart] at h
      rw [Path.place, List.take_length, ← hfilter]
      exact walk_eq_foldl_filter h

lemma walk_of_locate {p : Path} (h : t.locate directory p = .ok l)
    (hdir : t.kindOf? l = some .directory) :
    '\x00' ∉ p.text.toList ∧ t.walk (p.base directory) (p.steps ++ [['.']]) = .ok l := by
  unfold locate at h
  split at h
  · cases h
  · split at h
    · cases h
    · rename_i hnul
      obtain ⟨parts, hstart, hfilter⟩ := start_eq directory p
      rw [hstart] at h
      dsimp only at h
      refine ⟨by simpa using hnul, ?_⟩
      rw [← hfilter, walk_filter, walk_append, h]
      exact walk_dot hdir

/-- A parent of a path to a directory leads to one of the directories passed on the way. -/
lemma walk_ancestor {start q : Path} {n : Nat} (h : t.locate directory start = .ok l)
    (hdir : t.kindOf? l = some .directory) (hq : Path.ancestor n start = some q) :
    '\x00' ∉ q.text.toList ∧
      t.walk (q.base directory) q.steps = .ok (start.place directory (start.steps.length - n)) ∧
      t.kindOf? (start.place directory (start.steps.length - n)) = some .directory := by
  obtain ⟨hnul, hwalk⟩ := walk_of_locate h hdir
  obtain ⟨hsteps, habsolute, hchars⟩ := Path.ancestor_steps hq
  have hbase : q.base directory = start.base directory := by rw [Path.base, Path.base, habsolute]
  obtain ⟨hpassed, hdirectory⟩ :=
    walk_take (fun _ => Path.isIdle_of_mem_steps) hwalk (start.steps.length - n)
  rw [hbase, hsteps]
  exact ⟨fun hmem => (hchars _ hmem).elim (by decide) hnul, hpassed, hdirectory⟩

lemma leads_ancestor {start q : Path} {n : Nat} (h : t.locate directory start = .ok l)
    (hdir : t.kindOf? l = some .directory) (hq : Path.ancestor n start = some q) :
    t.Leads directory q (start.place directory (start.steps.length - n)) := by
  obtain ⟨hnul, hpassed, hdirectory⟩ := walk_ancestor h hdir hq
  rw [Leads, locate_join hnul (by decide) (by decide) (by decide), walk_append, hpassed]
  exact walk_dot hdirectory

lemma kindAt?_ancestor {start q : Path} {n : Nat} (h : t.locate directory start = .ok l)
    (hdir : t.kindOf? l = some .directory) (hq : Path.ancestor n start = some q) {name : String}
    (hslash : '/' ∉ name.toList) (hnul : '\x00' ∉ name.toList)
    (hidle : Path.isIdle name.toList = false) (hparent : name.toList ≠ ['.', '.']) :
    (t.kindAt? directory (q.join name)).isSome = true ↔
      (t.get? (start.place directory (start.steps.length - n) ++ [name])).isSome = true := by
  obtain ⟨hclean, hpassed, hdirectory⟩ := walk_ancestor h hdir hq
  have hname : name.toList ≠ [] := fun hempty => by simp [hempty, Path.isIdle] at hidle
  have hentry := walk_name hdirectory hidle hparent
  rw [String.ofList_toList] at hentry
  have hlocate : t.locate directory (q.join name) =
      t.walk (start.place directory (start.steps.length - n)) [name.toList] := by
    rw [locate_join hclean hname hslash hnul, walk_append, hpassed]
    rfl
  rw [← hentry, kindAt?, hlocate]
  cases t.walk (start.place directory (start.steps.length - n)) [name.toList] <;> simp

end FileTree

end SyncScript
