import Mathlib.Data.List.TakeWhile
import SyncScript.Files.Path
import SyncScript.Proofs.Text.Lines
import SyncScript.Proofs.Text.Parts

/-!
# Parents of paths

The steps of a path are its parts that lead somewhere. The parent of a path has the same start and
all steps but the last, and the parents of a path are what one gets by going from a path to its
parent again and again.
-/

namespace SyncScript.Path

/-- Where a path starts: at the root, at a leading dot, or nowhere in particular. -/
def origin (p : Path) : List Char :=
  (split p.text.toList).1

def steps (p : Path) : List (List Char) :=
  (split p.text.toList).2.filter (! isIdle ·)

/-- What `split` makes of a text: no part holds a slash, parts after a leading dot begin with the
empty one, and without a start the first part leads somewhere, unless the text is empty. -/
structure IsSplit (start : List Char) (parts : List (List Char)) : Prop where
  noSlash : ∀ part ∈ parts, '/' ∉ part
  shape : start = ['/'] ∨ start = ['.'] ∧ (∀ part ∈ parts.head?, part = []) ∨
    start = [] ∧ (parts = [[]] ∨ ∀ part ∈ parts.head?, isIdle part = false)

lemma isIdle_iff (part : List Char) : isIdle part = true ↔ part = [] ∨ part = ['.'] := by
  simp [isIdle]

lemma split_of_relative {cs : List Char} (hroot : ∀ rest, cs ≠ '/' :: rest) (hdot : cs ≠ ['.'])
    (hdots : ∀ rest, cs ≠ '.' :: '/' :: rest) : split cs = ([], Text.splitAtEach '/' cs) := by
  unfold split
  split
  · exact absurd rfl (hroot _)
  · exact absurd rfl hdot
  · exact absurd rfl (hdots _)
  · rfl

lemma split_of_first {first : List Char} (hidle : isIdle first = false) (hslash : '/' ∉ first)
    (rest : List Char) : split (first ++ rest) = ([], Text.splitAtEach '/' (first ++ rest)) := by
  have hne : first ≠ [] ∧ first ≠ ['.'] := by
    rwa [Bool.eq_false_iff, ne_eq, isIdle_iff, not_or] at hidle
  cases first with
  | nil => exact absurd rfl hne.1
  | cons c cs =>
    apply split_of_relative
    · rintro ds hds
      exact hslash (by simp [(List.cons.inj hds).1])
    · intro hds
      rw [List.cons_append, List.cons.injEq, List.append_eq_nil_iff] at hds
      exact hne.2 (by rw [hds.1, hds.2.1])
    · intro ds hds
      rw [List.cons_append, List.cons.injEq] at hds
      cases cs with
      | nil => exact hne.2 (by rw [hds.1])
      | cons d cs => exact hslash (by simp [(List.cons.inj hds.2).1])

lemma isSplit_split (cs : List Char) : IsSplit (split cs).1 (split cs).2 := by
  have hslash : ∀ ds : List Char, ∀ part ∈ Text.splitAtEach '/' ds, '/' ∉ part :=
    fun ds part hpart hmem => (Text.mem_of_mem_splitAtEach hpart hmem).2 rfl
  unfold split
  split
  · exact ⟨hslash _, Or.inl rfl⟩
  · exact ⟨by simp, Or.inr (Or.inl ⟨rfl, by simp⟩)⟩
  · exact ⟨hslash _, Or.inr (Or.inl ⟨rfl, by simp [Text.splitAtEach]⟩)⟩
  · rename_i hroot hdot hdots
    refine ⟨hslash cs, Or.inr (Or.inr ⟨rfl, ?_⟩)⟩
    have hjoin := Text.intercalate_splitAtEach '/' cs
    cases hparts : Text.splitAtEach '/' cs with
    | nil => exact absurd hparts (Text.splitAtEach_ne_nil '/' cs)
    | cons first rest =>
      rw [hparts] at hjoin
      by_cases hrest : rest = []
      · subst hrest
        rw [List.intercalate_singleton] at hjoin
        by_cases hempty : first = []
        · exact Or.inl (by rw [hempty])
        · refine Or.inr fun part hpart => ?_
          obtain rfl : first = part := by simpa using hpart
          rw [Bool.eq_false_iff, ne_eq, isIdle_iff, not_or]
          exact ⟨hempty, fun he => hdot (hjoin.symm.trans he)⟩
      · rw [List.intercalate_cons_of_ne_nil hrest] at hjoin
        refine Or.inr fun part hpart => ?_
        obtain rfl : first = part := by simpa using hpart
        rw [Bool.eq_false_iff, ne_eq, isIdle_iff, not_or]
        refine ⟨fun he => ?_, fun he => ?_⟩
        · rw [he] at hjoin
          exact hroot _ hjoin.symm
        · rw [he] at hjoin
          exact hdots _ hjoin.symm

/-- A text that is put together from a start and some of its parts splits into these again, if the
last of them leads somewhere. Without parts there may be an empty one. -/
lemma split_assemble {start : List Char} {parts kept : List (List Char)} (h : IsSplit start parts)
    (hkept : kept <+: parts) (hlast : ∀ part ∈ kept.getLast?, isIdle part = false) :
    ∃ found, split (assemble start kept).text.toList = (start, found) ∧
      (found = kept ∨ kept = [] ∧ found = [[]]) := by
  have hslash : ∀ part ∈ kept, '/' ∉ part := fun part hpart => h.noSlash part (hkept.subset hpart)
  have htext : (assemble start kept).text.toList = start ++ ['/'].intercalate kept := by
    simp [assemble]
  rw [htext]
  rcases h.shape with rfl | ⟨rfl, hfirst⟩ | ⟨rfl, hfirst⟩
  · refine ⟨Text.splitAtEach '/' (['/'].intercalate kept), rfl, ?_⟩
    by_cases hne : kept = []
    · exact Or.inr ⟨hne, by rw [hne]; rfl⟩
    · exact Or.inl (Text.splitAtEach_intercalate hslash hne)
  · cases kept with
    | nil => exact ⟨[], rfl, Or.inl rfl⟩
    | cons first rest =>
      obtain ⟨more, rfl⟩ := hkept
      obtain rfl : first = [] := hfirst first rfl
      have hrest : rest ≠ [] := by
        rintro rfl
        exact absurd (hlast [] rfl) (by simp [isIdle])
      rw [List.intercalate_cons_of_ne_nil hrest]
      refine ⟨Text.splitAtEach '/' ('/' :: ['/'].intercalate rest), rfl, Or.inl ?_⟩
      have hpieces := Text.splitAtEach_intercalate hslash (List.cons_ne_nil [] rest)
      rwa [List.intercalate_cons_of_ne_nil hrest] at hpieces
  · cases kept with
    | nil => exact ⟨[[]], rfl, Or.inr ⟨rfl, rfl⟩⟩
    | cons first rest =>
      obtain ⟨more, rfl⟩ := hkept
      have hidle : isIdle first = false := by
        rcases hfirst with hempty | hfirst
        · rw [List.cons_append, List.cons.injEq, List.append_eq_nil_iff] at hempty
          obtain ⟨rfl, rfl, -⟩ := hempty
          exact hlast [] rfl
        · exact hfirst first rfl
      have hjoin : ∃ tail, ['/'].intercalate (first :: rest) = first ++ tail := by
        by_cases hrest : rest = []
        · exact ⟨[], by rw [hrest, List.intercalate_singleton, List.append_nil]⟩
        · exact ⟨_, (List.intercalate_cons_of_ne_nil hrest).trans (List.append_assoc _ _ _)⟩
      obtain ⟨tail, htail⟩ := hjoin
      rw [List.nil_append, htail, split_of_first hidle (hslash first (by simp)), ← htail,
        Text.splitAtEach_intercalate hslash (List.cons_ne_nil first rest)]
      exact ⟨_, rfl, Or.inl rfl⟩

lemma parentsFrom_dropWhile (start : List Char) (parts : List (List Char)) :
    parentsFrom start (parts.dropWhile isIdle) = parentsFrom start parts := by
  induction parts with
  | nil => rfl
  | cons part parts ih =>
    by_cases hidle : isIdle part = true
    · rw [List.dropWhile_cons_of_pos hidle, ih, parentsFrom, if_pos hidle]
    · rw [List.dropWhile_cons_of_neg hidle]

lemma filter_dropWhile_isIdle (parts : List (List Char)) :
    (parts.dropWhile isIdle).filter (! isIdle ·) = parts.filter (! isIdle ·) := by
  induction parts with
  | nil => rfl
  | cons part parts ih =>
    by_cases hidle : isIdle part = true
    · rw [List.dropWhile_cons_of_pos hidle, ih, List.filter_cons_of_neg (by simp [hidle])]
    · rw [List.dropWhile_cons_of_neg hidle]

/-- A path without steps has a parent only if it starts with a dot: the empty path. -/
lemma parents_of_steps_eq_nil {p : Path} (h : p.steps = []) :
    p.parents = if p.origin = ['.'] then [⟨""⟩] else [] := by
  have hdrop : (split p.text.toList).2.reverse.dropWhile isIdle = [] := by
    rw [List.dropWhile_eq_nil_iff]
    intro part hpart
    have hnone := List.filter_eq_nil_iff.1 h part (List.mem_reverse.1 hpart)
    simpa using hnone
  change parentsFrom p.origin (split p.text.toList).2.reverse = _
  rw [← parentsFrom_dropWhile, hdrop, parentsFrom]

/-- The parts of the nearest parent: those ahead of the last step, without parts at the end that
lead nowhere. -/
lemma exists_kept {parts init : List (List Char)} {last : List Char}
    (h : parts.filter (! isIdle ·) = init ++ [last]) :
    ∃ kept, kept <+: parts ∧ (∀ part ∈ kept.getLast?, isIdle part = false) ∧
      kept.filter (! isIdle ·) = init ∧
      ∀ start, parentsFrom start parts.reverse =
        assemble start kept :: parentsFrom start kept.reverse := by
  have hhead : ∀ ps : List (List Char), ∀ part ∈ (ps.dropWhile isIdle).head?,
      isIdle part = false := by
    intro ps part hpart
    have hnot := List.head?_dropWhile_not isIdle ps
    rw [hpart] at hnot
    simpa using hnot
  have hfilter := filter_dropWhile_isIdle parts.reverse
  rw [List.filter_reverse, h, List.reverse_append, List.reverse_singleton,
    List.singleton_append] at hfilter
  cases hdrop : parts.reverse.dropWhile isIdle with
  | nil =>
    rw [hdrop] at hfilter
    cases hfilter
  | cons part rest =>
    have hpart : isIdle part = false := hhead parts.reverse part (by rw [hdrop]; rfl)
    rw [hdrop, List.filter_cons_of_pos (by simp [hpart]), List.cons.injEq] at hfilter
    have hsuffix : rest.dropWhile isIdle <:+ parts.reverse :=
      ((List.dropWhile_suffix isIdle).trans (List.suffix_cons part rest)).trans
        (hdrop ▸ List.dropWhile_suffix isIdle)
    -- `parents` puts together what is left after the idle parts in front of the last step
    refine ⟨(rest.dropWhile isIdle).reverse, ?_, ?_, ?_, fun start => ?_⟩
    · rw [← List.reverse_suffix, List.reverse_reverse]
      exact hsuffix
    · rw [List.getLast?_reverse]
      exact hhead rest
    · rw [List.filter_reverse, filter_dropWhile_isIdle, hfilter.2, List.reverse_reverse]
    · rw [← parentsFrom_dropWhile, hdrop, parentsFrom, if_neg (by simp [hpart]),
        List.reverse_reverse, parentsFrom_dropWhile]

lemma mem_of_mem_split {c : Char} {cs : List Char}
    (h : c ∈ (split cs).1 ∨ ∃ part ∈ (split cs).2, c ∈ part) : c = '/' ∨ c ∈ cs := by
  unfold split at h
  split at h
  · rcases h with h | ⟨part, hpart, h⟩
    · exact Or.inl (List.mem_singleton.1 h)
    · exact Or.inr (List.mem_cons_of_mem _ (Text.mem_of_mem_splitAtEach hpart h).1)
  · simpa using Or.inr h
  · rcases h with h | ⟨part, hpart, h⟩
    · exact Or.inr (by simp [List.mem_singleton.1 h])
    · exact Or.inr (List.mem_cons_of_mem _ (Text.mem_of_mem_splitAtEach hpart h).1)
  · rcases h with h | ⟨part, hpart, h⟩
    · cases h
    · exact Or.inr (Text.mem_of_mem_splitAtEach hpart h).1

/-- The nearest parent of a path has all of its steps but the last, and the other parents are the
parents of this one. -/
lemma parents_of_steps_eq_append {p : Path} {init : List (List Char)} {last : List Char}
    (h : p.steps = init ++ [last]) :
    ∃ q : Path, p.parents = q :: q.parents ∧ q.origin = p.origin ∧ q.steps = init ∧
      ∀ c ∈ q.text.toList, c = '/' ∨ c ∈ p.text.toList := by
  obtain ⟨kept, hprefix, hlast, hfilter, hparents⟩ := exists_kept h
  obtain ⟨found, hfound, hcases⟩ := split_assemble (isSplit_split p.text.toList) hprefix hlast
  refine ⟨assemble p.origin kept, ?_, ?_, ?_, ?_⟩
  · have hbelow : parentsFrom p.origin found.reverse = parentsFrom p.origin kept.reverse := by
      rcases hcases with rfl | ⟨rfl, rfl⟩ <;> rfl
    have hfrom := hparents p.origin
    rw [← hbelow] at hfrom
    simp only [parents, origin, hfound] at hfrom ⊢
    exact hfrom
  · simp only [origin, hfound]
  · simp only [steps, origin, hfound]
    rw [← hfilter]
    rcases hcases with rfl | ⟨rfl, rfl⟩ <;> rfl
  · intro c hc
    rw [assemble, String.toList_ofList, List.mem_append] at hc
    rcases hc with hc | hc
    · exact mem_of_mem_split (Or.inl hc)
    · rcases Text.mem_intercalate hc with hslash | ⟨part, hpart, hc⟩
      · exact Or.inl hslash
      · exact mem_of_mem_split (Or.inr ⟨part, hprefix.subset hpart, hc⟩)

lemma isAbsolute_iff (p : Path) : p.isAbsolute = true ↔ p.origin = ['/'] := by
  rw [isAbsolute, Text.beginsWith_iff, origin, show "/".toList = ['/'] from rfl]
  constructor
  · rintro ⟨rest, hrest⟩
    rw [← hrest]
    rfl
  · intro h
    unfold split at h
    split at h
    · rename_i rest htext
      exact ⟨rest, htext.symm⟩
    · cases h
    · cases h
    · cases h

lemma isAbsolute_eq_of_origin {p q : Path} (h : q.origin = p.origin) :
    q.isAbsolute = p.isAbsolute := by
  rw [Bool.eq_iff_iff, isAbsolute_iff, isAbsolute_iff, h]

/-- Going to the parent drops the last step. A path without steps is at its end, unless it starts
with a dot: then the empty path comes last. -/
lemma parents_cases (p : Path) :
    (p.parents = [] ∧ p.steps = [] ∧ p.origin ≠ ['.']) ∨
    ∃ q : Path, p.parents = q :: q.parents ∧ q.steps = p.steps.dropLast ∧
      q.isAbsolute = p.isAbsolute ∧
      (p.steps ≠ [] ∧ q.origin = p.origin ∨ p.steps = [] ∧ p.origin = ['.'] ∧ q = ⟨""⟩) ∧
      ∀ c ∈ q.text.toList, c = '/' ∨ c ∈ p.text.toList := by
  rcases p.steps.eq_nil_or_concat' with hnil | ⟨init, last, hsteps⟩
  · have hparents := parents_of_steps_eq_nil hnil
    by_cases hdot : p.origin = ['.']
    · have habsolute : (⟨""⟩ : Path).isAbsolute = p.isAbsolute := by
        rw [Bool.eq_iff_iff, isAbsolute_iff, isAbsolute_iff, hdot]
        simp [origin, split]
      rw [if_pos hdot] at hparents
      exact Or.inr ⟨⟨""⟩, hparents, by rw [hnil]; rfl, habsolute, Or.inr ⟨hnil, hdot, rfl⟩, by simp⟩
    · rw [if_neg hdot] at hparents
      exact Or.inl ⟨hparents, hnil, hdot⟩
  · obtain ⟨q, hparents, horigin, hinit, hchars⟩ := parents_of_steps_eq_append hsteps
    exact Or.inr ⟨q, hparents, by simp [hinit, hsteps], isAbsolute_eq_of_origin horigin,
      Or.inl ⟨by simp [hsteps], horigin⟩, hchars⟩

lemma parents_eq (p : Path) :
    p.parents = match p.parent? with
      | some q => q :: q.parents
      | none => [] := by
  rcases p.parents_cases with ⟨hnil, -⟩ | ⟨q, hq, -⟩
  · simp [parent?, hnil]
  · rw [parent?, hq]
    rfl

/-- A path, its parent, the parent of this one and so on, by number. -/
def ancestor : Nat → Path → Option Path
  | 0, p => some p
  | n + 1, p => p.parent?.bind (ancestor n)

lemma getElem?_parents (p : Path) (n : Nat) : (p :: p.parents)[n]? = ancestor n p := by
  induction n generalizing p with
  | zero => rfl
  | succ n ih =>
    rw [List.getElem?_cons_succ, ancestor, parents_eq]
    cases p.parent? with
    | none => rfl
    | some q => exact ih q

lemma ancestor_steps {p q : Path} {n : Nat} (h : ancestor n p = some q) :
    q.steps = p.steps.take (p.steps.length - n) ∧ q.isAbsolute = p.isAbsolute ∧
      ∀ c ∈ q.text.toList, c = '/' ∨ c ∈ p.text.toList := by
  induction n generalizing p with
  | zero =>
    obtain rfl : p = q := by simpa [ancestor] using h
    exact ⟨by simp, rfl, fun c hc => Or.inr hc⟩
  | succ n ih =>
    rw [ancestor] at h
    rcases p.parents_cases with ⟨hnil, -⟩ | ⟨r, hr, hsteps, habsolute, -, hchars⟩
    · simp [parent?, hnil] at h
    · rw [parent?, hr] at h
      obtain ⟨hq, hqabsolute, hqchars⟩ := ih h
      refine ⟨?_, hqabsolute.trans habsolute, fun c hc => ?_⟩
      · rw [hq, hsteps, List.length_dropLast, List.dropLast_eq_take, List.take_take]
        congr 1
        omega
      · exact (hqchars c hc).elim Or.inl (hchars c)

lemma ancestor_succ (p : Path) (n : Nat) : ancestor (n + 1) p = (ancestor n p).bind parent? := by
  induction n generalizing p with
  | zero => cases h : p.parent? <;> simp [ancestor, h]
  | succ n ih =>
    rw [ancestor]
    cases h : p.parent? with
    | none => simp [ancestor, h]
    | some q =>
      rw [Option.bind_some, ih q, ancestor, h]
      rfl

lemma components_of_parent? {p q : Path} (h : p.parent? = some q) :
    q.components = p.components.dropLast := by
  have hcomponents : ∀ r : Path, r.components =
      (if r.origin = ['/'] then [.root] else if r.origin = ['.'] then [.current] else []) ++
        r.steps.map fun part => if part = ['.', '.'] then .parent else .name part :=
    fun _ => rfl
  rcases p.parents_cases with ⟨hnil, -⟩ | ⟨r, hr, hsteps, -, hcases, -⟩
  · simp [parent?, hnil] at h
  · rw [parent?, hr] at h
    obtain rfl : r = q := by simpa using h
    rw [hcomponents r, hcomponents p, hsteps]
    rcases hcases with ⟨hne, horigin⟩ | ⟨hnil, hdot, rfl⟩
    · rw [horigin, List.dropLast_append_of_ne_nil (by simpa using hne), List.map_dropLast]
    · rw [hnil, hdot]
      rfl

lemma ancestor_components {p q : Path} {n : Nat} (h : ancestor n p = some q) :
    q.components = p.components.take (p.components.length - n) := by
  induction n generalizing q with
  | zero =>
    obtain rfl : p = q := by simpa [ancestor] using h
    simp
  | succ n ih =>
    rw [ancestor_succ] at h
    obtain ⟨r, hr, hq⟩ := Option.bind_eq_some_iff.1 h
    rw [components_of_parent? hq, ih hr, List.dropLast_eq_take, List.take_take, List.length_take]
    congr 1
    omega

lemma exists_ancestor (p : Path) {n : Nat} (h : n ≤ p.steps.length) :
    ∃ q, ancestor n p = some q := by
  induction n generalizing p with
  | zero => exact ⟨p, rfl⟩
  | succ n ih =>
    rcases p.parents_cases with ⟨-, hnil, -⟩ | ⟨r, hr, hsteps, -⟩
    · simp [hnil] at h
    · obtain ⟨q, hq⟩ := ih r (by rw [hsteps, List.length_dropLast]; omega)
      refine ⟨q, ?_⟩
      rw [ancestor, parent?, hr]
      exact hq

end SyncScript.Path
