import Mathlib.Data.List.Induction
import Mathlib.Data.List.Nodup
import SyncScript.Proofs.Document.PlanFields

/-!
# Package lists

Whatever is done with a package list, it holds the first occurrences of the names that were given
to it and are not blank, in the order in which they were given. So collecting names is inserting
them one after the other, and a list that is written out as plain names and collected again is the
same list.
-/

namespace SyncScript

lemma eraseDups_concat (names : List String) (name : String) :
    (names ++ [name]).eraseDups =
      if name ∈ names then names.eraseDups else names.eraseDups ++ [name] := by
  rw [List.eraseDups_append, List.removeAll, List.filter_singleton, List.elem_eq_contains]
  by_cases h : name ∈ names <;> simp [h, List.eraseDups_cons]

lemma eraseDups_eq_self {names : List String} (h : names.Nodup) : names.eraseDups = names := by
  induction names using List.reverseRecOn with
  | nil => rfl
  | append_singleton names name ih =>
    obtain ⟨hnames, -, hnew⟩ := List.nodup_append.1 h
    have hname : name ∉ names := fun hmem => hnew name hmem name List.mem_cons_self rfl
    rw [eraseDups_concat, if_neg hname, ih hnames]

lemma nodup_eraseDups (names : List String) : names.eraseDups.Nodup := by
  induction names using List.reverseRecOn with
  | nil => exact List.nodup_nil
  | append_singleton names name ih =>
    rw [eraseDups_concat]
    split
    · exact ih
    · rename_i hname
      refine List.nodup_append.2 ⟨ih, List.nodup_singleton name, fun a ha b hb => ?_⟩
      rw [List.mem_singleton.1 hb]
      rintro rfl
      exact hname (List.mem_eraseDups.1 ha)

namespace PackageList

/-- The names that are not blank, each where it stands first. -/
def firstGiven (names : List String) : List String :=
  (names.filter (! Text.isBlank ·)).eraseDups

lemma firstGiven_concat (names : List String) (name : String) :
    firstGiven (names ++ [name]) =
      if Text.isBlank name = false ∧ name ∉ names then firstGiven names ++ [name]
      else firstGiven names := by
  rw [firstGiven, List.filter_append, List.filter_singleton]
  cases hblank : Text.isBlank name with
  | true => simp [firstGiven]
  | false =>
    rw [Bool.not_false, cond_true, eraseDups_concat]
    by_cases hname : name ∈ names <;> simp [firstGiven, hname, hblank]

lemma mem_firstGiven {names : List String} {name : String} :
    name ∈ firstGiven names ↔ Text.isBlank name = false ∧ name ∈ names := by
  rw [firstGiven, List.mem_eraseDups, List.mem_filter, Bool.not_eq_true', and_comm]

lemma eq_of_names {l l' : PackageList} (h : l.names = l'.names) : l = l' := by
  cases l
  cases l'
  cases h
  rfl

lemma admits_iff {l : PackageList} {name : String} :
    l.admits name = true ↔ Text.isBlank name = false ∧ name ∉ l.names := by
  simp [admits]

lemma names_insert (l : PackageList) (name : String) :
    (l.insert name).names = if l.admits name = true then l.names ++ [name] else l.names := by
  rw [insert]
  split <;> rfl

lemma insert_ne_iff {l : PackageList} {name : String} :
    l.insert name ≠ l ↔ l.admits name = true := by
  have hnames := names_insert l name
  constructor
  · intro hne
    by_contra hadmits
    rw [if_neg hadmits] at hnames
    exact hne (eq_of_names hnames)
  · intro hadmits heq
    rw [if_pos hadmits, heq] at hnames
    simpa using congrArg List.length hnames

lemma firstGiven_names (l : PackageList) : firstGiven l.names = l.names := by
  have hblank : l.names.filter (! Text.isBlank ·) = l.names :=
    List.filter_eq_self.2 fun name hname => by simp [l.not_blank name hname]
  rw [firstGiven, hblank, eraseDups_eq_self l.nodup]

/-- A list that holds what was given first does so after one more name. -/
lemma names_insert_of_firstGiven {l : PackageList} {given : List String}
    (h : l.names = firstGiven given) (name : String) :
    (l.insert name).names = firstGiven (given ++ [name]) := by
  have hadmits : l.admits name = true ↔ Text.isBlank name = false ∧ name ∉ given := by
    rw [admits_iff, h, mem_firstGiven]
    exact and_congr_right fun hblank => by simp [hblank]
  rw [names_insert, firstGiven_concat]
  simp only [hadmits, h]

lemma names_foldl_insert (l : PackageList) (names : List String) :
    (names.foldl insert l).names = firstGiven (l.names ++ names) := by
  induction names using List.reverseRecOn with
  | nil => rw [List.append_nil, List.foldl_nil, firstGiven_names]
  | append_singleton names name ih =>
    rw [List.foldl_concat, ← List.append_assoc, names_insert_of_firstGiven ih]

lemma names_ofList (names : List String) : (ofList names).names = firstGiven names :=
  names_foldl_insert empty names

lemma ofList_names (l : PackageList) : ofList l.names = l :=
  eq_of_names ((names_ofList l.names).trans l.firstGiven_names)

/-- What can be done with a package list. -/
inductive Operation where
  | insert (name : String)
  /-- Names collected in place of the list. -/
  | collect (names : List String)
  /-- The list made a plain list of names, and this a package list again. -/
  | rebuild

namespace Operation

def apply : Operation → PackageList → PackageList
  | insert name, l => l.insert name
  | collect names, _ => ofList names
  | rebuild, l => ofList l.names

/-- All names that a list has been given, when it had been given some before. -/
def given : Operation → List String → List String
  | insert name, names => names ++ [name]
  | collect names, _ => names
  | rebuild, names => names

end Operation

/-- The list after some operations. -/
def run (l : PackageList) (ops : List Operation) : PackageList :=
  ops.foldl (fun l op => op.apply l) l

/-- The names that a list has been given after some operations. -/
def givenBy (names : List String) (ops : List Operation) : List String :=
  ops.foldl (fun names op => op.given names) names

lemma names_apply {l : PackageList} {given : List String} (h : l.names = firstGiven given)
    (op : Operation) : (op.apply l).names = firstGiven (op.given given) := by
  cases op with
  | insert name => exact names_insert_of_firstGiven h name
  | collect names => exact names_ofList names
  | rebuild => rw [Operation.apply, ofList_names, h, Operation.given]

lemma names_run {l : PackageList} {given : List String} (h : l.names = firstGiven given)
    (ops : List Operation) : (l.run ops).names = firstGiven (givenBy given ops) := by
  induction ops generalizing l given with
  | nil => exact h
  | cons op ops ih => exact ih (names_apply h op)

/-- A name is taken exactly when it is new and not blank, and then put at the end as it is.
Collecting names is inserting them one after the other and leaves the first occurrences of those
that are not blank, also when they come from a document. After any operations a list holds the first
occurrences of all that it has been given, so no blank name and none twice, and it is the same list
when it is rebuilt from its plain names. -/
theorem names_run_eq :
    (∀ (l : PackageList) (name : String),
      (l.admits name = true ↔ l.insert name ≠ l) ∧
      (l.admits name = true ↔ Text.isBlank name = false ∧ name ∉ l.names) ∧
      (l.insert name).names = if l.admits name = true then l.names ++ [name] else l.names) ∧
    (∀ names, ofList names = names.foldl insert empty ∧
      (ofList names).names = firstGiven names) ∧
    (∀ names more, ofList (names ++ more) = more.foldl insert (ofList names)) ∧
    (∀ d l, ofDocument d = .ok l ↔ ∃ names, d.texts? = some names ∧ l = ofList names) ∧
    ∀ (start : PackageList) (ops : List Operation),
      (start.run ops).names = firstGiven (givenBy start.names ops) ∧
      (∀ name ∈ (start.run ops).names, Text.isBlank name = false) ∧
      (start.run ops).names.Nodup ∧ ofList (start.run ops).names = start.run ops := by
  refine ⟨fun l name => ⟨insert_ne_iff.symm, admits_iff, names_insert l name⟩,
    fun names => ⟨rfl, names_ofList names⟩, fun names more => List.foldl_append, fun d l => ?_,
    fun start ops => ?_⟩
  · rw [ofDocument_eq_ok, Document.packages?, Option.map_eq_some_iff]
    simp only [eq_comm]
  · have hnames := names_run start.firstGiven_names.symm ops
    refine ⟨hnames, fun name hname => ?_, ?_, ofList_names _⟩
    · rw [hnames] at hname
      exact (mem_firstGiven.1 hname).1
    · rw [hnames]
      exact nodup_eraseDups _

/-- A blank name and one that is there already are passed over, and names that differ in a space are
two. -/
theorem names_run_eq_mixed :
    "numpy" ∈ (empty.run [.insert "rich", .collect ["numpy", " ", "numpy", " numpy"], .rebuild,
      .insert "numpy", .insert "rich"]).names ∧
    Text.isBlank "numpy" = false ∧
    (empty.run [.insert "rich", .collect ["numpy", " ", "numpy", " numpy"], .rebuild,
      .insert "numpy", .insert "rich"]).names = ["numpy", " numpy", "rich"] := by
  obtain ⟨hnames, hblank, -⟩ := names_run_eq.2.2.2.2 empty [.insert "rich",
    .collect ["numpy", " ", "numpy", " numpy"], .rebuild, .insert "numpy", .insert "rich"]
  have hmem : "numpy" ∈ (empty.run [.insert "rich", .collect ["numpy", " ", "numpy", " numpy"],
      .rebuild, .insert "numpy", .insert "rich"]).names := by
    rw [hnames]
    decide
  refine ⟨hmem, hblank "numpy" hmem, ?_⟩
  rw [hnames]
  decide

end PackageList

end SyncScript
