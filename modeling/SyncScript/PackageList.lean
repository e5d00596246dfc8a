import SyncScript.Text.Basic

/-!
# Lists of Python packages

Names in the order in which they were first given. A blank name and a name already in the list
are not taken, so the list never holds either.
-/

namespace SyncScript

structure PackageList where
  names : List String
  not_blank : ∀ n ∈ names, Text.isBlank n = false
  nodup : names.Nodup
  deriving DecidableEq

namespace PackageList

def empty : PackageList :=
  ⟨[], by simp, by simp⟩

instance : Inhabited PackageList := ⟨empty⟩

def isEmpty (l : PackageList) : Bool :=
  l.names.isEmpty

/-- Whether inserting `name` changes the list. -/
def admits (l : PackageList) (name : String) : Bool :=
  ! Text.isBlank name && ! l.names.contains name

/-- The list with `name` at its end, verbatim; the same list if it does not admit the name. -/
def insert (l : PackageList) (name : String) : PackageList :=
  if h : l.admits name then
    ⟨l.names ++ [name], by
      simp only [admits, Bool.and_eq_true, Bool.not_eq_true'] at h
      intro n hn
      rcases List.mem_append.1 hn with hn | hn
      · exact l.not_blank n hn
      · rw [List.mem_singleton.1 hn]
        exact h.1, by
      simp only [admits, Bool.and_eq_true, Bool.not_eq_true', List.contains_eq_mem,
        decide_eq_false_iff_not] at h
      refine List.nodup_append.2 ⟨l.nodup, by simp, ?_⟩
      intro a ha b hb hab
      rw [List.mem_singleton.1 hb] at hab
      exact h.2 (hab ▸ ha)⟩
  else l

/-- The names inserted one after the other into the empty list. -/
def ofList (names : List String) : PackageList :=
  names.foldl insert empty

end PackageList

end SyncScript
