import Mathlib.Tactic.Common
import SyncScript.Document.Basic

/-!
# Equality of documents

Whether two documents are the same tree can be computed.
-/

namespace SyncScript

namespace Document

mutual

/-- Whether two documents are equal, by recursion on both. -/
def equal : Document → Document → Bool
  | null, null | date, date => true
  | bool b, bool b' => b == b'
  | integer n, integer n' => n == n'
  | fraction x, fraction x' => decide (x = x')
  | text s, text s' | plain s, plain s' => s == s'
  | sequence items, sequence items' => equalItems items items'
  | mapping entries, mapping entries' => equalEntries entries entries'
  | tagged tag d, tagged tag' d' => tag == tag' && equal d d'
  | _, _ => false

def equalItems : List Document → List Document → Bool
  | [], [] => true
  | d :: items, d' :: items' => equal d d' && equalItems items items'
  | _, _ => false

def equalEntries : List (Document × Document) → List (Document × Document) → Bool
  | [], [] => true
  | (k, d) :: entries, (k', d') :: entries' =>
    equal k k' && equal d d' && equalEntries entries entries'
  | _, _ => false

end

mutual

lemma equal_iff (d d' : Document) : equal d d' = true ↔ d = d' := by
  cases d with
  | sequence items => cases d' <;> simp [equal, equalItems_iff items]
  | mapping entries => cases d' <;> simp [equal, equalEntries_iff entries]
  | tagged tag d => cases d' <;> simp [equal, equal_iff d]
  | _ => cases d' <;> simp [equal]

lemma equalItems_iff (items items' : List Document) :
    equalItems items items' = true ↔ items = items' := by
  cases items with
  | nil => cases items' <;> simp [equalItems]
  | cons d items => cases items' <;> simp [equalItems, equal_iff d, equalItems_iff items]

lemma equalEntries_iff (entries entries' : List (Document × Document)) :
    equalEntries entries entries' = true ↔ entries = entries' := by
  cases entries with
  | nil => cases entries' <;> simp [equalEntries]
  | cons e entries =>
    cases entries' <;>
      simp [equalEntries, equal_iff e.1, equal_iff e.2, equalEntries_iff entries, Prod.ext_iff]

end

end Document

instance : DecidableEq Document := fun d d' => decidable_of_iff _ (Document.equal_iff d d')

end SyncScript
