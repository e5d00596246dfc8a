import Mathlib.Data.List.Nodup
import Mathlib.Data.List.Perm.Subperm
import SyncScript.Shell.HereDoc

/-!
# Reading a here-document

The delimiter is the first of `EOF`, `EOF_1`, `EOF_2` and so on that is not a line of the content.
Names of different numbers differ, so there is always one within as many steps as there are lines,
and the shell reads back the whole content.
-/

namespace SyncScript.Shell

/-- What the shell feeds to the command, and the lines it goes on with: the content ends at the
first line that equals the delimiter. Without such a line there is no here-document. -/
def readHereDoc (close : String) : List String → Option (List String × List String)
  | [] => none
  | line :: rest =>
    if line = close then some ([], rest)
    else (readHereDoc close rest).map fun (content, after) => (line :: content, after)

lemma readHereDoc_append {close : String} {content : List String} (h : close ∉ content)
    (rest : List String) :
    readHereDoc close (content ++ close :: rest) = some (content, rest) := by
  induction content with
  | nil => simp [readHereDoc]
  | cons line content ih =>
    have hne : line ≠ close := fun he => h (by simp [he])
    have hmem : close ∉ content := fun hc => h (by simp [hc])
    rw [List.cons_append, readHereDoc, if_neg hne, ih hmem]
    rfl

lemma toList_delimiterName (n : Nat) :
    (delimiterName n).toList =
      if n = 0 then ['E', 'O', 'F'] else ['E', 'O', 'F', '_'] ++ Nat.toDigits 10 n := by
  unfold delimiterName
  split
  · rfl
  · simp [Nat.toString_eq_repr]

lemma delimiterName_injective : Function.Injective delimiterName := by
  intro a b h
  have hl := congrArg String.toList h
  rw [toList_delimiterName, toList_delimiterName] at hl
  split at hl <;> split at hl
  · omega
  · simp at hl
  · simp at hl
  · have hd := congrArg (fun digits => Nat.ofDigitChars 10 digits 0) (List.append_cancel_left hl)
    simpa using hd

/-- Delimiters are made of letters, digits and underscores. -/
lemma mem_delimiterName {n : Nat} {c : Char} (h : c ∈ (delimiterName n).toList) :
    c.isAlphanum = true ∨ c = '_' := by
  rw [toList_delimiterName] at h
  split at h
  · revert h
    simp only [List.mem_cons, List.not_mem_nil, or_false]
    rintro (rfl | rfl | rfl) <;> decide
  · rcases List.mem_append.1 h with h | h
    · revert h
      simp only [List.mem_cons, List.not_mem_nil, or_false]
      rintro (rfl | rfl | rfl | rfl) <;> decide
    · have hd := Nat.isDigit_of_mem_toDigits (by decide) (by decide) h
      simp [Char.isAlphanum, hd]

/-- Among more names than there are lines, one is not a line. -/
lemma exists_delimiterName_not_mem (content : List String) :
    ∃ n ≤ content.length, delimiterName n ∉ content := by
  by_contra hall
  push Not at hall
  have hsub : (List.range (content.length + 1)).map delimiterName ⊆ content := by
    intro name hname
    obtain ⟨n, hn, rfl⟩ := List.mem_map.1 hname
    exact hall n (by simpa [Nat.lt_succ_iff] using hn)
  have hnodup : ((List.range (content.length + 1)).map delimiterName).Nodup :=
    List.Nodup.map delimiterName_injective List.nodup_range
  have hlen := (List.subperm_of_subset hnodup hsub).length_le
  rw [List.length_map, List.length_range] at hlen
  omega

/-- The delimiter is the first name that is not a line of the content. -/
lemma delimiter_eq (content : List String) :
    ∃ n ≤ content.length, delimiter content = delimiterName n ∧ delimiterName n ∉ content ∧
      ∀ m < n, delimiterName m ∈ content := by
  obtain ⟨k, hk, hfree⟩ := exists_delimiterName_not_mem content
  obtain ⟨n, hn⟩ : ∃ n, (List.range (content.length + 1)).find?
      ((! content.contains ·) ∘ delimiterName) = some n := by
    rw [← Option.isSome_iff_exists, List.find?_isSome]
    exact ⟨k, by simpa [Nat.lt_succ_iff] using hk, by simpa using hfree⟩
  have heq : delimiter content = delimiterName n := by
    rw [delimiter, List.find?_map, hn]
    rfl
  obtain ⟨hp, hmem, hmin⟩ := List.find?_range_eq_some.1 hn
  refine ⟨n, by simpa [Nat.lt_succ_iff] using hmem, heq, by simpa using hp, fun m hm => ?_⟩
  simpa using hmin m hm

lemma delimiter_not_mem (content : List String) : delimiter content ∉ content := by
  obtain ⟨n, -, heq, hfree, -⟩ := delimiter_eq content
  rw [heq]
  exact hfree

lemma not_mem_delimiter {content : List String} {c : Char} (h : c.isAlphanum = false)
    (hu : c ≠ '_') : c ∉ (delimiter content).toList := by
  obtain ⟨n, -, heq, -, -⟩ := delimiter_eq content
  rw [heq]
  intro hc
  rcases mem_delimiterName hc with ha | ha
  · simp [h] at ha
  · exact hu ha

/-- The line that opens a here-document of literal text for a file. -/
def openingLine (file close : String) : String :=
  "cat > " ++ file ++ " <<'" ++ close ++ "'"

lemma toList_openingLine (file close : String) :
    (openingLine file close).toList =
      "cat > ".toList ++ file.toList ++ " <<'".toList ++ close.toList ++ "'".toList := by
  unfold openingLine
  simp only [String.toList_append]

lemma writeLines_eq (file : String) (content : List String) :
    writeLines file content =
      openingLine file (delimiter content) :: content ++ [delimiter content] :=
  rfl

end SyncScript.Shell
