import Mathlib.Data.List.Infix
import Mathlib.Data.List.TakeWhile
import SyncScript.Text.Basic

/-!
# Parts of a text

Trimming leaves a part of the text, and searching finds a pattern exactly when it is a part of
the text. Both then only ever see characters that the text holds.
-/

namespace SyncScript.Text

/-- The codes of the spaces. -/
def spaceCodes : List Nat :=
  [9, 10, 11, 12, 13, 0x20, 0x85, 0xA0, 0x1680, 0x2000, 0x2001, 0x2002, 0x2003, 0x2004, 0x2005,
    0x2006, 0x2007, 0x2008, 0x2009, 0x200A, 0x2028, 0x2029, 0x202F, 0x205F, 0x3000]

/-- What holds of the characters with the codes of spaces holds of every space. -/
lemma of_isSpace {P : Char → Prop} (h : ∀ n ∈ spaceCodes, P (Char.ofNat n)) {c : Char}
    (hc : isSpace c = true) : P c := by
  rw [← Char.ofNat_toNat c]
  apply h
  simp only [isSpace, Bool.or_eq_true, Bool.and_eq_true, decide_eq_true_eq, beq_iff_eq] at hc
  simp only [spaceCodes, List.mem_cons, List.not_mem_nil, or_false]
  omega

lemma infix_trim (cs : List Char) : trim cs <:+: cs := by
  have hend : trimEnd (trimStart cs) <+: trimStart cs := by
    rw [← List.reverse_suffix, trimEnd, List.reverse_reverse]
    exact List.dropWhile_suffix isSpace
  exact hend.isInfix.trans (List.dropWhile_suffix isSpace).isInfix

lemma mem_of_mem_trim {c : Char} {cs : List Char} (h : c ∈ trim cs) : c ∈ cs :=
  (infix_trim cs).subset h

lemma dropWhile_eq_self {α : Type} {p : α → Bool} {l : List α} (h : ∀ a ∈ l.head?, p a = false) :
    l.dropWhile p = l := by
  cases l with
  | nil => rfl
  | cons a l => exact List.dropWhile_cons_of_neg (by simp [h a rfl])

/-- A line that neither begins nor ends with a space is what it is trimmed to after an indent. -/
lemma trim_indented {indent line : List Char} (hindent : ∀ c ∈ indent, isSpace c = true)
    (hfirst : ∀ c ∈ line.head?, isSpace c = false)
    (hlast : ∀ c ∈ line.getLast?, isSpace c = false) : trim (indent ++ line) = line := by
  have hreverse : ∀ c ∈ line.reverse.head?, isSpace c = false := by
    rw [List.head?_reverse]
    exact hlast
  rw [trim, trimStart, List.dropWhile_append_of_pos hindent, dropWhile_eq_self hfirst, trimEnd,
    dropWhile_eq_self hreverse, List.reverse_reverse]

lemma trim_eq_self {cs : List Char} (h : ∀ c ∈ cs, isSpace c = false) : trim cs = cs := by
  have htrim := trim_indented (List.forall_mem_nil _) (fun c hc => h c (List.mem_of_head? hc))
    fun c hc => h c (List.mem_of_getLast? hc)
  rwa [List.nil_append] at htrim

/-- Trimming takes only spaces: other characters stay, and one in last place stays there. -/
lemma mem_trim {c : Char} {cs : List Char} (h : c ∈ cs) (hc : isSpace c = false) : c ∈ trim cs := by
  have hdrop : ∀ l : List Char, c ∈ l → c ∈ l.dropWhile isSpace := by
    intro l hl
    rw [← List.takeWhile_append_dropWhile (p := isSpace) (l := l), List.mem_append] at hl
    rcases hl with hl | hl
    · have hspace := List.all_eq_true.1 List.all_takeWhile c hl
      rw [hc] at hspace
      cases hspace
    · exact hl
  rw [trim, trimEnd, List.mem_reverse]
  exact hdrop _ (List.mem_reverse.2 (hdrop cs h))

lemma trim_eq_nil_iff (cs : List Char) : trim cs = [] ↔ cs.all isSpace = true := by
  rw [List.all_eq_true]
  constructor
  · intro h c hc
    by_contra hspace
    have hmem := mem_trim hc (Bool.eq_false_iff.2 hspace)
    rw [h] at hmem
    cases hmem
  · intro h
    rw [trim, trimStart, List.dropWhile_eq_nil_iff.2 h]
    rfl

lemma toList_trimmed (s : String) : (trimmed s).toList = trim s.toList :=
  String.toList_ofList

lemma trimmed_eq_empty_iff (s : String) : trimmed s = "" ↔ trim s.toList = [] := by
  rw [← String.toList_eq_nil_iff, toList_trimmed]

lemma trimmed_ne_empty_iff (s : String) : trimmed s ≠ "" ↔ isBlank s = false := by
  rw [ne_eq, trimmed_eq_empty_iff, trim_eq_nil_iff, isBlank, Bool.not_eq_true]

lemma trimEnd_concat {c : Char} (hc : isSpace c = false) (cs : List Char) :
    trimEnd (cs ++ [c]) = cs ++ [c] := by
  rw [trimEnd, List.reverse_append, List.reverse_singleton, List.singleton_append,
    List.dropWhile_cons_of_neg (by simp [hc]), List.reverse_cons, List.reverse_reverse]

lemma trimEnd_append_space {c : Char} (hc : isSpace c = true) (cs : List Char) :
    trimEnd (cs ++ [c]) = trimEnd cs := by
  rw [trimEnd, List.reverse_append, List.reverse_singleton, List.singleton_append,
    List.dropWhile_cons_of_pos hc, trimEnd]

lemma trim_concat {c : Char} (hc : isSpace c = false) (cs : List Char) :
    ∃ ds, trim (cs ++ [c]) = ds ++ [c] := by
  have hstart : ∃ ds, trimStart (cs ++ [c]) = ds ++ [c] := by
    induction cs with
    | nil => exact ⟨[], by simp [trimStart, hc]⟩
    | cons d cs ih =>
      by_cases hd : isSpace d = true
      · obtain ⟨ds, hds⟩ := ih
        exact ⟨ds, by rw [← hds]; simp [trimStart, hd]⟩
      · exact ⟨d :: cs, by simp [trimStart, hd]⟩
  obtain ⟨ds, hds⟩ := hstart
  exact ⟨ds, by rw [trim, hds, trimEnd_concat hc]⟩

/-- Trimming takes nothing but spaces from the two ends. -/
lemma exists_append_trim (cs : List Char) :
    ∃ before after, cs = before ++ (trim cs ++ after) ∧ (∀ c ∈ before, isSpace c = true) ∧
      ∀ c ∈ after, isSpace c = true := by
  have htaken : ∀ l : List Char, ∀ c ∈ l.takeWhile isSpace, isSpace c = true := fun l =>
    List.all_eq_true.1 List.all_takeWhile
  refine ⟨cs.takeWhile isSpace, ((trimStart cs).reverse.takeWhile isSpace).reverse, ?_, htaken cs,
    fun c hc => htaken _ c (List.mem_reverse.1 hc)⟩
  rw [trim, trimEnd, ← List.reverse_append, List.takeWhile_append_dropWhile, List.reverse_reverse,
    trimStart, List.takeWhile_append_dropWhile]

lemma trim_append_space {c : Char} (hc : isSpace c = true) (cs : List Char) :
    trim (cs ++ [c]) = trim cs := by
  rw [trim, trimStart, List.dropWhile_append]
  split
  · rename_i hempty
    rw [trim, trimStart, List.isEmpty_iff.1 hempty, List.dropWhile_cons_of_pos hc]
    rfl
  · rw [trimEnd_append_space hc, trim, trimStart]

lemma beginsWith_iff (s start : String) : beginsWith s start = true ↔ start.toList <+: s.toList :=
  List.isPrefixOf_iff_prefix

lemma occursIn_iff (pattern cs : List Char) : occursIn pattern cs = true ↔ pattern <:+: cs := by
  induction cs with
  | nil => simp [occursIn]
  | cons c cs ih =>
    rw [occursIn, Bool.or_eq_true, List.isPrefixOf_iff_prefix, ih, List.infix_cons_iff]

lemma mem_of_occursIn {pattern cs : List Char} (h : occursIn pattern cs = true) {c : Char}
    (hc : c ∈ pattern) : c ∈ cs :=
  ((occursIn_iff pattern cs).1 h).subset hc

end SyncScript.Text
