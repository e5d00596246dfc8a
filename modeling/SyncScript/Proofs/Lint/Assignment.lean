import SyncScript.Proofs.Lint.Lines

/-!
# Spaced assignments

The grammar that the rule for assignments knows: an indent, a name, an equals sign with gaps on at
least one side of it, and a value. A line looks like a spaced assignment exactly when it begins with
one, whatever the rest of the value is.
-/

namespace SyncScript

lemma isSpace_eq_false_of_isNameStart {c : Char} (h : isNameStart c = true) :
    Text.isSpace c = false := by
  have hcodes : ∀ n ∈ Text.spaceCodes, isNameStart (Char.ofNat n) = false := by
    decide
  by_contra hspace
  rw [Bool.not_eq_false] at hspace
  have hother := Text.of_isSpace (P := fun c => isNameStart c = false) hcodes hspace
  rw [hother] at h
  cases h

lemma isNameChar_eq_false_of_isGap {c : Char} (h : isGap c = true) : isNameChar c = false := by
  simp only [isGap, Bool.or_eq_true, beq_iff_eq] at h
  rcases h with rfl | rfl <;> decide

/-- What makes a line a spaced assignment: a name, an equals sign with a gap on at least one side of
it, and the first character of the value. -/
structure SpacedAssignment where
  indent : List Char
  start : Char
  name : List Char
  before : List Char
  after : List Char
  value : Char
  isSpace_indent : ∀ c ∈ indent, Text.isSpace c = true
  isNameStart_start : isNameStart start = true
  isNameChar_name : ∀ c ∈ name, isNameChar c = true
  isGap_before : ∀ c ∈ before, isGap c = true
  isGap_after : ∀ c ∈ after, isGap c = true
  isSpace_value : Text.isSpace value = false
  spaced : before ≠ [] ∨ after ≠ []

def SpacedAssignment.text (a : SpacedAssignment) : List Char :=
  a.indent ++ a.start :: (a.name ++ (a.before ++ '=' :: (a.after ++ [a.value])))

lemma SpacedAssignment.eq_value (a : SpacedAssignment) {init : List Char} {last : Char}
    (h : a.text = init ++ [last]) : a.value = last := by
  have htext : a.text =
      (a.indent ++ a.start :: (a.name ++ (a.before ++ '=' :: a.after))) ++ [a.value] := by
    simp [text]
  rw [htext] at h
  simpa using (List.append_inj' h rfl).2

lemma exists_of_dropWhile {α : Type} {p : α → Bool} {l rest : List α} {a : α}
    (h : l.dropWhile p = a :: rest) :
    ∃ taken, l = taken ++ a :: rest ∧ (∀ b ∈ taken, p b = true) ∧ p a = false := by
  have hhead := List.head?_dropWhile_not p l
  rw [h] at hhead
  refine ⟨l.takeWhile p, ?_, List.all_eq_true.1 List.all_takeWhile, hhead⟩
  rw [← h, List.takeWhile_append_dropWhile]

lemma dropWhile_append_cons {α : Type} {p : α → Bool} {l rest : List α} {a : α}
    (h : ∀ b ∈ l, p b = true) (ha : p a = false) :
    (l ++ a :: rest).dropWhile p = a :: rest := by
  rw [List.dropWhile_append_of_pos h, List.dropWhile_cons_of_neg (by simp [ha])]

lemma any_head?_gaps {gaps rest : List Char} {c : Char} (hgaps : ∀ d ∈ gaps, isGap d = true)
    (hc : isGap c = false) : (gaps ++ c :: rest).head?.any isGap = true ↔ gaps ≠ [] := by
  cases gaps with
  | nil => simp [hc]
  | cons d gaps => simp [hgaps d List.mem_cons_self]

/-- A line looks like a spaced assignment exactly when it begins with one. -/
lemma looksLikeSpacedAssignment_iff (line : List Char) :
    looksLikeSpacedAssignment line = true ↔ ∃ a : SpacedAssignment, a.text <+: line := by
  have hequals : isGap '=' = false := by decide
  constructor
  · intro h
    unfold looksLikeSpacedAssignment at h
    split at h
    · cases h
    · rename_i c cs hline
      obtain ⟨indent, rfl, hindent, -⟩ := exists_of_dropWhile hline
      obtain ⟨hstart, h⟩ := Bool.and_eq_true_iff.1 h
      dsimp only at h
      split at h
      · rename_i value hvalue
        split at h
        · cases h
        · rename_i d rest hrest
          obtain ⟨before, hbefore, hgaps, -⟩ := exists_of_dropWhile hvalue
          obtain ⟨after, rfl, hgaps', hd⟩ := exists_of_dropWhile hrest
          simp only [hbefore, Bool.and_eq_true, Bool.not_eq_true', Bool.or_eq_true,
            any_head?_gaps hgaps hequals, any_head?_gaps hgaps' hd] at h
          refine ⟨⟨indent, c, cs.takeWhile isNameChar, before, after, d, hindent, hstart,
            List.all_eq_true.1 List.all_takeWhile, hgaps, hgaps', h.1, h.2⟩, rest, ?_⟩
          conv_rhs => rw [← List.takeWhile_append_dropWhile (p := isNameChar) (l := cs), hbefore]
          simp [SpacedAssignment.text]
      · cases h
  · rintro ⟨a, rest, rfl⟩
    have hstart : Text.trimStart (a.text ++ rest) =
        a.start :: (a.name ++ (a.before ++ '=' :: (a.after ++ a.value :: rest))) := by
      have htext : a.text ++ rest = a.indent ++ a.start ::
          (a.name ++ (a.before ++ '=' :: (a.after ++ a.value :: rest))) := by
        simp [SpacedAssignment.text]
      rw [htext, Text.trimStart, dropWhile_append_cons a.isSpace_indent
        (isSpace_eq_false_of_isNameStart a.isNameStart_start)]
    have hname :
        (a.name ++ (a.before ++ '=' :: (a.after ++ a.value :: rest))).dropWhile isNameChar =
          a.before ++ '=' :: (a.after ++ a.value :: rest) := by
      rw [List.dropWhile_append_of_pos a.isNameChar_name]
      cases hbefore : a.before with
      | nil => rfl
      | cons c cs =>
        have hc := a.isGap_before c (by simp [hbefore])
        have hname := isNameChar_eq_false_of_isGap hc
        rw [List.cons_append, List.dropWhile_cons_of_neg (by simp [hname])]
    have hvalue : isGap a.value = false := not_isGap_of_not_isSpace a.isSpace_value
    unfold looksLikeSpacedAssignment
    rw [hstart]
    simp only [hname, dropWhile_append_cons a.isGap_before hequals,
      dropWhile_append_cons a.isGap_after hvalue, Bool.and_eq_true, Bool.or_eq_true,
      any_head?_gaps a.isGap_before hequals, any_head?_gaps a.isGap_after hvalue]
    exact ⟨a.isNameStart_start, by simp [a.isSpace_value], a.spaced⟩

end SyncScript
