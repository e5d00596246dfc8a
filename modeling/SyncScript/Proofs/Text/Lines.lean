import Mathlib.Data.List.Basic
import SyncScript.Text.Basic

/-!
# The lines of a text

Cutting at a separator is `List.splitOn`. A text built from whole lines reads back as these
lines whatever follows it, which is how the sections of a script keep their line numbers.
-/

namespace SyncScript.Text

lemma splitAtEach_eq_splitOn (sep : Char) (cs : List Char) :
    splitAtEach sep cs = cs.splitOn sep := by
  induction cs with
  | nil => rfl
  | cons c cs ih =>
    rw [splitAtEach, List.splitOn_cons_eq_if_modifyHead, ih]
    by_cases hc : c = sep
    · simp [hc]
    · rw [if_neg hc, if_neg (by simpa using hc)]
      cases h : cs.splitOn sep with
      | nil => exact absurd h (List.splitOn_ne_nil sep cs)
      | cons piece pieces => rfl

lemma splitAtEach_ne_nil (sep : Char) (cs : List Char) : splitAtEach sep cs ≠ [] := by
  rw [splitAtEach_eq_splitOn]
  exact List.splitOn_ne_nil sep cs

lemma splitAtEach_append_cons (sep : Char) (a b : List Char) :
    splitAtEach sep (a ++ sep :: b) = splitAtEach sep a ++ splitAtEach sep b := by
  simp only [splitAtEach_eq_splitOn, List.splitOn_append_cons_self]

lemma splitAtEach_eq_singleton {sep : Char} {cs : List Char} (h : sep ∉ cs) :
    splitAtEach sep cs = [cs] := by
  rw [splitAtEach_eq_splitOn]
  exact List.splitOn_eq_singleton h

lemma splitAtEach_intercalate {sep : Char} {pieces : List (List Char)}
    (h : ∀ piece ∈ pieces, sep ∉ piece) (hne : pieces ≠ []) :
    splitAtEach sep ([sep].intercalate pieces) = pieces := by
  rw [splitAtEach_eq_splitOn]
  exact List.splitOn_intercalate sep h hne

lemma intercalate_splitAtEach (sep : Char) (cs : List Char) :
    [sep].intercalate (splitAtEach sep cs) = cs := by
  rw [splitAtEach_eq_splitOn]
  exact List.intercalate_splitOn sep

lemma mem_intercalate {sep c : Char} {pieces : List (List Char)}
    (h : c ∈ [sep].intercalate pieces) : c = sep ∨ ∃ piece ∈ pieces, c ∈ piece := by
  induction pieces with
  | nil => cases h
  | cons piece pieces ih =>
    by_cases hpieces : pieces = []
    · rw [hpieces, List.intercalate_singleton] at h
      exact Or.inr ⟨piece, by simp, h⟩
    · rw [List.intercalate_cons_of_ne_nil hpieces, List.append_assoc, List.mem_append,
        List.singleton_append, List.mem_cons] at h
      rcases h with h | h | h
      · exact Or.inr ⟨piece, by simp, h⟩
      · exact Or.inl h
      · exact (ih h).imp_right fun ⟨other, hother, hc⟩ => ⟨other, by simp [hother], hc⟩

/-- A piece holds characters of the text, but never the separator. -/
lemma mem_of_mem_splitAtEach {sep c : Char} {cs piece : List Char}
    (h : piece ∈ splitAtEach sep cs) (hc : c ∈ piece) : c ∈ cs ∧ c ≠ sep := by
  induction cs generalizing piece with
  | nil =>
    rw [splitAtEach, List.mem_singleton] at h
    rw [h] at hc
    cases hc
  | cons d cs ih =>
    rw [splitAtEach] at h
    by_cases hd : d = sep
    · rw [if_pos hd, List.mem_cons] at h
      rcases h with rfl | h
      · cases hc
      · exact ⟨List.mem_cons_of_mem _ (ih h hc).1, (ih h hc).2⟩
    · rw [if_neg hd] at h
      cases hpieces : splitAtEach sep cs with
      | nil => exact absurd hpieces (splitAtEach_ne_nil sep cs)
      | cons first rest =>
        rw [hpieces] at ih h
        rcases List.mem_cons.1 h with rfl | h
        · rcases List.mem_cons.1 hc with rfl | hc
          · exact ⟨List.mem_cons_self, hd⟩
          · exact ⟨List.mem_cons_of_mem _ (ih List.mem_cons_self hc).1,
              (ih List.mem_cons_self hc).2⟩
        · have htail := ih (List.mem_cons_of_mem _ h) hc
          exact ⟨List.mem_cons_of_mem _ htail.1, htail.2⟩

/-- The last piece of a text takes a further character, unless this is the separator. -/
lemma splitAtEach_concat {sep c : Char} (hc : c ≠ sep) (cs : List Char) :
    ∃ pieces last, splitAtEach sep (cs ++ [c]) = pieces ++ [last ++ [c]] := by
  induction cs with
  | nil => exact ⟨[], [], by simp [splitAtEach, hc]⟩
  | cons d cs ih =>
    obtain ⟨pieces, last, h⟩ := ih
    rw [List.cons_append, splitAtEach, h]
    by_cases hd : d = sep
    · exact ⟨[] :: pieces, last, by simp [hd]⟩
    · rw [if_neg hd]
      cases pieces with
      | nil => exact ⟨[], d :: last, rfl⟩
      | cons piece pieces => exact ⟨(d :: piece) :: pieces, last, rfl⟩

/-- A text begins with given pieces when it is these pieces or goes on with a separator
after them. -/
lemma prefix_splitAtEach_iff {sep : Char} {pieces : List (List Char)}
    (h : ∀ piece ∈ pieces, sep ∉ piece) (hne : pieces ≠ []) (cs : List Char) :
    pieces <+: splitAtEach sep cs ↔
      cs = [sep].intercalate pieces ∨ [sep].intercalate pieces ++ [sep] <+: cs := by
  constructor
  · rintro ⟨rest, hsplit⟩
    have hcs := intercalate_splitAtEach sep cs
    by_cases hrest : rest = []
    · rw [hrest, List.append_nil] at hsplit
      rw [← hsplit] at hcs
      exact Or.inl hcs.symm
    · have hpieces : ∀ piece ∈ rest, sep ∉ piece := by
        intro piece hpiece hsep
        have hmem : piece ∈ splitAtEach sep cs := hsplit ▸ List.mem_append_right pieces hpiece
        exact (mem_of_mem_splitAtEach hmem hsep).2 rfl
      have hjoined : splitAtEach sep ([sep].intercalate pieces ++ sep :: [sep].intercalate rest) =
          splitAtEach sep cs := by
        rw [splitAtEach_append_cons, splitAtEach_intercalate h hne,
          splitAtEach_intercalate hpieces hrest, hsplit]
      rw [← hjoined, intercalate_splitAtEach] at hcs
      exact Or.inr ⟨[sep].intercalate rest, by rw [← hcs, List.append_assoc]; rfl⟩
  · rintro (rfl | ⟨rest, rfl⟩)
    · exact (splitAtEach_intercalate h hne).symm ▸ List.prefix_rfl
    · rw [List.append_assoc, List.singleton_append, splitAtEach_append_cons,
        splitAtEach_intercalate h hne]
      exact List.prefix_append pieces _

lemma getLast?_splitAtEach_eq_iff (sep : Char) (cs : List Char) :
    (splitAtEach sep cs).getLast? = some cs ↔ sep ∉ cs := by
  constructor
  · intro h hsep
    exact (mem_of_mem_splitAtEach (List.mem_of_getLast? h) hsep).2 rfl
  · intro h
    rw [splitAtEach_eq_singleton h]
    rfl

lemma length_splitAtEach (sep : Char) (cs : List Char) :
    (splitAtEach sep cs).length = 1 + cs.count sep := by
  induction cs with
  | nil => rfl
  | cons c cs ih =>
    rw [splitAtEach]
    by_cases hc : c = sep
    · rw [if_pos hc, List.length_cons, ih, hc, List.count_cons_self, Nat.add_assoc]
    · rw [if_neg hc, List.count_cons_of_ne hc, ← ih]
      cases hpieces : splitAtEach sep cs with
      | nil => exact absurd hpieces (splitAtEach_ne_nil sep cs)
      | cons piece pieces => rfl

/-- Whole lines as a text: each is followed by a line end. -/
def closeLines (ls : List (List Char)) : List Char :=
  ls.flatMap (· ++ ['\n'])

@[simp] lemma closeLines_nil : closeLines [] = [] := rfl

lemma closeLines_cons (l : List Char) (ls : List (List Char)) :
    closeLines (l :: ls) = l ++ '\n' :: closeLines ls := by
  simp [closeLines]

lemma closeLines_append (ls ms : List (List Char)) :
    closeLines (ls ++ ms) = closeLines ls ++ closeLines ms :=
  List.flatMap_append

lemma splitAtEach_closeLines {ls : List (List Char)} (h : ∀ l ∈ ls, '\n' ∉ l) (rest : List Char) :
    splitAtEach '\n' (closeLines ls ++ rest) = ls ++ splitAtEach '\n' rest := by
  induction ls with
  | nil => rfl
  | cons l ls ih =>
    rw [closeLines_cons, List.append_assoc, List.cons_append, splitAtEach_append_cons,
      splitAtEach_eq_singleton (h l (by simp)), ih fun m hm => h m (by simp [hm])]
    rfl

lemma dropReturn_eq_self {line : List Char} (h : line.getLast? ≠ some '\r') :
    dropReturn line = line :=
  if_neg h

lemma lines_append_newline (a b : List Char) :
    lines (a ++ '\n' :: b) = (splitAtEach '\n' a).map dropReturn ++ lines b := by
  simp only [lines]
  have hb := splitAtEach_ne_nil '\n' b
  rw [splitAtEach_append_cons, List.dropLast_append_of_ne_nil hb, List.map_append,
    List.append_assoc, List.getLast?_append_of_ne_nil _ hb]

/-- Lines that hold no line end of their own are read back as they are. -/
lemma lines_closeLines {ls : List (List Char)} (h : ∀ l ∈ ls, '\n' ∉ l ∧ '\r' ∉ l)
    (rest : List Char) : lines (closeLines ls ++ rest) = ls ++ lines rest := by
  induction ls with
  | nil => rfl
  | cons l ls ih =>
    have hl := h l (by simp)
    have hr : l.getLast? ≠ some '\r' := fun he => hl.2 (List.mem_of_getLast? he)
    rw [closeLines_cons, List.append_assoc, List.cons_append, lines_append_newline,
      splitAtEach_eq_singleton hl.1, ih fun m hm => h m (by simp [hm])]
    simp [dropReturn_eq_self hr]

lemma lines_closed {ls : List (List Char)} (h : ∀ l ∈ ls, '\n' ∉ l ∧ '\r' ∉ l) :
    lines (closeLines ls) = ls := by
  have hlines := lines_closeLines h []
  rw [List.append_nil] at hlines
  rw [hlines]
  simp [lines, splitAtEach]

/-- Closing the last line of a text adds no line, and takes nothing from a line that does not
end in a carriage return. -/
lemma lines_concat_newline {c : Char} (hn : c ≠ '\n') (hr : c ≠ '\r') (cs : List Char) :
    lines (cs ++ [c] ++ ['\n']) = lines (cs ++ [c]) := by
  obtain ⟨pieces, last, h⟩ := splitAtEach_concat hn cs
  have hlast : dropReturn (last ++ [c]) = last ++ [c] :=
    dropReturn_eq_self (by simpa using hr)
  rw [lines_append_newline, h]
  simp [lines, h, hlast, splitAtEach]

/-- A text with a carriage return before every line end. -/
def withReturns (cs : List Char) : List Char :=
  cs.flatMap fun c => if c = '\n' then ['\r', '\n'] else [c]

/-- The pieces of a text with carriage returns are those of the text, each but the last with a
carriage return at its end. -/
lemma exists_splitAtEach_withReturns (cs : List Char) :
    ∃ init last, splitAtEach '\n' cs = init ++ [last] ∧
      splitAtEach '\n' (withReturns cs) = init.map (· ++ ['\r']) ++ [last] := by
  induction cs with
  | nil => exact ⟨[], [], rfl, rfl⟩
  | cons c cs ih =>
    obtain ⟨init, last, hplain, hreturns⟩ := ih
    by_cases hc : c = '\n'
    · subst hc
      refine ⟨[] :: init, last, by rw [splitAtEach, if_pos rfl, hplain]; rfl, ?_⟩
      change splitAtEach '\n' ('\r' :: '\n' :: withReturns cs) = _
      rw [splitAtEach, splitAtEach, hreturns]
      rfl
    · have hcons : withReturns (c :: cs) = c :: withReturns cs := by simp [withReturns, hc]
      rw [hcons, splitAtEach, splitAtEach, if_neg hc, if_neg hc, hplain, hreturns]
      cases init with
      | nil => exact ⟨[], c :: last, rfl, rfl⟩
      | cons piece init => exact ⟨(c :: piece) :: init, last, rfl, rfl⟩

lemma lines_of_splitAtEach {cs last : List Char} {init : List (List Char)}
    (h : splitAtEach '\n' cs = init ++ [last]) :
    lines cs = init.map dropReturn ++ [last].filter (! ·.isEmpty) := by
  rw [lines, h]
  simp

/-- The last line of a text that does not end in a line end is what follows its last line end. -/
lemma getLast?_lines_concat {c : Char} (hc : c ≠ '\n') (cs : List Char) :
    (lines (cs ++ [c])).getLast? = (splitAtEach '\n' (cs ++ [c])).getLast? := by
  obtain ⟨pieces, last, hsplit⟩ := splitAtEach_concat hc cs
  rw [lines_of_splitAtEach hsplit, hsplit]
  simp

/-- Lines that are not empty and hold no line end of their own are read back from the text that
joins them. -/
lemma lines_intercalate {ls : List (List Char)} (h : ∀ l ∈ ls, l ≠ [] ∧ '\n' ∉ l ∧ '\r' ∉ l)
    (hne : ls ≠ []) : lines (['\n'].intercalate ls) = ls := by
  obtain ⟨init, last, rfl⟩ := (List.eq_nil_or_concat ls).resolve_left hne
  rw [List.concat_eq_append] at h hne ⊢
  have hsplit := splitAtEach_intercalate (fun l hl => (h l hl).2.1) hne
  have hinit : init.map dropReturn = init.map id := by
    refine List.map_congr_left fun l hl => dropReturn_eq_self fun hreturn => ?_
    exact (h l (List.mem_append_left _ hl)).2.2 (List.mem_of_getLast? hreturn)
  have hlast : last ≠ [] := (h last (by simp)).1
  rw [lines_of_splitAtEach hsplit, hinit, List.map_id]
  simp [hlast]

end SyncScript.Text
