import Mathlib.Computability.Language
import SyncScript.Proofs.Lint.Shape
import SyncScript.Proofs.Lint.Trimmed

/-!
# The grammar of spaced assignments

The lines that the rule for assignments is about form a regular language: an indent, an identifier,
an equals sign with gaps on one of its sides, the first character of a value, and anything. A line
is reported exactly when it belongs to this language, holds no `[` and holds no word `if`.
-/

namespace SyncScript

/-- A word that stands in a text with no word character right before it or right after it. -/
def Text.HasWord (word cs : List Char) : Prop :=
  ∃ before after, cs = before ++ word ++ after ∧
    (∀ c ∈ before.getLast?, isWordChar c = false) ∧ ∀ c ∈ after.head?, isWordChar c = false

section Words

lemma completesIf_iff (cs : List Char) :
    completesIf cs = true ↔
      ∃ after, cs = 'f' :: after ∧ ∀ c ∈ after.head?, Text.isWordChar c = false := by
  match cs with
  | [] => simp [completesIf]
  | [c] =>
    by_cases hc : c = 'f'
    · simp [hc, completesIf]
    · simp [hc, completesIf]
  | c :: d :: cs =>
    by_cases hc : c = 'f'
    · simp [hc, completesIf]
    · simp [hc, completesIf]

/-- What the search for `if` finds when it starts in the middle of a line: before the first
character of the text there may stand a word character. -/
lemma hasIfWord_iff_of_inWord (inWord : Bool) (cs : List Char) :
    hasIfWord inWord cs = true ↔
      ∃ before after, cs = before ++ 'i' :: 'f' :: after ∧
        (before.getLast?.map Text.isWordChar).getD inWord = false ∧
        ∀ c ∈ after.head?, Text.isWordChar c = false := by
  induction cs generalizing inWord with
  | nil => simp [hasIfWord]
  | cons c cs ih =>
    rw [hasIfWord_cons, Bool.or_eq_true, ih]
    constructor
    · rintro (h | ⟨before, after, rfl, hbefore, hafter⟩)
      · simp only [Bool.and_eq_true, Bool.not_eq_true', beq_iff_eq, completesIf_iff] at h
        obtain ⟨⟨hin, rfl⟩, after, rfl, hafter⟩ := h
        exact ⟨[], after, rfl, hin, hafter⟩
      · refine ⟨c :: before, after, rfl, ?_, hafter⟩
        rw [List.getLast?_cons]
        cases hlast : before.getLast? <;> simpa [hlast] using hbefore
    · rintro ⟨before, after, hcs, hbefore, hafter⟩
      cases before with
      | nil =>
        rw [List.nil_append, List.cons.injEq] at hcs
        obtain ⟨rfl, rfl⟩ := hcs
        have hin : inWord = false := hbefore
        refine Or.inl ?_
        simp only [hin, Bool.not_false, beq_self_eq_true, Bool.true_and, completesIf_iff]
        exact ⟨after, rfl, hafter⟩
      | cons d before =>
        rw [List.cons_append, List.cons.injEq] at hcs
        obtain ⟨rfl, rfl⟩ := hcs
        refine Or.inr ⟨before, after, rfl, ?_, hafter⟩
        rw [List.getLast?_cons] at hbefore
        cases hlast : before.getLast? <;> simpa [hlast] using hbefore

/-- The search finds `if` exactly where it is a whole word. -/
lemma hasIfWord_iff (cs : List Char) :
    hasIfWord false cs = true ↔ Text.HasWord ['i', 'f'] cs := by
  rw [hasIfWord_iff_of_inWord]
  refine exists_congr fun before => exists_congr fun after => ?_
  have hbefore : (before.getLast?.map Text.isWordChar).getD false = false ↔
      ∀ c ∈ before.getLast?, Text.isWordChar c = false := by
    cases before.getLast? <;> simp
  rw [hbefore]
  simp

end Words

namespace Grammar

open scoped Computability

/-- The texts of one character of a class. -/
def oneOf (p : Char → Prop) : Language Char :=
  {cs | ∃ c, cs = [c] ∧ p c}

def IsLetter (c : Char) : Prop :=
  ('a' ≤ c ∧ c ≤ 'z') ∨ ('A' ≤ c ∧ c ≤ 'Z') ∨ c = '_'

def IsDigit (c : Char) : Prop :=
  '0' ≤ c ∧ c ≤ '9'

/-- A name of ASCII letters, digits and underscores that begins with no digit. -/
def identifier : Language Char :=
  oneOf IsLetter * (oneOf fun c => IsLetter c ∨ IsDigit c)∗

def gap : Language Char :=
  oneOf fun c => c = ' ' ∨ c = '\t'

def equals : Language Char :=
  oneOf (· = '=')

/-- Lines that begin as an assignment with a gap before the equals sign, after it, or both. -/
def spacedAssignment : Language Char :=
  (oneOf (Text.isSpace · = true))∗ * identifier *
    (gap * gap∗ * equals * gap∗ + equals * (gap * gap∗)) *
    oneOf (Text.isSpace · = false) * ⊤

lemma mem_oneOf {p : Char → Prop} {cs : List Char} : cs ∈ oneOf p ↔ ∃ c, cs = [c] ∧ p c :=
  Iff.rfl

lemma mem_kstar_oneOf {p : Char → Prop} {cs : List Char} :
    cs ∈ (oneOf p)∗ ↔ ∀ c ∈ cs, p c := by
  rw [Language.mem_kstar]
  constructor
  · rintro ⟨pieces, rfl, hpieces⟩ c hc
    obtain ⟨piece, hpiece, hc⟩ := List.mem_flatten.1 hc
    obtain ⟨d, rfl, hd⟩ := hpieces piece hpiece
    rw [List.mem_singleton.1 hc]
    exact hd
  · intro h
    have hcs : cs = (cs.map fun c => [c]).flatten := by
      rw [← List.flatMap_def, List.flatMap_singleton']
    refine ⟨cs.map fun c => [c], hcs, fun piece hpiece => ?_⟩
    obtain ⟨c, hc, rfl⟩ := List.mem_map.1 hpiece
    exact ⟨c, rfl, h c hc⟩

/-- A character of one class, then characters of another. -/
lemma mem_oneOf_mul_kstar {p q : Char → Prop} {cs : List Char} :
    cs ∈ oneOf p * (oneOf q)∗ ↔ ∃ c rest, cs = c :: rest ∧ p c ∧ ∀ d ∈ rest, q d := by
  simp only [Language.mem_mul, mem_kstar_oneOf]
  constructor
  · rintro ⟨_, ⟨c, rfl, hc⟩, rest, hrest, rfl⟩
    exact ⟨c, rest, rfl, hc, hrest⟩
  · rintro ⟨c, rest, rfl, hc, hrest⟩
    exact ⟨[c], ⟨c, rfl, hc⟩, rest, hrest, rfl⟩

lemma isNameStart_iff (c : Char) : isNameStart c = true ↔ IsLetter c := by
  have hlower : c.isLower = true ↔ 'a' ≤ c ∧ c ≤ 'z' := by
    unfold Char.isLower
    simp [Char.le_def]
  have hupper : c.isUpper = true ↔ 'A' ≤ c ∧ c ≤ 'Z' := by
    unfold Char.isUpper
    simp [Char.le_def]
  unfold isNameStart Char.isAlpha IsLetter
  rw [Bool.or_eq_true, Bool.or_eq_true, hlower, hupper, beq_iff_eq]
  tauto

lemma isNameChar_iff (c : Char) : isNameChar c = true ↔ IsLetter c ∨ IsDigit c := by
  have hdigit : c.isDigit = true ↔ IsDigit c := by
    unfold Char.isDigit IsDigit
    simp [Char.le_def]
  rw [← isNameStart_iff, ← hdigit]
  unfold isNameChar isNameStart Char.isAlphanum
  simp only [Bool.or_eq_true]
  tauto

lemma isGap_iff (c : Char) : isGap c = true ↔ c = ' ' ∨ c = '\t' := by
  simp [isGap]

lemma mem_identifier {cs : List Char} :
    cs ∈ identifier ↔
      ∃ c rest, cs = c :: rest ∧ isNameStart c = true ∧ ∀ d ∈ rest, isNameChar d = true := by
  simp only [identifier, mem_oneOf_mul_kstar, isNameStart_iff, isNameChar_iff]

lemma mem_gap_kstar {cs : List Char} : cs ∈ gap∗ ↔ ∀ c ∈ cs, isGap c = true := by
  simp only [gap, mem_kstar_oneOf, isGap_iff]

lemma mem_gap_mul_kstar {cs : List Char} :
    cs ∈ gap * gap∗ ↔ cs ≠ [] ∧ ∀ c ∈ cs, isGap c = true := by
  simp only [gap, mem_oneOf_mul_kstar, ← isGap_iff]
  cases cs with
  | nil => simp
  | cons c cs => simp

/-- The two ways to space an equals sign are those that leave a gap on at least one side. -/
lemma mem_spacedEquals {cs : List Char} :
    cs ∈ gap * gap∗ * equals * gap∗ + equals * (gap * gap∗) ↔
      ∃ before after, cs = before ++ '=' :: after ∧ (∀ c ∈ before, isGap c = true) ∧
        (∀ c ∈ after, isGap c = true) ∧ (before ≠ [] ∨ after ≠ []) := by
  rw [Language.mem_add, Language.mem_mul, Language.mem_mul]
  simp only [Language.mem_mul (l := gap * gap∗), mem_gap_mul_kstar, mem_gap_kstar]
  constructor
  · rintro (⟨_, ⟨before, ⟨hne, hbefore⟩, _, ⟨_, rfl, rfl⟩, rfl⟩, after, hafter, rfl⟩ |
      ⟨_, ⟨_, rfl, rfl⟩, after, ⟨hne, hafter⟩, rfl⟩)
    · exact ⟨before, after, by simp, hbefore, hafter, Or.inl hne⟩
    · exact ⟨[], after, rfl, by simp, hafter, Or.inr hne⟩
  · rintro ⟨before, after, rfl, hbefore, hafter, hne⟩
    cases before with
    | nil =>
      have hne : after ≠ [] := by simpa using hne
      exact Or.inr ⟨['='], ⟨'=', rfl, rfl⟩, after, ⟨hne, hafter⟩, rfl⟩
    | cons c before =>
      refine Or.inl ⟨(c :: before) ++ ['='], ⟨c :: before, ⟨by simp, hbefore⟩, ['='],
        ⟨'=', rfl, rfl⟩, rfl⟩, after, hafter, by simp⟩

/-- A line of the grammar is one that begins with a spaced assignment. -/
lemma mem_spacedAssignment {line : List Char} :
    line ∈ spacedAssignment ↔ ∃ a : SpacedAssignment, a.text <+: line := by
  rw [spacedAssignment, Language.mem_mul]
  simp only [Language.mem_mul (m := oneOf (Text.isSpace · = false)),
    Language.mem_mul (l := (oneOf (Text.isSpace · = true))∗ * identifier),
    Language.mem_mul (m := identifier), mem_kstar_oneOf, mem_identifier, mem_spacedEquals,
    mem_oneOf]
  constructor
  · rintro ⟨_, ⟨_, ⟨_, ⟨indent, hindent, _, ⟨start, name, rfl, hstart, hname⟩, rfl⟩, _,
      ⟨before, after, rfl, hbefore, hafter, hne⟩, rfl⟩, _, ⟨value, rfl, hvalue⟩, rfl⟩, rest, -, rfl⟩
    refine ⟨⟨indent, start, name, before, after, value, hindent, hstart, hname, hbefore, hafter,
      hvalue, hne⟩, rest, ?_⟩
    simp [SpacedAssignment.text]
  · rintro ⟨a, rest, rfl⟩
    refine ⟨a.text, ⟨_, ⟨_, ⟨a.indent, a.isSpace_indent, _, ⟨a.start, a.name, rfl,
      a.isNameStart_start, a.isNameChar_name⟩, rfl⟩, _, ⟨a.before, a.after, rfl, a.isGap_before,
      a.isGap_after, a.spaced⟩, rfl⟩, [a.value], ⟨a.value, rfl, a.isSpace_value⟩, ?_⟩, rest,
      trivial, rfl⟩
    simp [SpacedAssignment.text]

/-- An assignment without a gap on either side of its equals sign does not look like a spaced one,
whatever else its value holds. -/
lemma looksLikeSpacedAssignment_plain {indent name value : List Char}
    (hindent : ∀ c ∈ indent, Text.isSpace c = true) (hname : name ∈ identifier)
    (hvalue : ∀ c ∈ value.head?, isGap c = false) :
    looksLikeSpacedAssignment (indent ++ name ++ '=' :: value) = false := by
  obtain ⟨start, rest, rfl, hstart, hrest⟩ := mem_identifier.1 hname
  have htrim : Text.trimStart (indent ++ start :: rest ++ '=' :: value) =
      start :: (rest ++ '=' :: value) := by
    rw [Text.trimStart, List.append_assoc, List.cons_append, dropWhile_append_cons hindent
      (isSpace_eq_false_of_isNameStart hstart)]
  have hequals : (rest ++ '=' :: value).dropWhile isNameChar = '=' :: value :=
    dropWhile_append_cons hrest (by decide)
  have hgap : ('=' :: value).dropWhile isGap = '=' :: value :=
    List.dropWhile_cons_of_neg (by decide)
  have hhead : value.head?.any isGap = false := by
    cases hd : value.head? with
    | none => rfl
    | some c => exact hvalue c (by simp [hd])
  have hsign : isGap '=' = false := by decide
  unfold looksLikeSpacedAssignment
  rw [htrim]
  simp only [hequals, hgap, List.head?_cons, Option.any_some, hsign, hhead, Bool.or_false,
    Bool.and_false]
  split <;> simp

end Grammar

open Grammar

/-- On a line that is neither blank nor a comment the rule for assignments reports exactly the lines
of its grammar that hold no `[` and no word `if`. An assignment without gaps around its equals
sign is never reported. -/
theorem assignmentSpacing_reports_iff {text : String} {n : Nat} {line : List Char}
    (h : (Text.lines text.toList)[n]? = some line) :
    (Text.trim line ≠ [] → (Text.trim line).head? ≠ some '#' →
      (Reports text "SC1068" (n + 1) ↔
        '[' ∉ line ∧ ¬ Text.HasWord ['i', 'f'] line ∧ line ∈ spacedAssignment)) ∧
    ∀ indent name value : List Char, (∀ c ∈ indent, Text.isSpace c = true) → name ∈ identifier →
      value.head? ≠ some ' ' → value.head? ≠ some '\t' → line = indent ++ name ++ '=' :: value →
      ¬ Reports text "SC1068" (n + 1) := by
  constructor
  · intro hblank hcomment
    have hreports : Reports text "SC1068" (n + 1) ↔ isSpacedAssignment line = true :=
      reports_iff_flags h hblank hcomment .assignmentSpacing
    rw [hreports, mem_spacedAssignment, ← looksLikeSpacedAssignment_iff, ← hasIfWord_iff]
    simp [isSpacedAssignment, and_assoc]
  · rintro indent name value hindent hname hspace htab rfl hreported
    have hvalue : ∀ c ∈ value.head?, isGap c = false := by
      intro c hc
      rw [Option.mem_def] at hc
      rw [hc, ne_eq, Option.some.injEq] at hspace htab
      rw [← Bool.not_eq_true, isGap_iff]
      exact not_or.2 ⟨hspace, htab⟩
    have hflags : isSpacedAssignment (indent ++ name ++ '=' :: value) = true :=
      ((reports_iff h .assignmentSpacing).1 hreported).2
    rw [isSpacedAssignment, looksLikeSpacedAssignment_plain hindent hname hvalue,
      Bool.and_false] at hflags
    cases hflags

/-- A name that holds the letters `if` is reported like any other; a value that holds a spaced
equals sign is not. -/
theorem assignmentSpacing_reports_iff_verify :
    (Text.lines "\tverify =x\nFOO=a = b\n".toList)[0]? = some "\tverify =x".toList ∧
      ¬ Text.HasWord ['i', 'f'] "\tverify =x".toList ∧ "\tverify =x".toList ∈ spacedAssignment ∧
      (Text.lines "\tverify =x\nFOO=a = b\n".toList)[1]? =
        some ([] ++ "FOO".toList ++ '=' :: "a = b".toList) ∧
      ¬ Reports "\tverify =x\nFOO=a = b\n" "SC1068" 2 := by
  have hfirst : (Text.lines "\tverify =x\nFOO=a = b\n".toList)[0]? = some "\tverify =x".toList := by
    repeat rw [String.toList_ofList]
    decide
  have hsecond : (Text.lines "\tverify =x\nFOO=a = b\n".toList)[1]? =
      some ([] ++ "FOO".toList ++ '=' :: "a = b".toList) := by
    repeat rw [String.toList_ofList]
    decide
  have hname : "FOO".toList ∈ identifier := by
    rw [String.toList_ofList]
    exact mem_identifier.2 ⟨'F', ['O', 'O'], rfl, by decide, by simp [isNameChar]⟩
  have hreports := ((assignmentSpacing_reports_iff hfirst).1 (by decide) (by decide)).1 (by decide)
  exact ⟨hfirst, hreports.2.1, hreports.2.2, hsecond, (assignmentSpacing_reports_iff hsecond).2 []
    "FOO".toList "a = b".toList (by simp) hname (by decide) (by decide) rfl⟩

end SyncScript
