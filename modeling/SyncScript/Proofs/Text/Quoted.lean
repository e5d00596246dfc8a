import Mathlib.Tactic.Common
import SyncScript.Document.Scalar
import SyncScript.Text.Quoted

/-!
# Reading quoted text

Quoted text holds characters that show and nothing else, so it never takes more than one line. A
reader that goes over it character by character gets back the text that was quoted: every code ends
before the next one begins, and numbers end at a closing brace.
-/

namespace SyncScript

namespace Scalar

lemma digitValue?_digitChar {base d : Nat} (hbase : base ≤ 16) (h : d < base) :
    digitValue? base (Nat.digitChar d) = some d := by
  have hall : ∀ d < 16, digitValue? 16 (Nat.digitChar d) = some d := by decide
  have hd := hall d (by omega)
  simp only [digitValue?, Option.filter_eq_some_iff] at hd ⊢
  exact ⟨hd.1, by simpa using h⟩

lemma mem_toDigits {base n : Nat} {c : Char} (hbase : 1 < base) (h : c ∈ Nat.toDigits base n) :
    ∃ d < base, c = Nat.digitChar d := by
  induction n using Nat.strongRecOn with
  | ind n ih =>
    rcases Nat.lt_or_ge n base with hlt | hge
    · rw [Nat.toDigits_of_lt_base hlt, List.mem_singleton] at h
      exact ⟨n, hlt, h⟩
    · rw [Nat.toDigits_of_base_le hbase hge, List.mem_append, List.mem_singleton] at h
      rcases h with hfirst | hlast
      · exact ih (n / base) (Nat.div_lt_self (by omega) hbase) hfirst
      · exact ⟨n % base, Nat.mod_lt n (by omega), hlast⟩

/-- A number is read back from its digits. -/
lemma natural?_toDigits {base : Nat} (hone : 1 < base) (hbase : base ≤ 16) (n : Nat) :
    natural? base (Nat.toDigits base n) = some n := by
  have hempty : (Nat.toDigits base n).isEmpty = false := by
    simp [Nat.toDigits_ne_nil]
  rw [natural?, hempty, if_neg (by simp)]
  clear hempty
  induction n using Nat.strongRecOn with
  | ind n ih =>
    rcases Nat.lt_or_ge n base with hlt | hge
    · rw [Nat.toDigits_of_lt_base hlt]
      simp [digitValue?_digitChar hbase hlt]
    · have hlast := digitValue?_digitChar hbase (Nat.mod_lt n (by omega))
      have hrest := ih (n / base) (Nat.div_lt_self (by omega) hone)
      have hn : n / base * base + n % base = n := Nat.div_add_mod' n base
      rw [Nat.toDigits_of_base_le hone hge, List.foldlM_append, hrest]
      simp [hlast, hn]

end Scalar

namespace Text

/-! ### What quoted text holds -/

lemma isHidden_of_isControl {c : Char} (h : isControl c = true) : isHidden c = true := by
  simp only [isControl, Bool.or_eq_true, Bool.and_eq_true, decide_eq_true_eq] at h
  have hlt : c.toNat < 161 := by omega
  simp only [isHidden, if_pos hlt, Bool.or_eq_true, decide_eq_true_eq]
  omega

lemma isHidden_eq_false_of_mem_hexDigits {n : Nat} {c : Char} (h : c ∈ hexDigits n) :
    isHidden c = false := by
  have hall : ∀ d < 16, isHidden (Nat.digitChar d) = false := by decide
  obtain ⟨d, hd, rfl⟩ := Scalar.mem_toDigits (by decide) h
  exact hall d hd

lemma isHidden_eq_false_of_mem_quoteChar {c d : Char} (h : d ∈ quoteChar c) :
    isHidden d = false := by
  have hall : ['\\', '0', 't', 'n', 'r', '"', 'u', '\x7b', '\x7d'].all (! isHidden ·) = true := by
    decide
  have hmarks : ∀ d ∈ ['\\', '0', 't', 'n', 'r', '"', 'u', '\x7b', '\x7d'], isHidden d = false := by
    intro d hd
    simpa using List.all_eq_true.1 hall d hd
  unfold quoteChar at h
  split at h
  case h_7 =>
    split at h
    · simp only [List.mem_append, List.mem_cons, List.not_mem_nil, or_false] at h
      rcases h with ((rfl | rfl | rfl) | hdigit) | rfl
      · exact hmarks _ (by simp)
      · exact hmarks _ (by simp)
      · exact hmarks _ (by simp)
      · exact isHidden_eq_false_of_mem_hexDigits hdigit
      · exact hmarks _ (by simp)
    · rename_i hshown
      rw [List.mem_singleton.1 h]
      exact Bool.eq_false_iff.2 hshown
  all_goals
    simp only [List.mem_cons, List.not_mem_nil, or_false] at h
    rcases h with rfl | rfl <;> exact hmarks _ (by simp)

/-- Every character of quoted text shows. -/
lemma isHidden_eq_false_of_mem_quoted {s : String} {c : Char} (h : c ∈ (quoted s).toList) :
    isHidden c = false := by
  have hquote : isHidden '"' = false := by decide
  rw [quoted, String.toList_ofList] at h
  simp only [List.cons_append, List.mem_cons, List.mem_append, List.mem_flatMap, List.not_mem_nil,
    or_false] at h
  rcases h with rfl | ⟨d, -, hd⟩ | rfl
  · exact hquote
  · exact isHidden_eq_false_of_mem_quoteChar hd
  · exact hquote

/-! ### The reader -/

/-- Where the reader of quoted text stands: between two codes, after a backslash, ahead of the
number of a character, or among its digits. -/
inductive QuoteMode where
  | plain
  | escape
  | opening
  | number (digits : List Char)

/-- The character that a letter after a backslash stands for. -/
def namedChar? : Char → Option Char
  | '0' => some '\x00'
  | 't' => some '\t'
  | 'n' => some '\n'
  | 'r' => some '\r'
  | '"' => some '"'
  | '\\' => some '\\'
  | _ => none

/-- The character with a number that is given in digits to the base 16. -/
def numberedChar? (digits : List Char) : Option Char :=
  (Scalar.natural? 16 digits).bind fun n => if n.isValidChar then some (Char.ofNat n) else none

/-- The characters up to a closing quote, behind those that were read before, and what follows the
quote. -/
def readQuoted? (mode : QuoteMode) (before : List Char) : List Char → Option (List Char × List Char)
  | [] => none
  | c :: cs =>
    match mode with
    | .plain =>
      if c = '"' then some (before, cs)
      else if c = '\\' then readQuoted? .escape before cs
      else readQuoted? .plain (before ++ [c]) cs
    | .escape =>
      if c = 'u' then readQuoted? .opening before cs
      else (namedChar? c).bind fun named => readQuoted? .plain (before ++ [named]) cs
    | .opening => if c = '\x7b' then readQuoted? (.number []) before cs else none
    | .number digits =>
      if c = '\x7d' then
        (numberedChar? digits).bind fun numbered => readQuoted? .plain (before ++ [numbered]) cs
      else readQuoted? (.number (digits ++ [c])) before cs

/-- The text that is quoted at the front of another text, and what follows its closing quote. -/
def unquote? : List Char → Option (String × List Char)
  | '"' :: cs => (readQuoted? .plain [] cs).map fun (text, rest) => (String.ofList text, rest)
  | _ => none

lemma numberedChar?_hexDigits (c : Char) : numberedChar? (hexDigits c.toNat) = some c := by
  have hnumber : Scalar.natural? 16 (hexDigits c.toNat) = some c.toNat :=
    Scalar.natural?_toDigits (by decide) (by decide) c.toNat
  have hvalid : c.toNat.isValidChar := c.valid
  rw [numberedChar?, hnumber, Option.bind_some, if_pos hvalid, Char.ofNat_toNat]

lemma readQuoted?_digits {digits : List Char} (h : '\x7d' ∉ digits) (first before cs : List Char) :
    readQuoted? (.number first) before (digits ++ cs) =
      readQuoted? (.number (first ++ digits)) before cs := by
  induction digits generalizing first with
  | nil => simp
  | cons c digits ih =>
    rw [List.mem_cons, not_or] at h
    rw [List.cons_append, readQuoted?, if_neg (Ne.symm h.1), ih h.2, List.append_assoc,
      List.singleton_append]

lemma brace_not_mem_hexDigits (n : Nat) : '\x7d' ∉ hexDigits n := by
  have hall : ∀ d < 16, '\x7d' ≠ Nat.digitChar d := by decide
  intro h
  obtain ⟨d, hd, heq⟩ := Scalar.mem_toDigits (by decide) h
  exact hall d hd heq

/-- The code of a character is read as this character. -/
lemma readQuoted?_quoteChar (c : Char) (before cs : List Char) :
    readQuoted? .plain before (quoteChar c ++ cs) = readQuoted? .plain (before ++ [c]) cs := by
  unfold quoteChar
  split
  case h_7 hquote hslash =>
    split
    · simp only [List.cons_append, List.nil_append, List.append_assoc]
      rw [readQuoted?, if_neg (by decide), if_pos rfl, readQuoted?, if_pos rfl, readQuoted?,
        if_pos rfl, readQuoted?_digits (brace_not_mem_hexDigits _), List.nil_append, readQuoted?,
        if_pos rfl, numberedChar?_hexDigits, Option.bind_some]
    · rw [List.singleton_append, readQuoted?, if_neg hquote, if_neg hslash]
  all_goals rfl

lemma readQuoted?_flatMap (text before cs : List Char) :
    readQuoted? .plain before (text.flatMap quoteChar ++ cs) =
      readQuoted? .plain (before ++ text) cs := by
  induction text generalizing before with
  | nil => simp
  | cons c text ih =>
    rw [List.flatMap_cons, List.append_assoc, readQuoted?_quoteChar, ih, List.append_assoc,
      List.singleton_append]

/-- Quoted text is read back, whatever follows it. -/
lemma unquote?_quoted (s : String) (rest : List Char) :
    unquote? ((quoted s).toList ++ rest) = some (s, rest) := by
  have htext : (quoted s).toList ++ rest = '"' :: (s.toList.flatMap quoteChar ++ '"' :: rest) := by
    rw [quoted, String.toList_ofList]
    simp
  have hread : readQuoted? .plain [] (s.toList.flatMap quoteChar ++ '"' :: rest) =
      some (s.toList, rest) := by
    rw [readQuoted?_flatMap, List.nil_append, readQuoted?, if_pos rfl]
  rw [htext, unquote?, hread]
  simp only [Option.map_some, String.ofList_toList]

end Text

end SyncScript
