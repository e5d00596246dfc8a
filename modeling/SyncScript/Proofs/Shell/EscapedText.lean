import Mathlib.Data.List.DropRight
import SyncScript.Proofs.Shell.Words

/-!
# Escaped text

`Shell.escape` puts a backslash before each character that keeps a meaning between double quotes,
the backslash among them. Within a row of backslashes it is therefore the number of those before it
that tells whether one begins a pair or ends one. The escaped texts are exactly those in which every
special character belongs to a pair, and taking the pairs apart leads back to the text as it was.
-/

namespace SyncScript.Shell

/-- The characters that a backslash takes the meaning from between double quotes. -/
def specials : List Char := ['\\', '"', '$', '\x60']

variable {a cs : List Char} {c d : Char} {i : Nat}

lemma isSpecial_iff_mem : isSpecial c = true ↔ c ∈ specials := by
  simp [isSpecial_iff, specials, startsExpansion]

lemma backslash_mem_specials : '\\' ∈ specials :=
  List.mem_cons_self

lemma ne_backslash_of_notMem (h : c ∉ specials) : c ≠ '\\' :=
  fun heq => h (heq ▸ backslash_mem_specials)

/-! ### What escaping writes -/

lemma escapeChars_cons_of_mem (h : c ∈ specials) (cs : List Char) :
    escapeChars (c :: cs) = '\\' :: c :: escapeChars cs := by
  rw [escapeChars, if_pos (isSpecial_iff_mem.2 h)]

lemma escapeChars_cons_of_notMem (h : c ∉ specials) (cs : List Char) :
    escapeChars (c :: cs) = c :: escapeChars cs := by
  rw [escapeChars, if_neg (mt isSpecial_iff_mem.1 h)]

lemma escapeChars_append (a b : List Char) :
    escapeChars (a ++ b) = escapeChars a ++ escapeChars b := by
  induction a with
  | nil => rfl
  | cons c a ih =>
    by_cases hc : c ∈ specials
    · rw [List.cons_append, escapeChars_cons_of_mem hc, escapeChars_cons_of_mem hc, ih]
      rfl
    · rw [List.cons_append, escapeChars_cons_of_notMem hc, escapeChars_cons_of_notMem hc, ih]
      rfl

/-- Each special character takes one place more. -/
lemma length_escapeChars (cs : List Char) :
    (escapeChars cs).length = cs.length + cs.countP (· ∈ specials) := by
  induction cs with
  | nil => rfl
  | cons c cs ih =>
    by_cases hc : c ∈ specials
    · rw [escapeChars_cons_of_mem hc, List.countP_cons_of_pos (by simpa using hc)]
      simp only [List.length_cons, ih]
      omega
    · rw [escapeChars_cons_of_notMem hc, List.countP_cons_of_neg (by simpa using hc)]
      simp only [List.length_cons, ih]
      omega

lemma escapeChars_eq_self_iff : escapeChars cs = cs ↔ ∀ c ∈ specials, c ∉ cs := by
  constructor
  · intro h c hspecial hmem
    have hlength := length_escapeChars cs
    have hcount : 0 < cs.countP (· ∈ specials) :=
      List.countP_pos_iff.2 ⟨c, hmem, by simpa using hspecial⟩
    rw [h] at hlength
    omega
  · intro h
    induction cs with
    | nil => rfl
    | cons c cs ih =>
      have hc : c ∉ specials := fun hmem => h c hmem List.mem_cons_self
      have hcs : ∀ d ∈ specials, d ∉ cs := fun d hd hmem => h d hd (List.mem_cons_of_mem c hmem)
      rw [escapeChars_cons_of_notMem hc, ih hcs]

/-! ### Pairs -/

/-- The row of backslashes at the end of the text has an odd number of them: all but the last one
belong to pairs, and the last one goes with what comes next. -/
def EndsOpen (cs : List Char) : Prop :=
  (cs.rtakeWhile (· = '\\')).length % 2 = 1

instance : DecidablePred EndsOpen :=
  fun cs => inferInstanceAs (Decidable ((cs.rtakeWhile (· = '\\')).length % 2 = 1))

lemma not_endsOpen_nil : ¬ EndsOpen [] := by
  decide

lemma endsOpen_concat (cs : List Char) (c : Char) :
    EndsOpen (cs ++ [c]) ↔ c = '\\' ∧ ¬ EndsOpen cs := by
  by_cases hc : c = '\\'
  · have hrow : (cs ++ [c]).rtakeWhile (· = '\\') = cs.rtakeWhile (· = '\\') ++ [c] :=
      List.rtakeWhile_concat_pos _ cs c (by simpa using hc)
    rw [EndsOpen, hrow, List.length_append, List.length_singleton, and_iff_right hc, EndsOpen]
    omega
  · have hrow : (cs ++ [c]).rtakeWhile (· = '\\') = [] :=
      List.rtakeWhile_concat_neg _ cs c (by simpa using hc)
    simp [EndsOpen, hrow, hc]

lemma not_endsOpen_singleton (h : c ≠ '\\') : ¬ EndsOpen [c] :=
  fun hopen => h ((endsOpen_concat [] c).1 hopen).1

lemma not_endsOpen_two (d : Char) : ¬ EndsOpen ['\\', d] := by
  have hopen : EndsOpen ['\\'] := by decide
  exact fun h => ((endsOpen_concat ['\\'] d).1 h).2 hopen

lemma endsOpen_take_succ (h : i < cs.length) :
    EndsOpen (cs.take (i + 1)) ↔ cs[i] = '\\' ∧ ¬ EndsOpen (cs.take i) := by
  rw [← List.take_append_getElem h, endsOpen_concat]

/-- A part that does not end open has no influence on what comes after it, so pairs can be looked
for in each part on its own. -/
lemma endsOpen_append (h : ¬ EndsOpen a) (b : List Char) : EndsOpen (a ++ b) ↔ EndsOpen b := by
  induction b using List.reverseRecOn with
  | nil => simpa [not_endsOpen_nil] using h
  | append_singleton b c ih => rw [← List.append_assoc, endsOpen_concat, endsOpen_concat, ih]

/-- A pair begins at the position: a backslash stands there that is not the second half of a pair,
and a special character right after it. -/
def PairAt (cs : List Char) (i : Nat) : Prop :=
  ¬ EndsOpen (cs.take i) ∧ cs[i]? = some '\\' ∧ ∃ c ∈ specials, cs[i + 1]? = some c

instance (cs : List Char) : DecidablePred (PairAt cs) :=
  fun i => inferInstanceAs (Decidable (¬ EndsOpen (cs.take i) ∧ cs[i]? = some '\\' ∧
    ∃ c ∈ specials, cs[i + 1]? = some c))

lemma PairAt.lt (h : PairAt cs i) : i + 1 < cs.length := by
  obtain ⟨-, -, c, -, hc⟩ := h
  exact (List.getElem?_eq_some_iff.1 hc).1

lemma not_pairAt_singleton : ¬ PairAt [c] 0 :=
  fun h => absurd h.lt (by simp)

lemma pairAt_two_iff : PairAt ['\\', d] 0 ↔ d ∈ specials := by
  simp [PairAt, not_endsOpen_nil]

lemma pairAt_append_left (h : ¬ EndsOpen a) (b : List Char) (hi : i < a.length) :
    PairAt (a ++ b) i ↔ PairAt a i := by
  rcases Nat.lt_or_ge (i + 1) a.length with hlt | hge
  · rw [PairAt, List.take_append_of_le_length hi.le, List.getElem?_append_left hi,
      List.getElem?_append_left hlt, PairAt]
  · have hall : a.take (i + 1) = a := List.take_of_length_le hge
    constructor
    · -- If a pair began at its last position, the part would end open.
      rintro ⟨hbefore, hback, -⟩
      rw [List.take_append_of_le_length hi.le] at hbefore
      rw [List.getElem?_append_left hi, List.getElem?_eq_getElem hi, Option.some_inj] at hback
      rw [← hall] at h
      exact absurd ((endsOpen_take_succ hi).2 ⟨hback, hbefore⟩) h
    · intro hpair
      exact absurd hpair.lt (by omega)

lemma pairAt_append_right (h : ¬ EndsOpen a) (b : List Char) (i : Nat) :
    PairAt (a ++ b) (a.length + i) ↔ PairAt b i := by
  have hget : ∀ j, (a ++ b)[a.length + j]? = b[j]? := fun j => by
    rw [List.getElem?_append_right (Nat.le_add_right _ _), Nat.add_sub_cancel_left]
  rw [PairAt, List.take_length_add_append, endsOpen_append h, hget, Nat.add_assoc, hget, PairAt]

/-- One of the two positions of a pair. -/
def InPair (cs : List Char) (i : Nat) : Prop :=
  PairAt cs i ∨ ∃ j, i = j + 1 ∧ PairAt cs j

lemma inPair_append_left (h : ¬ EndsOpen a) (b : List Char) (hi : i < a.length) :
    InPair (a ++ b) i ↔ InPair a i := by
  refine or_congr (pairAt_append_left h b hi) (exists_congr fun j => and_congr_right fun hj => ?_)
  exact pairAt_append_left h b (by omega)

lemma inPair_append_right (h : ¬ EndsOpen a) (b : List Char) (i : Nat) :
    InPair (a ++ b) (a.length + i) ↔ InPair b i := by
  refine or_congr (pairAt_append_right h b i) ⟨?_, ?_⟩
  · rintro ⟨j, hj, hpair⟩
    rcases Nat.lt_or_ge j a.length with hlt | hge
    · have hlast := ((pairAt_append_left h b hlt).1 hpair).lt
      omega
    · obtain ⟨k, rfl⟩ := Nat.exists_eq_add_of_le hge
      exact ⟨k, by omega, (pairAt_append_right h b k).1 hpair⟩
  · rintro ⟨j, rfl, hpair⟩
    exact ⟨a.length + j, rfl, (pairAt_append_right h b j).2 hpair⟩

/-! ### Texts in pairs -/

/-- Every special character of the text is one half of a pair. -/
def IsPaired (cs : List Char) : Prop :=
  ∀ i (hi : i < cs.length), cs[i] ∈ specials → InPair cs i

lemma isPaired_nil : IsPaired [] :=
  fun i hi => absurd hi (Nat.not_lt_zero i)

lemma isPaired_singleton : IsPaired [c] ↔ c ∉ specials := by
  simp [IsPaired, InPair, not_pairAt_singleton]

lemma isPaired_two : IsPaired ['\\', d] ↔ d ∈ specials := by
  constructor
  · intro h
    rcases h 0 (by simp) backslash_mem_specials with hpair | ⟨j, hj, -⟩
    · exact pairAt_two_iff.1 hpair
    · omega
  · intro hd i hi _
    match i, hi with
    | 0, _ => exact Or.inl (pairAt_two_iff.2 hd)
    | 1, _ => exact Or.inr ⟨0, rfl, pairAt_two_iff.2 hd⟩

lemma isPaired_append (h : ¬ EndsOpen a) (b : List Char) :
    IsPaired (a ++ b) ↔ IsPaired a ∧ IsPaired b := by
  have hlength : (a ++ b).length = a.length + b.length := List.length_append
  constructor
  · intro hab
    constructor
    · intro i hi hmem
      have hpair := hab i (by omega) (by rwa [List.getElem_append_left hi])
      exact (inPair_append_left h b hi).1 hpair
    · intro i hi hmem
      have hpair := hab (a.length + i) (by omega) (by simpa using hmem)
      exact (inPair_append_right h b i).1 hpair
  · rintro ⟨ha, hb⟩ i hi hmem
    rcases Nat.lt_or_ge i a.length with hlt | hge
    · rw [List.getElem_append_left hlt] at hmem
      exact (inPair_append_left h b hlt).2 (ha i hlt hmem)
    · obtain ⟨k, rfl⟩ := Nat.exists_eq_add_of_le hge
      exact (inPair_append_right h b k).2 (hb k (by omega) (by simpa using hmem))

lemma isPaired_cons (h : c ≠ '\\') : IsPaired (c :: cs) ↔ c ∉ specials ∧ IsPaired cs := by
  rw [← List.singleton_append, isPaired_append (not_endsOpen_singleton h), isPaired_singleton]

lemma isPaired_backslash : IsPaired ('\\' :: d :: cs) ↔ d ∈ specials ∧ IsPaired cs := by
  have happend := isPaired_append (not_endsOpen_two d) cs
  rwa [isPaired_two] at happend

/-- All characters of the text but those at which a pair begins. -/
def unmarked (cs : List Char) : List Char :=
  (List.range cs.length).filterMap fun i => if PairAt cs i then none else cs[i]?

lemma unmarked_singleton : unmarked [c] = [c] := by
  simp [unmarked, not_pairAt_singleton]

lemma unmarked_two : unmarked ['\\', d] = if d ∈ specials then [d] else ['\\', d] := by
  have hlast : ¬ PairAt ['\\', d] 1 := fun h => absurd h.lt (by simp)
  by_cases hd : d ∈ specials <;> simp [unmarked, List.range_succ, pairAt_two_iff, hlast, hd]

lemma unmarked_append (h : ¬ EndsOpen a) (b : List Char) :
    unmarked (a ++ b) = unmarked a ++ unmarked b := by
  rw [unmarked, List.length_append, List.range_add, List.filterMap_append, List.filterMap_map]
  congr 1
  · refine List.filterMap_congr fun i hi => ?_
    have hlt : i < a.length := List.mem_range.1 hi
    rw [if_congr (pairAt_append_left h b hlt) rfl rfl, List.getElem?_append_left hlt]
  · refine List.filterMap_congr fun i _ => ?_
    rw [Function.comp_apply, if_congr (pairAt_append_right h b i) rfl rfl,
      List.getElem?_append_right (Nat.le_add_right _ _), Nat.add_sub_cancel_left]

lemma unmarked_cons (h : c ≠ '\\') (cs : List Char) : unmarked (c :: cs) = c :: unmarked cs := by
  rw [← List.singleton_append, unmarked_append (not_endsOpen_singleton h), unmarked_singleton,
    List.singleton_append]

lemma unmarked_backslash (d : Char) (cs : List Char) :
    unmarked ('\\' :: d :: cs) = (if d ∈ specials then [d] else ['\\', d]) ++ unmarked cs := by
  have happend := unmarked_append (not_endsOpen_two d) cs
  rwa [unmarked_two] at happend

/-! ### Taking the pairs apart -/

/-- Reads a backslash together with the character after it, and drops it if that one is special. -/
def unescapeChars : List Char → List Char
  | [] => []
  | [c] => [c]
  | c :: d :: cs =>
    if c ≠ '\\' then c :: unescapeChars (d :: cs)
    else if d ∈ specials then d :: unescapeChars cs
    else c :: d :: unescapeChars cs

/-- The text that an escaped one stands for. -/
def unescape (s : String) : String :=
  String.ofList (unescapeChars s.toList)

lemma unescapeChars_cons (h : c ≠ '\\') (cs : List Char) :
    unescapeChars (c :: cs) = c :: unescapeChars cs := by
  cases cs with
  | nil => rfl
  | cons d cs => rw [unescapeChars, if_pos h]

lemma unescapeChars_pair (h : d ∈ specials) (cs : List Char) :
    unescapeChars ('\\' :: d :: cs) = d :: unescapeChars cs := by
  rw [unescapeChars, if_neg (by simp), if_pos h]

/-- The backslashes that are dropped are those at which a pair begins. -/
lemma unescapeChars_eq_unmarked (cs : List Char) : unescapeChars cs = unmarked cs := by
  fun_induction unescapeChars cs with
  | case1 => rfl
  | case2 c => rw [unmarked_singleton]
  | case3 c d cs hc ih => rw [unmarked_cons hc, ih]
  | case4 c d cs hc hd ih =>
    rw [not_ne_iff.1 hc, unmarked_backslash, if_pos hd, ih, List.singleton_append]
  | case5 c d cs hc hd ih =>
    rw [not_ne_iff.1 hc, unmarked_backslash, if_neg hd, ih, List.cons_append,
      List.singleton_append]

lemma unescapeChars_escapeChars (cs : List Char) : unescapeChars (escapeChars cs) = cs := by
  induction cs with
  | nil => rfl
  | cons c cs ih =>
    by_cases hc : c ∈ specials
    · rw [escapeChars_cons_of_mem hc, unescapeChars_pair hc, ih]
    · rw [escapeChars_cons_of_notMem hc, unescapeChars_cons (ne_backslash_of_notMem hc), ih]

lemma isPaired_escapeChars (cs : List Char) : IsPaired (escapeChars cs) := by
  induction cs with
  | nil => exact isPaired_nil
  | cons c cs ih =>
    by_cases hc : c ∈ specials
    · rw [escapeChars_cons_of_mem hc, isPaired_backslash]
      exact ⟨hc, ih⟩
    · rw [escapeChars_cons_of_notMem hc, isPaired_cons (ne_backslash_of_notMem hc)]
      exact ⟨hc, ih⟩

lemma escapeChars_unescapeChars (h : IsPaired cs) : escapeChars (unescapeChars cs) = cs := by
  fun_induction unescapeChars cs with
  | case1 => rfl
  | case2 c => rw [escapeChars_cons_of_notMem (isPaired_singleton.1 h), escapeChars]
  | case3 c d cs hc ih =>
    obtain ⟨hfirst, hrest⟩ := (isPaired_cons hc).1 h
    rw [escapeChars_cons_of_notMem hfirst, ih hrest]
  | case4 c d cs hc hd ih =>
    rw [not_ne_iff.1 hc] at h ⊢
    rw [escapeChars_cons_of_mem hd, ih (isPaired_backslash.1 h).2]
  | case5 c d cs hc hd ih =>
    -- A backslash before an ordinary character stands alone.
    rw [not_ne_iff.1 hc] at h
    exact absurd (isPaired_backslash.1 h).1 hd

lemma isPaired_iff : IsPaired cs ↔ escapeChars (unescapeChars cs) = cs :=
  ⟨escapeChars_unescapeChars, fun h => h ▸ isPaired_escapeChars _⟩

/-- Escaping is a code for the text between double quotes, undone by dropping the backslash of each
pair. A text is the code of what is then left of it exactly when its special characters all stand in
pairs. The parts of a text are escaped one by one, a text stays as it is exactly when it holds no
special character, and different texts have different codes. -/
theorem escape_code_laws :
    (∀ s, (unescape s).toList = unmarked s.toList) ∧
    (∀ s, unescape (escape s) = s) ∧
    (∀ s, IsPaired s.toList ↔ escape (unescape s) = s) ∧
    (∀ s t, escape (s ++ t) = escape s ++ escape t) ∧
    (∀ s, escape s = s ↔ ∀ c ∈ specials, c ∉ s.toList) ∧
    Function.Injective escape := by
  have hunescape : ∀ s, unescape (escape s) = s := by
    intro s
    rw [unescape, escape, String.toList_ofList, unescapeChars_escapeChars, String.ofList_toList]
  refine ⟨?_, hunescape, ?_, ?_, ?_, Function.LeftInverse.injective hunescape⟩
  · intro s
    rw [unescape, String.toList_ofList, unescapeChars_eq_unmarked]
  · intro s
    rw [isPaired_iff, escape, unescape, String.toList_ofList, ← String.toList_inj,
      String.toList_ofList]
  · intro s t
    rw [escape, String.toList_append, escapeChars_append, String.ofList_append, escape, escape]
  · intro s
    rw [← escapeChars_eq_self_iff, escape, ← String.toList_inj, String.toList_ofList]

example : unescape "a\\\\\\$b\\c" = "a\\$b\\c" := by decide

/-- The middle one of three backslashes cannot belong to two pairs. -/
example : escape (unescape "\\\\\\") = "\\\\\\\\" := by decide

end SyncScript.Shell
