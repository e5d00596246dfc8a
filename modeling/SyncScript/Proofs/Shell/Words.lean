import Mathlib.Data.List.Basic
import SyncScript.Shell.DoubleQuote

/-!
# Reading a command line

The shell takes a command line apart into words before it runs anything. The reader below walks
over the line one character at a time and gives up at the first thing that is not literal text:
an expansion, an operator, a quote left open. Text between double quotes comes back from it
exactly when it was escaped as `Shell.escape` does.
-/

namespace SyncScript.Shell

/-- Why a command line is not a plain list of words. -/
inductive WordFault where
  | expansion
  | openQuote
  | operator (c : Char)
  deriving DecidableEq

/-- Blanks separate words outside quotes. -/
def isSeparator (c : Char) : Bool :=
  c == ' ' || c == '\t'

def startsExpansion (c : Char) : Bool :=
  c == '$' || c == '\x60'

/-- The other characters that are not literal outside quotes: they end the command, redirect it,
quote, open a comment or an assignment, or stand for a pattern. -/
def isOperator (c : Char) : Bool :=
  ['\n', '\\', '\'', '|', '&', ';', '<', '>', '(', ')', '*', '?', '[', ']', '#', '~', '=', '\x7b',
    '\x7d', '!'].contains c

/-- Where the reader stands: outside quotes, between double quotes, or right after a backslash
between double quotes. -/
inductive WordMode where
  | bare
  | quoted
  | escaping
  deriving DecidableEq

/-- The words read so far and the one being read. An empty pair of quotes makes an empty word, so
being between words differs from having read nothing of a word. -/
structure WordReading where
  words : List (List Char) := []
  word : Option (List Char) := none
  mode : WordMode := .bare
  deriving DecidableEq

namespace WordReading

/-- Takes a character literally. -/
def push (r : WordReading) (c : Char) : WordReading :=
  { r with word := some (r.word.getD [] ++ [c]) }

/-- One character of the command line. Between double quotes a backslash is dropped before the
four characters that it takes a meaning from, goes with a line end, and stays otherwise. -/
def step (r : WordReading) (c : Char) : Except WordFault WordReading :=
  match r.mode with
  | .bare =>
    if isSeparator c then .ok { r with words := r.words ++ r.word.toList, word := none }
    else if c = '"' then .ok { r with word := some (r.word.getD []), mode := .quoted }
    else if startsExpansion c then .error .expansion
    else if isOperator c then .error (.operator c)
    else .ok (r.push c)
  | .quoted =>
    if c = '"' then .ok { r with mode := .bare }
    else if c = '\\' then .ok { r with mode := .escaping }
    else if startsExpansion c then .error .expansion
    else .ok (r.push c)
  | .escaping =>
    if c = '\\' ∨ c = '"' ∨ startsExpansion c then .ok { r.push c with mode := .quoted }
    else if c = '\n' then .ok { r with mode := .quoted }
    else .ok { (r.push '\\').push c with mode := .quoted }

def run (r : WordReading) (cs : List Char) : Except WordFault WordReading :=
  cs.foldlM step r

/-- The words at the end of the line. -/
def finish (r : WordReading) : Except WordFault (List (List Char)) :=
  if r.mode = .bare then .ok (r.words ++ r.word.toList) else .error .openQuote

lemma run_append (r : WordReading) (a b : List Char) :
    r.run (a ++ b) = (r.run a).bind (·.run b) :=
  List.foldlM_append

lemma run_cons {r s : WordReading} {c : Char} (h : r.step c = .ok s) (cs : List Char) :
    r.run (c :: cs) = s.run cs := by
  rw [run, List.foldlM_cons, h]
  rfl

lemma run_append_of_eq {r s : WordReading} {a : List Char} (h : r.run a = .ok s)
    (b : List Char) : r.run (a ++ b) = s.run b := by
  rw [run_append, h]
  rfl

end WordReading

/-- The words of a command line, as the shell takes it apart. -/
def words (line : String) : Except WordFault (List String) :=
  (((WordReading.run {} line.toList).bind WordReading.finish).map (·.map String.ofList))

lemma isSpecial_iff (c : Char) :
    isSpecial c = true ↔ c = '\\' ∨ c = '"' ∨ startsExpansion c = true := by
  have h : c.toNat = 0x60 ↔ c = '\x60' :=
    ⟨fun h => Char.toNat_inj.1 h, fun h => h ▸ rfl⟩
  simp [isSpecial, startsExpansion, h, or_assoc]

open WordReading

/-- Between double quotes escaped text reads as itself. -/
lemma run_escapeChars (ws : List (List Char)) (w cs : List Char) :
    run ⟨ws, some w, .quoted⟩ (escapeChars cs) = .ok ⟨ws, some (w ++ cs), .quoted⟩ := by
  induction cs generalizing w with
  | nil => simp [escapeChars, run, pure, Except.pure]
  | cons c cs ih =>
    rw [List.append_cons]
    by_cases hc : isSpecial c
    · rw [escapeChars, if_pos hc, run_cons (s := ⟨ws, some w, .escaping⟩) (by simp [step]),
        run_cons (s := ⟨ws, some (w ++ [c]), .quoted⟩)
          (by rw [step, if_pos ((isSpecial_iff c).1 hc)]; rfl), ih]
    · have h := mt (isSpecial_iff c).2 hc
      simp only [not_or] at h
      rw [escapeChars, if_neg hc, run_cons (s := ⟨ws, some (w ++ [c]), .quoted⟩)
        (by simp [step, h.1, h.2.1, h.2.2, push]), ih]

/-- Characters that stand for themselves outside quotes. -/
def isLiteral (c : Char) : Bool :=
  ! isSeparator c && c != '"' && ! startsExpansion c && ! isOperator c

lemma run_literal (ws : List (List Char)) (w cs : List Char) (h : ∀ c ∈ cs, isLiteral c = true) :
    run ⟨ws, some w, .bare⟩ cs = .ok ⟨ws, some (w ++ cs), .bare⟩ := by
  induction cs generalizing w with
  | nil => simp [run, pure, Except.pure]
  | cons c cs ih =>
    have hc := h c (by simp)
    simp only [isLiteral, Bool.and_eq_true, Bool.not_eq_true', bne_iff_ne, ne_eq] at hc
    rw [List.append_cons, run_cons (s := ⟨ws, some (w ++ [c]), .bare⟩)
      (by simp [step, hc.1.1.1, hc.1.1.2, hc.1.2, hc.2, push]), ih _ fun d hd => h d (by simp [hd])]

/-- One more word of a command line: a flag, or a text between double quotes. -/
inductive CommandWord where
  | flag (name : String)
  | value (text : String)

namespace CommandWord

/-- The word with the blank before it. -/
def written : CommandWord → String
  | flag name => " " ++ name
  | value text => " " ++ doubleQuoted text

def meaning : CommandWord → String
  | flag name => name
  | value text => text

/-- A flag is written without quotes, so it must be literal. -/
def WellFormed : CommandWord → Prop
  | flag name => name ≠ "" ∧ ∀ c ∈ name.toList, isLiteral c = true
  | value _ => True

end CommandWord

/-- A written word ends the word before it, and is read in full. -/
lemma run_written (ws : List (List Char)) (w : Option (List Char)) {word : CommandWord}
    (hw : word.WellFormed) :
    run ⟨ws, w, .bare⟩ word.written.toList =
      .ok ⟨ws ++ w.toList, some word.meaning.toList, .bare⟩ := by
  have hblank : step ⟨ws, w, .bare⟩ ' ' = .ok ⟨ws ++ w.toList, none, .bare⟩ := by
    simp [step, isSeparator]
  cases word with
  | flag name =>
    obtain ⟨hne, hlit⟩ := hw
    obtain ⟨c, cs, hname⟩ := List.exists_cons_of_ne_nil (mt String.toList_eq_nil_iff.1 hne)
    rw [hname] at hlit
    have hc : step ⟨ws ++ w.toList, none, .bare⟩ c = step ⟨ws ++ w.toList, some [], .bare⟩ c := by
      have h := hlit c (by simp)
      simp only [isLiteral, Bool.and_eq_true, Bool.not_eq_true', bne_iff_ne, ne_eq] at h
      simp [step, h.1.1.1, h.1.1.2, h.1.2, h.2, push]
    have hrun : run ⟨ws ++ w.toList, none, .bare⟩ (c :: cs) =
        run ⟨ws ++ w.toList, some [], .bare⟩ (c :: cs) := by
      simp only [run, List.foldlM_cons, hc]
    rw [CommandWord.written, String.toList_append, hname, show " ".toList = [' '] from rfl,
      List.singleton_append, run_cons hblank, hrun, run_literal _ _ _ hlit]
    simp [CommandWord.meaning, hname]
  | value text =>
    have hopen : step ⟨ws ++ w.toList, none, .bare⟩ '"' =
        .ok ⟨ws ++ w.toList, some [], .quoted⟩ := by
      simp [step, isSeparator]
    have hclose : step ⟨ws ++ w.toList, some text.toList, .quoted⟩ '"' =
        .ok ⟨ws ++ w.toList, some text.toList, .bare⟩ := by
      simp [step]
    have htext : (" " ++ doubleQuoted text).toList =
        ' ' :: '"' :: (escapeChars text.toList ++ ['"']) := by
      simp [doubleQuoted, escape, String.toList_append]
    rw [CommandWord.written, htext, run_cons hblank, run_cons hopen,
      run_append_of_eq (run_escapeChars _ [] _), List.nil_append, run_cons hclose]
    rfl

/-- The words written one after the other are read one after the other. -/
lemma run_join_written (words : List CommandWord) (hw : ∀ word ∈ words, word.WellFormed)
    (ws : List (List Char)) (w : Option (List Char)) :
    (run ⟨ws, w, .bare⟩ (String.join (words.map CommandWord.written)).toList).bind finish =
      .ok (ws ++ w.toList ++ words.map fun word => word.meaning.toList) := by
  induction words generalizing ws w with
  | nil => simp [run, pure, Except.pure, Except.bind, finish]
  | cons word words ih =>
    have hrest := ih (fun v hv => hw v (by simp [hv])) (ws ++ w.toList) (some word.meaning.toList)
    rw [List.map_cons, String.join_cons, String.toList_append,
      run_append_of_eq (run_written ws w (hw word (by simp))), hrest]
    simp

/-- Reading a written command line gives back what its words mean. -/
theorem words_join_written {commandWords : List CommandWord}
    (hw : ∀ word ∈ commandWords, word.WellFormed) :
    words (String.join (commandWords.map CommandWord.written)) =
      .ok (commandWords.map CommandWord.meaning) := by
  rw [words, run_join_written commandWords hw]
  simp [Except.map, Function.comp_def]

example : words "--to \"a \\$b\" x\"\"" = .ok ["--to", "a $b", "x"] := by decide

example : words "--to \"$b\"" = .error .expansion := by decide

end SyncScript.Shell
