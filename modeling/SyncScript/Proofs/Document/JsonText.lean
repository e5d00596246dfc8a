import Mathlib.Data.List.TakeWhile
import SyncScript.Document.Json
import SyncScript.Document.Scalar

/-!
# Reading JSON

A reader of JSON texts without fractions. Documents of texts, integers, truth values and nulls are
read back from the JSON that they are written as.
-/

namespace SyncScript.Json

section Reader

def isBlank (c : Char) : Bool :=
  [' ', '\t', '\n', '\r'].contains c

def skip (cs : List Char) : List Char :=
  cs.dropWhile isBlank

/-- The character that a letter after a backslash stands for. -/
def escaped? : Char → Option Char
  | '"' => some '"'
  | '\\' => some '\\'
  | '/' => some '/'
  | 'b' => some '\x08'
  | 'f' => some '\x0c'
  | 'n' => some '\n'
  | 'r' => some '\r'
  | 't' => some '\t'
  | _ => none

/-- The character with a number that is given in four digits. -/
def numbered? (digits : List Char) : Option Char :=
  match Scalar.natural? 16 digits with
  | some n => if n.isValidChar then some (Char.ofNat n) else none
  | none => none

/-- The characters up to a closing quote, and what follows it. -/
def readChars? : List Char → Option (List Char × List Char)
  | [] => none
  | '"' :: cs => some ([], cs)
  | '\\' :: 'u' :: a :: b :: c :: d :: cs =>
    match numbered? [a, b, c, d], readChars? cs with
    | some e, some (s, rest) => some (e :: s, rest)
    | _, _ => none
  | '\\' :: c :: cs =>
    match escaped? c, readChars? cs with
    | some e, some (s, rest) => some (e :: s, rest)
    | _, _ => none
  | c :: cs =>
    if c.toNat < 32 then none
    else (readChars? cs).map fun r => (c :: r.1, r.2)

def readNatural? (cs : List Char) : Option (Nat × List Char) :=
  let digits := cs.takeWhile Char.isDigit
  if digits.isEmpty then none else some (Nat.ofDigitChars 10 digits 0, cs.dropWhile Char.isDigit)

def readInteger? : List Char → Option (Document × List Char)
  | '-' :: cs => (readNatural? cs).map fun r => (.integer (-r.1), r.2)
  | cs => (readNatural? cs).map fun r => (.integer r.1, r.2)

/-- What follows a character, when a text begins with it after blanks. -/
def after? (c : Char) (cs : List Char) : Option (List Char) :=
  match skip cs with
  | first :: rest => if first = c then some rest else none
  | [] => none

mutual

/-- The value that a text begins with, and what follows it, as long as the fuel lasts. -/
def readValue? : Nat → List Char → Option (Document × List Char)
  | 0, _ => none
  | fuel + 1, cs =>
    match skip cs with
    | 'n' :: 'u' :: 'l' :: 'l' :: rest => some (.null, rest)
    | 't' :: 'r' :: 'u' :: 'e' :: rest => some (.bool true, rest)
    | 'f' :: 'a' :: 'l' :: 's' :: 'e' :: rest => some (.bool false, rest)
    | '"' :: rest => (readChars? rest).map fun r => (.text (String.ofList r.1), r.2)
    | '[' :: rest =>
      match after? ']' rest with
      | some rest => some (.sequence [], rest)
      | none => (readItems? fuel rest).map fun r => (.sequence r.1, r.2)
    | '\x7b' :: rest =>
      match after? '\x7d' rest with
      | some rest => some (.mapping [], rest)
      | none => (readEntries? fuel rest).map fun r => (.mapping r.1, r.2)
    | cs => readInteger? cs

/-- Items up to a closing bracket. -/
def readItems? : Nat → List Char → Option (List Document × List Char)
  | 0, _ => none
  | fuel + 1, cs => do
    let (item, rest) ← readValue? fuel cs
    match after? ']' rest with
    | some rest => some ([item], rest)
    | none => do
      let (items, rest) ← readItems? fuel (← after? ',' rest)
      some (item :: items, rest)

/-- Entries up to a closing brace. -/
def readEntries? : Nat → List Char → Option (List (Document × Document) × List Char)
  | 0, _ => none
  | fuel + 1, cs => do
    let (key, rest) ← readChars? (← after? '"' cs)
    let (value, rest) ← readValue? fuel (← after? ':' rest)
    let entry := (Document.text (String.ofList key), value)
    match after? '\x7d' rest with
    | some rest => some ([entry], rest)
    | none => do
      let (entries, rest) ← readEntries? fuel (← after? ',' rest)
      some (entry :: entries, rest)

end

/-- The document that a JSON text stands for. -/
def read? (text : String) : Option Document :=
  match readValue? (text.toList.length + 1) text.toList with
  | some (d, rest) => if (skip rest).isEmpty then some d else none
  | none => none

end Reader

/-- The documents that JSON texts without fractions stand for. -/
inductive IsPlain : Document → Prop
  | null : IsPlain .null
  | bool (b : Bool) : IsPlain (.bool b)
  | integer (n : Int) : IsPlain (.integer n)
  | text (s : String) : IsPlain (.text s)
  | sequence {items : List Document} (h : ∀ d ∈ items, IsPlain d) : IsPlain (.sequence items)
  | mapping {entries : List (Document × Document)} (hkeys : ∀ e ∈ entries, ∃ s, e.1 = .text s)
    (hvalues : ∀ e ∈ entries, IsPlain e.2) : IsPlain (.mapping entries)

lemma skip_blanks {blanks : List Char} (h : blanks.all isBlank = true) (cs : List Char) :
    skip (blanks ++ cs) = skip cs :=
  List.dropWhile_append_of_pos (List.all_eq_true.1 h)

lemma toList_newline (depth : Nat) :
    (newline depth).toList = '\n' :: List.replicate (2 * depth) ' ' := by
  rw [newline, String.toList_ofList]

lemma skip_newline (depth : Nat) (cs : List Char) :
    skip ((newline depth).toList ++ cs) = skip cs := by
  apply skip_blanks
  rw [toList_newline, List.all_cons, List.all_replicate]
  simp [isBlank]

lemma skip_cons {c : Char} (h : isBlank c = false) (cs : List Char) : skip (c :: cs) = c :: cs :=
  List.dropWhile_cons_of_neg (by simp [h])

lemma natural?_hexFour : ∀ n < 32, Scalar.natural? 16 (hexFour n) = some n := by
  decide

lemma length_hexFour : ∀ n < 32, (hexFour n).length = 4 := by
  decide

lemma numbered?_hexFour {c : Char} (h : c.toNat < 32) : numbered? (hexFour c.toNat) = some c := by
  have hvalid : c.toNat.isValidChar := c.valid
  rw [numbered?, natural?_hexFour c.toNat h]
  dsimp only
  rw [if_pos hvalid, Char.ofNat_toNat]

lemma readChars?_plain {c : Char} (hquote : c ≠ '"') (hslash : c ≠ '\\') (h : ¬ c.toNat < 32)
    (cs : List Char) :
    readChars? (c :: cs) = (readChars? cs).map fun r => (c :: r.1, r.2) := by
  simp [readChars?, hslash, h]

/-- What a text is written as is read back to its closing quote. -/
lemma readChars?_escapeChar (s rest : List Char) :
    readChars? (s.flatMap escapeChar ++ '"' :: rest) = some (s, rest) := by
  induction s with
  | nil => rfl
  | cons c s ih =>
    rw [List.flatMap_cons, List.append_assoc]
    generalize s.flatMap escapeChar ++ '"' :: rest = cs at ih
    unfold escapeChar
    split
    case h_8 hquote hslash _ _ _ _ _ =>
      split
      · rename_i hcontrol
        have hnumbered := numbered?_hexFour hcontrol
        have hlength := length_hexFour c.toNat hcontrol
        generalize hexFour c.toNat = digits at hnumbered hlength
        match digits, hlength with
        | [a, b, d, e], _ =>
          simp only [List.cons_append, List.nil_append, readChars?, hnumbered, ih]
      · rename_i hcontrol
        rw [List.singleton_append, readChars?_plain hquote hslash hcontrol, ih]
        rfl
    all_goals simp [readChars?, escaped?, ih]

/-- A text that does not go on with a digit. -/
def EndsNumber (rest : List Char) : Prop :=
  ∀ c ∈ rest.head?, c.isDigit = false

lemma readNatural?_toDigits (n : Nat) {rest : List Char} (h : EndsNumber rest) :
    readNatural? (Nat.toDigits 10 n ++ rest) = some (n, rest) := by
  have hdigits : ∀ c ∈ Nat.toDigits 10 n, c.isDigit = true :=
    fun c hc => Nat.isDigit_of_mem_toDigits (by decide) (by decide) hc
  have hrest : rest.takeWhile Char.isDigit = [] ∧ rest.dropWhile Char.isDigit = rest := by
    cases rest with
    | nil => exact ⟨rfl, rfl⟩
    | cons c rest =>
      have hc : c.isDigit = false := h c rfl
      simp [hc]
  rw [readNatural?, List.takeWhile_append_of_pos hdigits, List.dropWhile_append_of_pos hdigits,
    hrest.1, hrest.2, List.append_nil]
  simp [Nat.toDigits_ne_nil, Nat.ofDigitChars_ten_toDigits]

lemma exists_toDigits_cons (n : Nat) :
    ∃ c cs, Nat.toDigits 10 n = c :: cs ∧ c.isDigit = true := by
  obtain ⟨c, cs, hdigits⟩ := List.exists_cons_of_ne_nil (Nat.toDigits_ne_nil (n := n) (b := 10))
  refine ⟨c, cs, hdigits, ?_⟩
  exact Nat.isDigit_of_mem_toDigits (by decide) (by decide) (hdigits ▸ List.mem_cons_self)

lemma toList_natCast (n : Nat) : (toString (n : Int)).toList = Nat.toDigits 10 n :=
  Nat.toList_repr

lemma toList_negSucc (n : Nat) :
    (toString (Int.negSucc n)).toList = '-' :: Nat.toDigits 10 (n + 1) := by
  have htext : (toString (Int.negSucc n)).toList = ("-" ++ (n + 1).repr).toList := rfl
  rw [htext, String.toList_append, Nat.toList_repr]
  rfl

lemma readInteger?_toString (n : Int) {rest : List Char} (h : EndsNumber rest) :
    readInteger? ((toString n).toList ++ rest) = some (.integer n, rest) := by
  cases n with
  | ofNat n =>
    obtain ⟨c, cs, hdigits, hc⟩ := exists_toDigits_cons n
    have hread := readNatural?_toDigits n h
    have hne : c ≠ '-' := by
      rintro rfl
      cases hc
    rw [Int.ofNat_eq_natCast, toList_natCast]
    rw [hdigits, List.cons_append] at hread ⊢
    rw [readInteger?, hread]
    · rfl
    · intro _ heq
      exact hne (List.cons.inj heq).1
  | negSucc n =>
    rw [toList_negSucc, List.cons_append, readInteger?, readNatural?_toDigits _ h]
    rfl

/-- An integer begins with a hyphen or a digit. -/
lemma exists_toString_cons (n : Int) :
    ∃ c cs, (toString n).toList = c :: cs ∧ (c = '-' ∨ c.isDigit = true) := by
  cases n with
  | ofNat n =>
    obtain ⟨c, cs, hdigits, hc⟩ := exists_toDigits_cons n
    exact ⟨c, cs, (toList_natCast n).trans hdigits, Or.inr hc⟩
  | negSucc n => exact ⟨'-', _, toList_negSucc n, Or.inl rfl⟩

lemma readValue?_of_head {fuel : Nat} {cs rest : List Char} {c : Char} (hcs : skip cs = c :: rest)
    (hc : c ∉ ['n', 't', 'f', '"', '[', '\x7b']) :
    readValue? (fuel + 1) cs = readInteger? (c :: rest) := by
  simp only [List.mem_cons, List.not_mem_nil, or_false, not_or] at hc
  obtain ⟨hn, ht, hf, hquote, hbracket, hbrace⟩ := hc
  rw [readValue?, hcs]
  simp [hn, ht, hf, hquote, hbracket, hbrace]

/-- The parts of a list or an object, one on a line. -/
def partsText (depth : Nat) (parts : List String) : List Char :=
  [','].intercalate (parts.map fun p => (newline depth).toList ++ p.toList)

lemma partsText_singleton (depth : Nat) (p : String) :
    partsText depth [p] = (newline depth).toList ++ p.toList := by
  rw [partsText, List.map_singleton, List.intercalate_singleton]

lemma partsText_cons_cons (depth : Nat) (p q : String) (parts : List String) :
    partsText depth (p :: q :: parts) =
      (newline depth).toList ++ p.toList ++ ',' :: partsText depth (q :: parts) := by
  simp [partsText, List.intercalate_cons_cons]

lemma toList_block_nil (opening closing : String) (depth : Nat) :
    (block opening closing depth []).toList = opening.toList ++ closing.toList :=
  String.toList_append

lemma toList_block (opening closing : String) (depth : Nat) {parts : List String} (h : parts ≠ []) :
    (block opening closing depth parts).toList =
      opening.toList ++ (partsText (depth + 1) parts ++
        ((newline depth).toList ++ closing.toList)) := by
  have hparts : (",".intercalate (parts.map (newline (depth + 1) ++ ·))).toList =
      partsText (depth + 1) parts := by
    rw [String.toList_intercalate, partsText, List.map_map]
    congr 1
    apply List.map_congr_left
    intro p _
    exact String.toList_append
  rw [block, if_neg (by simpa using h)]
  simp only [String.toList_append, hparts, List.append_assoc]

lemma toList_textLiteral (s : String) :
    (textLiteral s).toList = '"' :: (s.toList.flatMap escapeChar ++ ['"']) := by
  rw [textLiteral, String.toList_ofList]
  rfl

/-- No value begins with a blank or a closing bracket. -/
lemma exists_pretty_cons {d : Document} (h : IsPlain d) (depth : Nat) :
    ∃ c cs, (pretty depth d).toList = c :: cs ∧ isBlank c = false ∧ c ≠ ']' := by
  have hblock : ∀ (opening closing : String) (parts : List String) {c : Char},
      opening.toList = [c] → ∃ cs, (block opening closing depth parts).toList = c :: cs := by
    intro opening closing parts c hc
    cases parts with
    | nil => exact ⟨closing.toList, by simp [block, hc]⟩
    | cons p parts => exact ⟨_, (toList_block _ _ _ (by simp)).trans (by rw [hc]; rfl)⟩
  cases h with
  | null => exact ⟨'n', ['u', 'l', 'l'], by rw [pretty]; rfl, rfl, by decide⟩
  | bool b =>
    cases b with
    | true => exact ⟨'t', ['r', 'u', 'e'], by rw [pretty]; rfl, rfl, by decide⟩
    | false => exact ⟨'f', ['a', 'l', 's', 'e'], by rw [pretty]; rfl, rfl, by decide⟩
  | integer n =>
    obtain ⟨c, cs, htext, hc⟩ := exists_toString_cons n
    rw [pretty]
    refine ⟨c, cs, htext, ?_, ?_⟩
    · rw [← Bool.not_eq_true]
      intro hblank
      simp only [isBlank, List.contains_iff_mem, List.mem_cons, List.not_mem_nil, or_false]
        at hblank
      rcases hblank with rfl | rfl | rfl | rfl <;> simp at hc
    · rintro rfl
      simp at hc
  | text s =>
    exact ⟨'"', _, by rw [pretty, toList_textLiteral], rfl, by decide⟩
  | @sequence items _ =>
    obtain ⟨cs, hcs⟩ := hblock "[" "]" (prettyItems (depth + 1) items) (c := '[') rfl
    exact ⟨'[', cs, by rw [pretty, hcs], rfl, by decide⟩
  | @mapping entries _ _ =>
    obtain ⟨cs, hcs⟩ :=
      hblock "\x7b" "\x7d" (prettyEntries (depth + 1) entries) (c := '\x7b') rfl
    exact ⟨'\x7b', cs, by rw [pretty, hcs], rfl, by decide⟩

lemma endsNumber_of_head {c : Char} {rest : List Char} (h : c.isDigit = false) :
    EndsNumber (c :: rest) := by
  intro c' hc'
  rw [List.head?_cons, Option.mem_some] at hc'
  rwa [← hc']

lemma endsNumber_newline (depth : Nat) (rest : List Char) :
    EndsNumber ((newline depth).toList ++ rest) := by
  rw [toList_newline]
  exact endsNumber_of_head rfl

lemma readValue?_integer (n : Int) {fuel : Nat} {cs rest : List Char} (hrest : EndsNumber rest)
    (hcs : skip cs = (toString n).toList ++ rest) :
    readValue? (fuel + 1) cs = some (.integer n, rest) := by
  have hread := readInteger?_toString n hrest
  obtain ⟨c, more, htext, hc⟩ := exists_toString_cons n
  rw [htext, List.cons_append] at hread hcs
  rw [readValue?_of_head hcs, hread]
  intro hmem
  simp only [List.mem_cons, List.not_mem_nil, or_false] at hmem
  rcases hmem with rfl | rfl | rfl | rfl | rfl | rfl <;> simp at hc

lemma readValue?_text (s : String) {fuel : Nat} {cs rest : List Char}
    (hcs : skip cs = (textLiteral s).toList ++ rest) :
    readValue? (fuel + 1) cs = some (.text s, rest) := by
  rw [toList_textLiteral, List.cons_append, List.append_assoc, List.singleton_append] at hcs
  rw [readValue?, hcs]
  change (readChars? _).map _ = _
  rw [readChars?_escapeChar, Option.map_some, String.ofList_toList]

lemma after?_eq {first c : Char} {cs rest : List Char} (hcs : skip cs = first :: rest) :
    after? c cs = if first = c then some rest else none := by
  rw [after?, hcs]

lemma after?_newline {first : Char} (c : Char) (depth : Nat) (rest : List Char)
    (h : isBlank first = false) :
    after? c ((newline depth).toList ++ first :: rest) = if first = c then some rest else none := by
  apply after?_eq
  rw [skip_newline, skip_cons h]

lemma readValue?_bracket {fuel : Nat} {cs inner : List Char} (hcs : skip cs = '[' :: inner) :
    readValue? (fuel + 1) cs = match after? ']' inner with
      | some rest => some (.sequence [], rest)
      | none => (readItems? fuel inner).map fun r => (.sequence r.1, r.2) := by
  rw [readValue?, hcs]
  rfl

lemma readValue?_brace {fuel : Nat} {cs inner : List Char} (hcs : skip cs = '\x7b' :: inner) :
    readValue? (fuel + 1) cs = match after? '\x7d' inner with
      | some rest => some (.mapping [], rest)
      | none => (readEntries? fuel inner).map fun r => (.mapping r.1, r.2) := by
  rw [readValue?, hcs]
  rfl

/-- The parts do not begin with a character that the first of them does not begin with. -/
lemma after?_partsText {first c : Char} {p : String} {cs : List Char} (hp : p.toList = first :: cs)
    (hblank : isBlank first = false) (hne : first ≠ c) (depth : Nat) (parts : List String)
    (rest : List Char) : after? c (partsText depth (p :: parts) ++ rest) = none := by
  obtain ⟨more, hmore⟩ : ∃ more, partsText depth (p :: parts) ++ rest =
      (newline depth).toList ++ first :: more := by
    cases parts with
    | nil =>
      rw [partsText_singleton, hp, List.append_assoc]
      exact ⟨_, rfl⟩
    | cons q parts =>
      rw [partsText_cons_cons, hp, List.append_assoc, List.append_assoc]
      exact ⟨_, rfl⟩
  rw [hmore, after?_newline c depth more hblank, if_neg hne]

lemma skip_pretty {d : Document} (h : IsPlain d) (depth : Nat) (rest : List Char) :
    skip ((pretty depth d).toList ++ rest) = (pretty depth d).toList ++ rest := by
  obtain ⟨c, cs, htext, hblank, -⟩ := exists_pretty_cons h depth
  rw [htext, List.cons_append, skip_cons hblank]

lemma readItems?_last {fuel depth : Nat} {item : Document} {cs rest : List Char}
    (h : readValue? fuel cs = some (item, (newline depth).toList ++ ']' :: rest)) :
    readItems? (fuel + 1) cs = some ([item], rest) := by
  have hclose : after? ']' ((newline depth).toList ++ ']' :: rest) = some rest :=
    after?_newline ']' depth rest rfl
  simp [readItems?, h, hclose]

lemma readItems?_next {fuel : Nat} {item : Document} {cs rest : List Char}
    (h : readValue? fuel cs = some (item, ',' :: rest)) :
    readItems? (fuel + 1) cs = (readItems? fuel rest).map fun r => (item :: r.1, r.2) := by
  have hskip : skip (',' :: rest) = ',' :: rest := skip_cons rfl rest
  have hclose : after? ']' (',' :: rest) = none := after?_eq hskip
  have hcomma : after? ',' (',' :: rest) = some rest := after?_eq hskip
  simp only [readItems?, h, hclose, hcomma, Option.bind_eq_bind, Option.bind_some]
  cases readItems? fuel rest <;> rfl

/-- A document that is read back from its text, whatever blanks stand before it. -/
def ReadsBack (d : Document) : Prop :=
  ∀ {depth fuel : Nat} {cs rest : List Char}, skip cs = (pretty depth d).toList ++ rest →
    EndsNumber rest → (pretty depth d).toList.length ≤ fuel →
      readValue? (fuel + 1) cs = some (d, rest)

lemma skip_item {d : Document} (h : IsPlain d) (outer depth : Nat) (rest : List Char) :
    skip ((newline outer).toList ++ ((pretty depth d).toList ++ rest)) =
      (pretty depth d).toList ++ rest := by
  rw [skip_newline, skip_pretty h]

lemma readItems?_pretty {d : Document} {items : List Document}
    (hplain : ∀ item ∈ d :: items, IsPlain item) (h : ∀ item ∈ d :: items, ReadsBack item)
    {depth outer fuel : Nat} {rest : List Char}
    (hfuel : (partsText depth (pretty depth d :: prettyItems depth items)).length ≤ fuel) :
    readItems? (fuel + 1) (partsText depth (pretty depth d :: prettyItems depth items) ++
      ((newline outer).toList ++ ']' :: rest)) = some (d :: items, rest) := by
  -- one item uses up at least one character and just one unit of fuel
  induction items generalizing d fuel with
  | nil =>
    rw [prettyItems, partsText_singleton] at hfuel ⊢
    rw [List.forall_mem_singleton] at hplain h
    rw [toList_newline, List.length_append, List.length_cons] at hfuel
    obtain ⟨fuel, rfl⟩ : ∃ less, fuel = less + 1 := ⟨fuel - 1, by omega⟩
    have hskip := skip_item hplain depth depth ((newline outer).toList ++ ']' :: rest)
    rw [List.append_assoc]
    refine readItems?_last (h hskip (endsNumber_newline outer _) ?_)
    omega
  | cons d' items ih =>
    obtain ⟨hfirst, hothers⟩ := List.forall_mem_cons.1 hplain
    obtain ⟨hd, hitems⟩ := List.forall_mem_cons.1 h
    rw [prettyItems, partsText_cons_cons] at hfuel ⊢
    rw [toList_newline, List.length_append, List.length_append, List.length_cons,
      List.length_cons] at hfuel
    obtain ⟨fuel, rfl⟩ : ∃ less, fuel = less + 1 := ⟨fuel - 1, by omega⟩
    have hread : ∀ tail, readValue? (fuel + 1)
        ((newline depth).toList ++ ((pretty depth d).toList ++ ',' :: tail)) =
          some (d, ',' :: tail) := by
      intro tail
      refine hd (skip_item hfirst depth depth _) (endsNumber_of_head rfl) ?_
      omega
    rw [List.append_assoc, List.append_assoc, List.cons_append, readItems?_next (hread _),
      ih hothers hitems (by omega)]
    rfl

lemma readKey {s : String} {cs more : List Char}
    (hcs : skip cs = (textLiteral s).toList ++ ':' :: more) :
    ∃ inner, after? '"' cs = some inner ∧ readChars? inner = some (s.toList, ':' :: more) := by
  rw [toList_textLiteral, List.cons_append, List.append_assoc] at hcs
  exact ⟨_, after?_eq hcs, readChars?_escapeChar s.toList _⟩

section Entries

variable {s : String} {value : Document} {fuel : Nat} {cs more rest : List Char}

lemma readEntries?_last {depth : Nat} (hkey : skip cs = (textLiteral s).toList ++ ':' :: more)
    (hvalue : readValue? fuel more = some (value, (newline depth).toList ++ '\x7d' :: rest)) :
    readEntries? (fuel + 1) cs = some ([(.text s, value)], rest) := by
  obtain ⟨inner, hquote, hchars⟩ := readKey hkey
  have hcolon : after? ':' (':' :: more) = some more := after?_eq (skip_cons rfl more)
  have hclose : after? '\x7d' ((newline depth).toList ++ '\x7d' :: rest) = some rest :=
    after?_newline '\x7d' depth rest rfl
  simp [readEntries?, hquote, hchars, hcolon, hvalue, hclose]

lemma readEntries?_next (hkey : skip cs = (textLiteral s).toList ++ ':' :: more)
    (hvalue : readValue? fuel more = some (value, ',' :: rest)) :
    readEntries? (fuel + 1) cs =
      (readEntries? fuel rest).map fun r => ((.text s, value) :: r.1, r.2) := by
  obtain ⟨inner, hquote, hchars⟩ := readKey hkey
  have hcolon : after? ':' (':' :: more) = some more := after?_eq (skip_cons rfl more)
  have hskip : skip (',' :: rest) = ',' :: rest := skip_cons rfl rest
  have hclose : after? '\x7d' (',' :: rest) = none := after?_eq hskip
  have hcomma : after? ',' (',' :: rest) = some rest := after?_eq hskip
  simp only [readEntries?, hquote, hchars, hcolon, hvalue, hclose, hcomma, Option.bind_eq_bind,
    Option.bind_some, String.ofList_toList]
  cases readEntries? fuel rest <;> rfl

lemma prettyEntries_cons (depth : Nat) (entries : List (Document × Document)) :
    prettyEntries depth ((.text s, value) :: entries) =
      (textLiteral s ++ ": " ++ pretty depth value) :: prettyEntries depth entries := by
  rw [prettyEntries, pretty]

lemma toList_entry (depth : Nat) (tail : List Char) :
    (textLiteral s ++ ": " ++ pretty depth value).toList ++ tail =
      (textLiteral s).toList ++ ':' :: ' ' :: ((pretty depth value).toList ++ tail) := by
  rw [String.toList_append, String.toList_append, List.append_assoc, List.append_assoc]
  rfl

lemma skip_entry (outer depth : Nat) (tail : List Char) :
    skip ((newline outer).toList ++
        ((textLiteral s ++ ": " ++ pretty depth value).toList ++ tail)) =
      (textLiteral s).toList ++ ':' :: ' ' :: ((pretty depth value).toList ++ tail) := by
  rw [toList_entry, skip_newline, toList_textLiteral]
  exact skip_cons rfl _

lemma skip_value (h : IsPlain value) (depth : Nat) (tail : List Char) :
    skip (' ' :: ((pretty depth value).toList ++ tail)) = (pretty depth value).toList ++ tail := by
  have hblank : skip ([' '] ++ ((pretty depth value).toList ++ tail)) =
      skip ((pretty depth value).toList ++ tail) :=
    skip_blanks rfl _
  exact hblank.trans (skip_pretty h depth tail)

lemma readEntries?_pretty {entries : List (Document × Document)}
    (hkeys : ∀ e ∈ entries, ∃ s, e.1 = .text s)
    (hplain : ∀ e ∈ (.text s, value) :: entries, IsPlain e.2)
    (h : ∀ e ∈ (.text s, value) :: entries, ReadsBack e.2) {depth outer : Nat}
    (hfuel : (partsText depth (prettyEntries depth ((.text s, value) :: entries))).length ≤ fuel) :
    readEntries? (fuel + 1) (partsText depth (prettyEntries depth ((.text s, value) :: entries)) ++
      ((newline outer).toList ++ '\x7d' :: rest)) = some ((.text s, value) :: entries, rest) := by
  induction entries generalizing s value fuel with
  | nil =>
    rw [List.forall_mem_singleton] at hplain
    have hreads : ReadsBack value := h _ List.mem_cons_self
    rw [prettyEntries_cons, prettyEntries, partsText_singleton] at hfuel ⊢
    simp only [toList_newline, List.length_append, List.length_cons, String.toList_append] at hfuel
    obtain ⟨fuel, rfl⟩ : ∃ less, fuel = less + 1 := ⟨fuel - 1, by omega⟩
    have hskip := skip_value hplain depth ((newline outer).toList ++ '\x7d' :: rest)
    rw [List.append_assoc]
    refine readEntries?_last (skip_entry depth depth _)
      (hreads hskip (endsNumber_newline outer _) ?_)
    omega
  | cons entry entries ih =>
    obtain ⟨key, next⟩ := entry
    obtain ⟨⟨s', rfl⟩, hrest⟩ := List.forall_mem_cons.1 hkeys
    obtain ⟨hfirst, hothers⟩ := List.forall_mem_cons.1 hplain
    have hreads : ReadsBack value := h _ List.mem_cons_self
    rw [prettyEntries_cons, prettyEntries_cons, partsText_cons_cons, ← prettyEntries_cons]
      at hfuel ⊢
    simp only [toList_newline, List.length_append, List.length_cons, String.toList_append] at hfuel
    obtain ⟨fuel, rfl⟩ : ∃ less, fuel = less + 1 := ⟨fuel - 1, by omega⟩
    have hread : ∀ tail, readValue? (fuel + 1)
        (' ' :: ((pretty depth value).toList ++ ',' :: tail)) = some (value, ',' :: tail) := by
      intro tail
      refine hreads (skip_value hfirst depth _) (endsNumber_of_head rfl) ?_
      omega
    rw [List.append_assoc, List.append_assoc, List.cons_append,
      readEntries?_next (skip_entry depth depth _) (hread _),
      ih hrest hothers (List.forall_mem_cons.1 h).2 (by omega)]
    rfl

end Entries

lemma readsBack_sequence {items : List Document} (hplain : ∀ item ∈ items, IsPlain item)
    (h : ∀ item ∈ items, ReadsBack item) : ReadsBack (.sequence items) := by
  intro depth fuel cs rest hcs _ hfuel
  have hopening : "[".toList = ['['] := rfl
  have hclosing : "]".toList = [']'] := rfl
  rw [pretty] at hcs hfuel
  cases items with
  | nil =>
    rw [prettyItems, toList_block_nil, hopening, hclosing, List.singleton_append,
      List.cons_append, List.singleton_append] at hcs
    have hclose : after? ']' (']' :: rest) = some rest := after?_eq (skip_cons rfl rest)
    rw [readValue?_bracket hcs, hclose]
  | cons d items =>
    rw [prettyItems, toList_block _ _ _ (List.cons_ne_nil _ _), hopening, hclosing] at hcs hfuel
    simp only [List.length_append, List.length_cons] at hfuel
    obtain ⟨fuel, rfl⟩ : ∃ less, fuel = less + 1 := ⟨fuel - 1, by omega⟩
    rw [List.append_assoc, List.append_assoc, List.append_assoc, List.singleton_append,
      List.singleton_append] at hcs
    obtain ⟨c, more, htext, hblank, hne⟩ :=
      exists_pretty_cons (hplain d List.mem_cons_self) (depth + 1)
    rw [readValue?_bracket hcs, after?_partsText htext hblank hne]
    dsimp only
    rw [readItems?_pretty hplain h (by omega)]
    rfl

lemma readsBack_mapping {entries : List (Document × Document)}
    (hkeys : ∀ e ∈ entries, ∃ s, e.1 = .text s) (hplain : ∀ e ∈ entries, IsPlain e.2)
    (h : ∀ e ∈ entries, ReadsBack e.2) : ReadsBack (.mapping entries) := by
  intro depth fuel cs rest hcs _ hfuel
  have hopening : "\x7b".toList = ['\x7b'] := rfl
  have hclosing : "\x7d".toList = ['\x7d'] := rfl
  rw [pretty] at hcs hfuel
  cases entries with
  | nil =>
    rw [prettyEntries, toList_block_nil, hopening, hclosing, List.singleton_append,
      List.cons_append, List.singleton_append] at hcs
    have hclose : after? '\x7d' ('\x7d' :: rest) = some rest := after?_eq (skip_cons rfl rest)
    rw [readValue?_brace hcs, hclose]
  | cons entry entries =>
    obtain ⟨key, value⟩ := entry
    obtain ⟨⟨s, rfl⟩, hothers⟩ := List.forall_mem_cons.1 hkeys
    obtain ⟨more, htext⟩ : ∃ more,
        (textLiteral s ++ ": " ++ pretty (depth + 1) value).toList = '"' :: more := by
      rw [String.toList_append, String.toList_append, toList_textLiteral]
      exact ⟨_, rfl⟩
    rw [prettyEntries_cons, toList_block _ _ _ (List.cons_ne_nil _ _), hopening,
      hclosing] at hcs hfuel
    simp only [List.length_append, List.length_cons] at hfuel
    obtain ⟨fuel, rfl⟩ : ∃ less, fuel = less + 1 := ⟨fuel - 1, by omega⟩
    rw [List.append_assoc, List.append_assoc, List.append_assoc, List.singleton_append,
      List.singleton_append] at hcs
    rw [readValue?_brace hcs, after?_partsText htext rfl (by decide), ← prettyEntries_cons]
    dsimp only
    rw [readEntries?_pretty hothers hplain h (by rw [prettyEntries_cons]; omega)]
    rfl

/-- A plain document is read back from its text. -/
theorem readsBack {d : Document} (h : IsPlain d) : ReadsBack d := by
  induction h with
  | null =>
    intro depth fuel cs rest hcs _ _
    rw [pretty] at hcs
    rw [readValue?, hcs]
    rfl
  | bool b =>
    intro depth fuel cs rest hcs _ _
    rw [pretty] at hcs
    rw [readValue?, hcs]
    cases b <;> rfl
  | integer n =>
    intro depth fuel cs rest hcs hrest _
    rw [pretty] at hcs
    exact readValue?_integer n hrest hcs
  | text s =>
    intro depth fuel cs rest hcs _ _
    rw [pretty] at hcs
    exact readValue?_text s hcs
  | sequence hitems ih => exact readsBack_sequence hitems ih
  | mapping hkeys hvalues ih => exact readsBack_mapping hkeys hvalues ih

/-- A plain document is what its text on lines of its own stands for. -/
theorem read?_pretty {d : Document} (h : IsPlain d) : read? (pretty 0 d ++ "\n") = some d := by
  have htext : (pretty 0 d ++ "\n").toList = (pretty 0 d).toList ++ ['\n'] := String.toList_append
  have hlength : (pretty 0 d).toList.length ≤ (pretty 0 d ++ "\n").toList.length := by
    rw [htext, List.length_append]
    omega
  have hread := readsBack h (skip_pretty h 0 ['\n']) (endsNumber_of_head rfl) hlength
  rw [htext] at hread
  rw [read?, htext, hread]
  rfl

end SyncScript.Json
