import SyncScript.Files.Tree
import SyncScript.Proofs.Files.Walk
import SyncScript.Proofs.Results

/-!
# Writing files

A text that is written to a path changes the file that the path leads to and nothing else, and it
can be read from there again. A path that led anywhere before leads to the same place afterwards.
-/

namespace SyncScript

namespace FileTree

variable {t after : FileTree} {directory k l m : Location} {e : FileEntry}

lemma get?_put_self (h : l ≠ []) : (t.put l e).get? l = some e := by
  rw [get?, if_neg h, put, List.lookup_cons_self]

lemma get?_put_of_ne (h : k ≠ l) : (t.put l e).get? k = t.get? k := by
  have hkey : (k == l) = false := beq_eq_false_iff_ne.2 h
  have hother : (t.entries.filter (·.1 != l)).lookup k = t.entries.lookup k := by
    induction t.entries with
    | nil => rfl
    | cons entry entries ih =>
      obtain ⟨place, e'⟩ := entry
      by_cases hplace : place = l
      · subst hplace
        rw [List.filter_cons_of_neg (by simp), ih, List.lookup_cons, hkey]
      · rw [List.filter_cons_of_pos (by simpa using hplace), List.lookup_cons, List.lookup_cons, ih]
  rw [get?, get?, put, List.lookup_cons, hkey, hother]

/-- Where a part of a path leads from a location. -/
inductive Enters (t : FileTree) (l : Location) : List Char → Location → Prop
  | idle {part : List Char} (h : Path.isIdle part = true) : Enters t l part l
  | parent : Enters t l ['.', '.'] l.dropLast
  | name {part : List Char} (hidle : Path.isIdle part = false) (hparent : part ≠ ['.', '.'])
    (hthere : (t.get? (l ++ [String.ofList part])).isSome = true) :
    Enters t l part (l ++ [String.ofList part])

lemma walk_of_enters (hdir : t.kindOf? k = some .directory) {part : List Char}
    (h : t.Enters k part l) (parts : List (List Char)) :
    t.walk k (part :: parts) = t.walk l parts := by
  rw [walk, if_neg (not_not.2 hdir)]
  cases h with
  | idle hidle => rw [if_pos hidle]
  | parent => rw [if_neg (by decide), if_pos rfl]
  | name hidle hparent hthere =>
    rw [hidle, if_neg Bool.false_ne_true, if_neg hparent]
    exact if_pos hthere

/-- A walk goes on only from a directory, and only to where the next part leads. -/
lemma exists_enters {part : List Char} {parts : List (List Char)}
    (h : t.walk k (part :: parts) = .ok m) :
    t.kindOf? k = some .directory ∧ ∃ next, t.Enters k part next ∧ t.walk next parts = .ok m := by
  have hdir : t.kindOf? k = some .directory := by
    by_contra hother
    rw [walk_of_not_directory hother (by simp)] at h
    cases h
  have henters : ∃ next, t.Enters k part next := by
    by_cases hidle : Path.isIdle part = true
    · exact ⟨k, .idle hidle⟩
    · by_cases hparent : part = ['.', '.']
      · exact ⟨k.dropLast, hparent ▸ .parent⟩
      · refine ⟨_, .name (Bool.eq_false_iff.2 hidle) hparent ?_⟩
        by_contra hnew
        rw [walk, if_neg (not_not.2 hdir), if_neg hidle, if_neg hparent] at h
        dsimp only at h
        rw [if_neg hnew] at h
        cases h
  obtain ⟨next, henters⟩ := henters
  rw [walk_of_enters hdir henters] at h
  exact ⟨hdir, next, henters, h⟩

lemma Enters.put {part : List Char} (h : t.Enters k part m) : (t.put l e).Enters k part m := by
  cases h with
  | idle hidle => exact .idle hidle
  | parent => exact .parent
  | name hidle hparent hthere =>
    refine .name hidle hparent ?_
    by_cases heq : k ++ [String.ofList part] = l
    · rw [← heq, get?_put_self (by simp)]
      rfl
    · rwa [get?_put_of_ne heq]

/-- A walk goes the same way after an entry is put where no directory was. -/
lemma walk_put (hl : t.kindOf? l ≠ some .directory) {parts : List (List Char)}
    (h : t.walk k parts = .ok m) : (t.put l e).walk k parts = .ok m := by
  induction parts generalizing k with
  | nil => exact h
  | cons part parts ih =>
    obtain ⟨hdir, next, henters, hrest⟩ := exists_enters h
    have hne : k ≠ l := fun heq => hl (heq ▸ hdir)
    have hkept : (t.put l e).kindOf? k = some .directory := by
      rw [kindOf?, get?_put_of_ne hne]
      exact hdir
    rw [walk_of_enters hkept henters.put]
    exact ih hrest

lemma locate_eq_walk {p : Path} (hempty : p.text.isEmpty = false)
    (hnul : p.text.toList.contains '\x00' = false) :
    t.locate directory p = t.walk (start directory p).1 (start directory p).2 := by
  rw [locate, hempty, hnul]
  rfl

lemma of_locate_eq_ok {p : Path} (h : t.locate directory p = .ok l) :
    p.text.isEmpty = false ∧ p.text.toList.contains '\x00' = false := by
  unfold locate at h
  split at h
  · cases h
  · rename_i hempty
    split at h
    · cases h
    · rename_i hnul
      exact ⟨Bool.eq_false_iff.2 hempty, Bool.eq_false_iff.2 hnul⟩

/-- A name that leads nowhere from a directory leads to a file once it is put there. -/
lemma walk_put_new {above : List (List Char)} {name : List Char} (hwalk : t.walk k above = .ok l)
    (hl : t.kindOf? l = some .directory) (hidle : Path.isIdle name = false)
    (hparent : name ≠ ['.', '.']) (hnew : ∀ m, t.walk k (above ++ [name]) ≠ .ok m) :
    t.kindOf? (l ++ [String.ofList name]) = none ∧
      (t.put (l ++ [String.ofList name]) e).walk k (above ++ [name]) =
        .ok (l ++ [String.ofList name]) := by
  have hnone : t.get? (l ++ [String.ofList name]) = none := by
    rw [← Option.not_isSome_iff_eq_none, ← walk_name hl hidle hparent]
    rintro ⟨m, hm, -⟩
    refine hnew m ?_
    rw [walk_append, hwalk]
    exact hm
  have hkind : t.kindOf? (l ++ [String.ofList name]) = none := by
    rw [kindOf?, hnone]
    rfl
  have hput : t.kindOf? (l ++ [String.ofList name]) ≠ some .directory := by simp [hkind]
  have hkept : (t.put (l ++ [String.ofList name]) e).kindOf? l = some .directory := by
    rw [kindOf?, get?_put_of_ne (by simp)]
    exact hl
  have hthere : ((t.put (l ++ [String.ofList name]) e).get? (l ++ [String.ofList name])).isSome =
      true := by
    rw [get?_put_self (by simp)]
    rfl
  refine ⟨hkind, ?_⟩
  rw [walk_append, walk_put hput hwalk]
  exact walk_of_enters hkept (.name hidle hparent hthere) []

/-- A tree in which a text stands at the place that a path leads to, and all else is as before. -/
structure Wrote (t after : FileTree) (directory : Location) (p : Path) (text : String)
    (l : Location) : Prop where
  place : after.locate directory p = .ok l
  content : after.get? l = some (.file text.toUTF8)
  others : ∀ k, k ≠ l → after.get? k = t.get? k

lemma wrote_put {p : Path} {text : String} (hl : t.kindOf? l ≠ some .directory)
    (hplace : (t.put l (.file text.toUTF8)).locate directory p = .ok l) :
    Wrote t (t.put l (.file text.toUTF8)) directory p text l := by
  refine ⟨hplace, get?_put_self ?_, fun k hk => get?_put_of_ne hk⟩
  rintro rfl
  exact hl rfl

/-- The last part of a path that does not end in a slash, and the parts before it. -/
lemma eq_of_dropWhile_reverse {parts above : List (List Char)} {name : List Char}
    (h : parts.reverse.dropWhile (· == []) = name :: above) (hlast : parts.getLast? ≠ some []) :
    parts = above.reverse ++ [name] := by
  rcases parts.eq_nil_or_concat' with rfl | ⟨init, last, rfl⟩
  · cases h
  · rw [List.reverse_append, List.reverse_singleton, List.singleton_append,
      List.dropWhile_cons_of_neg (by simpa using hlast)] at h
    cases h
    rw [List.reverse_reverse]

/-- The place that a text goes to: the one that the path leads to, or, if it leads nowhere, the one
with the name of its last part in the directory that the other parts lead to. -/
inductive Destination (t : FileTree) (directory : Location) (p : Path) : Location → Prop
  | present {l : Location} (hlocate : t.locate directory p = .ok l)
    (hl : t.kindOf? l ≠ some .directory) : Destination t directory p l
  | new {cause : FileError} {above : List (List Char)} {name : List Char} {l : Location}
    (hlocate : t.locate directory p = .error cause) (hcause : cause ≠ .nulInName)
    (hempty : p.text.isEmpty = false) (hparts : (start directory p).2 = above ++ [name])
    (hwalk : t.walk (start directory p).1 above = .ok l) (hl : t.kindOf? l = some .directory)
    (hidle : Path.isIdle name = false) (hparent : name ≠ ['.', '.']) :
    Destination t directory p (l ++ [String.ofList name])

/-- Writing does nothing but put the text at its destination. -/
lemma exists_destination {p : Path} {text : String} (h : t.writeAt directory p text = .ok after) :
    ∃ l, t.Destination directory p l ∧ after = t.put l (.file text.toUTF8) := by
  rw [writeAt] at h
  cases hlocate : t.locate directory p with
  | ok l =>
    rw [hlocate] at h
    dsimp only at h
    split at h
    · cases h
    · rename_i hl
      cases h
      exact ⟨l, .present hlocate hl, rfl⟩
  | error cause =>
    rw [hlocate] at h
    dsimp only at h
    split at h
    · cases h
    · rename_i hcause
      rw [Bool.or_eq_true, decide_eq_true_eq, not_or, Bool.not_eq_true] at hcause
      split at h
      · cases h
      · rename_i name above hparts
        obtain ⟨l, hwalk, h⟩ := Except.bind_eq_ok.1 h
        -- the three tests on the last part and its directory all have to be passed
        split at h
        · cases h
        · rename_i hl
          split at h
          · cases h
          · rename_i hname
            rw [Bool.or_eq_true, decide_eq_true_eq, not_or, Bool.not_eq_true] at hname
            split at h
            · cases h
            · rename_i hlast
              cases h
              exact ⟨_, .new hlocate hcause.2 hcause.1 (eq_of_dropWhile_reverse hparts hlast)
                hwalk (not_not.1 hl) hname.1 hname.2, rfl⟩

/-- The path leads to the destination once there is something. -/
lemma Destination.wrote {p : Path} (h : t.Destination directory p l) (text : String) :
    Wrote t (t.put l (.file text.toUTF8)) directory p text l := by
  cases h with
  | present hlocate hl =>
    obtain ⟨hempty, hnul⟩ := of_locate_eq_ok hlocate
    rw [locate_eq_walk hempty hnul] at hlocate
    refine wrote_put hl ?_
    rw [locate_eq_walk hempty hnul]
    exact walk_put hl hlocate
  | @new cause above name l hlocate hcause hempty hparts hwalk hl hidle hparent =>
    have hnul : p.text.toList.contains '\x00' = false := by
      by_contra hnul
      rw [locate, hempty, if_neg Bool.false_ne_true, if_pos (by simpa using hnul)] at hlocate
      exact hcause (Except.error.inj hlocate).symm
    rw [locate_eq_walk hempty hnul, hparts] at hlocate
    have hnew : ∀ m, t.walk (start directory p).1 (above ++ [name]) ≠ .ok m := by
      intro m
      simp [hlocate]
    obtain ⟨hnone, hplace⟩ := walk_put_new hwalk hl hidle hparent hnew
    refine wrote_put (by simp [hnone]) ?_
    rw [locate_eq_walk hempty hnul, hparts]
    exact hplace

/-- Writing succeeds only by putting the text where the path leads to afterwards. -/
lemma exists_wrote {p : Path} {text : String} (h : t.writeAt directory p text = .ok after) :
    ∃ l, Wrote t after directory p text l := by
  obtain ⟨l, hl, rfl⟩ := exists_destination h
  exact ⟨l, hl.wrote text⟩

lemma fromUTF8?_toUTF8 (text : String) : String.fromUTF8? text.toUTF8 = some text := by
  rw [String.fromUTF8?, String.toUTF8_eq_toByteArray, dif_pos text.isValidUTF8]
  rfl

/-- A text is read from a file that holds it in UTF-8, and from nothing else. -/
lemma readTextAt_eq_ok_iff {p : Path} {text : String} :
    t.readTextAt directory p = .ok text ↔
      ∃ l, t.locate directory p = .ok l ∧ t.get? l = some (.file text.toUTF8) := by
  rw [FileTree.readTextAt, Except.bind_eq_ok]
  refine exists_congr fun l => and_congr_right fun _ => ?_
  constructor
  · intro h
    split at h
    · rename_i content hcontent
      split at h
      · rename_i found hfound
        rw [String.fromUTF8?] at hfound
        split at hfound
        · cases h
          cases hfound
          exact hcontent
        · cases hfound
      · cases h
    · cases h
    · cases h
  · intro h
    rw [h]
    dsimp only
    rw [fromUTF8?_toUTF8]

/-- A text can be read from where it was written to. -/
lemma Wrote.readTextAt {p : Path} {text : String} (h : Wrote t after directory p text l) :
    after.readTextAt directory p = .ok text :=
  readTextAt_eq_ok_iff.2 ⟨l, h.place, h.content⟩

lemma Wrote.kindAt? {p : Path} {text : String} (h : Wrote t after directory p text l) :
    after.kindAt? directory p = some .file := by
  rw [FileTree.kindAt?, h.place]
  dsimp only
  rw [kindOf?, h.content]
  rfl

end FileTree

end SyncScript
