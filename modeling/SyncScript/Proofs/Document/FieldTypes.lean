import Mathlib.Data.List.Nodup
import SyncScript.Proofs.Document.Values

/-!
# Types of documents

A type says what a place in a document may hold: a single value, or a record of named fields with
types of their own. `Admits` says which documents have a type. `fault?` goes through a document in
its own order, into nested records before it goes on, and finds the first value that does not have
the type of its place; there is none exactly when the type admits the document.
-/

namespace SyncScript

namespace Document

/-- The entries of a document that can be read as a mapping. -/
def entries? : Document → Option (List (Document × Document))
  | mapping entries | tagged _ (mapping entries) => some entries
  | date => some []
  | plain s | tagged _ (plain s) => if s.isEmpty then some [] else none
  | _ => none

/-- A mapping with what a function makes of its entries. -/
def filterEntries (f : Document × Document → Option (Document × Document)) : Document → Document
  | mapping entries => mapping (entries.filterMap f)
  | tagged tag (mapping entries) => tagged tag (mapping (entries.filterMap f))
  | d => d

/-- The value of the first entry with a name. -/
def valueOf? (name : String) (entries : List (Document × Document)) : Option Document :=
  (entries.find? fun e => e.1.text? == some name).map Prod.snd

/-- The value under a name in a document that can be read as a mapping. -/
def member? (d : Document) (name : String) : Option Document :=
  d.entries?.bind (valueOf? name)

/-- Entries that all have names, and no two of them the same. -/
structure HasDistinctNames (entries : List (Document × Document)) : Prop where
  named : ∀ e ∈ entries, e.1.text?.isSome = true
  nodup : (entries.filterMap (·.1.text?)).Nodup

variable {entries : List (Document × Document)} {key v : Document} {name : String}

lemma valueOf?_cons (hkey : key.text? = some name) (other : String) :
    valueOf? other ((key, v) :: entries) =
      if name = other then some v else valueOf? other entries := by
  rw [valueOf?, List.find?_cons, hkey]
  by_cases h : name = other
  · simp [h]
  · have hne : (some name == some other) = false := by simpa using h
    rw [hne, if_neg h]
    rfl

lemma mem_of_valueOf? (h : valueOf? name entries = some v) :
    ∃ key, (key, v) ∈ entries ∧ key.text? = some name := by
  obtain ⟨⟨key, w⟩, hfind, rfl⟩ := Option.map_eq_some_iff.1 h
  exact ⟨key, List.mem_of_find?_eq_some hfind, by simpa using List.find?_some hfind⟩

lemma valueOf?_eq_none_iff :
    valueOf? name entries = none ↔ ∀ e ∈ entries, e.1.text? ≠ some name := by
  rw [valueOf?, Option.map_eq_none_iff, List.find?_eq_none]
  simp

lemma hasDistinctNames_nil : HasDistinctNames [] :=
  ⟨nofun, List.nodup_nil⟩

lemma hasDistinctNames_cons {entry : Document × Document} :
    HasDistinctNames (entry :: entries) ↔
      ∃ name, entry.1.text? = some name ∧ (∀ e ∈ entries, e.1.text? ≠ some name) ∧
        HasDistinctNames entries := by
  have hnodup : ∀ name, entry.1.text? = some name →
      (((entry :: entries).filterMap (·.1.text?)).Nodup ↔
        (∀ e ∈ entries, e.1.text? ≠ some name) ∧ (entries.filterMap (·.1.text?)).Nodup) := by
    intro name hname
    have hcons : (entry :: entries).filterMap (·.1.text?) =
        name :: entries.filterMap (·.1.text?) :=
      List.filterMap_cons_some hname
    rw [hcons, List.nodup_cons, List.mem_filterMap]
    simp
  constructor
  · intro h
    obtain ⟨name, hname⟩ := Option.isSome_iff_exists.1 (h.named entry List.mem_cons_self)
    obtain ⟨hother, hrest⟩ := (hnodup name hname).1 h.nodup
    exact ⟨name, hname, hother, fun e he => h.named e (List.mem_cons_of_mem _ he), hrest⟩
  · rintro ⟨name, hname, hother, hrest⟩
    exact ⟨List.forall_mem_cons.2 ⟨by simp [hname], hrest.named⟩,
      (hnodup name hname).2 ⟨hother, hrest.nodup⟩⟩

lemma valueOf?_eq_some_iff (h : HasDistinctNames entries) :
    valueOf? name entries = some v ↔ ∃ key, (key, v) ∈ entries ∧ key.text? = some name := by
  refine ⟨mem_of_valueOf?, ?_⟩
  rintro ⟨key, hmem, hkey⟩
  induction entries with
  | nil => cases hmem
  | cons entry entries ih =>
    obtain ⟨first, w⟩ := entry
    obtain ⟨other, hfirst, hothers, hrest⟩ := hasDistinctNames_cons.1 h
    rw [valueOf?_cons hfirst]
    rcases List.mem_cons.1 hmem with heq | hmem
    · cases heq
      rw [if_pos (Option.some.inj (hfirst.symm.trans hkey))]
    · have hne : other ≠ name := by
        rintro rfl
        exact hothers _ hmem hkey
      rw [if_neg hne]
      exact ih hrest hmem

lemma hasDistinctNames_concat (h : HasDistinctNames (entries ++ [(key, v)])) :
    HasDistinctNames entries ∧ ∃ name, key.text? = some name ∧ valueOf? name entries = none := by
  obtain ⟨hnamed, hnodup⟩ := h
  rw [List.forall_mem_append] at hnamed
  obtain ⟨hbefore, hlast⟩ := hnamed
  obtain ⟨name, hname⟩ := Option.isSome_iff_exists.1 (hlast (key, v) (by simp))
  have hlast : [(key, v)].filterMap (·.1.text?) = [name] := List.filterMap_cons_some hname
  rw [List.filterMap_append, hlast, List.nodup_append] at hnodup
  obtain ⟨hnodup, -, hnew⟩ := hnodup
  refine ⟨⟨hbefore, hnodup⟩, name, hname, valueOf?_eq_none_iff.2 fun e he hkey => ?_⟩
  exact hnew name (List.mem_filterMap.2 ⟨e, he, hkey⟩) name (by simp) rfl

lemma valueOf?_concat (hkey : key.text? = some name) (hnew : valueOf? name entries = none)
    (other : String) :
    valueOf? other (entries ++ [(key, v)]) =
      if name = other then some v else valueOf? other entries := by
  have hlast : ([(key, v)].find? fun e => e.1.text? == some other) =
      if name = other then some (key, v) else none := by
    rw [List.find?_singleton, hkey]
    by_cases h : name = other <;> simp [h]
  rw [valueOf?, List.find?_append, hlast]
  by_cases h : name = other
  · subst h
    rw [valueOf?, Option.map_eq_none_iff] at hnew
    rw [hnew, if_pos rfl, if_pos rfl]
    rfl
  · rw [if_neg h, if_neg h, Option.or_none]
    rfl

end Document

/-- What a place in a document may hold. -/
inductive FieldType where
  | text
  | truth
  | texts
  | variant (names : List String)
  | optional (type : FieldType)
  /-- A record, with the name it has in messages. -/
  | record (name : String) (fields : List (String × FieldType))

namespace FieldType

open Document

mutual

/-- The documents that have a type. Where a record is wanted, every value under the name of a field
has to have the type of the field. -/
def Admits (m : Markup) : FieldType → Document → Prop
  | .text, d => ∃ s, d.text? = some s
  | .truth, d => ∃ b, d.truth? = some b
  | .texts, d => ∃ items, d.items? = some items ∧ ∀ item ∈ items, ∃ s, item.text? = some s
  | .variant names, d => ∃ name, alternative? m d = some name ∧ name ∈ names
  | .optional type, d => d.isUnset = true ∨ d.isFalseNull = false ∧ Admits m type d
  | .record _ fields, d => ∃ entries, d.entries? = some entries ∧
    ∀ e ∈ entries, ∀ n, e.1.text? = some n → FieldAdmits m fields n e.2

def FieldAdmits (m : Markup) : List (String × FieldType) → String → Document → Prop
  | [], _, _ => True
  | (n, type) :: fields, name, d =>
    if name == n then Admits m type d else FieldAdmits m fields name d

end

mutual

/-- No record of a type is written as a list of its values, and the names in it are distinct. -/
def MapShaped : FieldType → Document → Prop
  | .text, _ | .truth, _ | .texts, _ | .variant _, _ => True
  | .optional type, d => MapShaped type d
  | .record _ fields, d => (∀ items, d ≠ .sequence items) ∧
    ∀ entries, d.entries? = some entries → HasDistinctNames entries ∧
      ∀ e ∈ entries, ∀ n, e.1.text? = some n → FieldMapShaped fields n e.2

def FieldMapShaped : List (String × FieldType) → String → Document → Prop
  | [], _, _ => True
  | (n, type) :: fields, name, d =>
    if name == n then MapShaped type d else FieldMapShaped fields name d

end

mutual

/-- A document without the entries that a type has no field for, in nested records too. -/
def known : FieldType → Document → Document
  | .text, d | .truth, d | .texts, d | .variant _, d => d
  | .optional type, d => known type d
  | .record _ fields, d => d.filterEntries fun e =>
    match e.1.text? with
    | some n => (fieldKnown? fields n e.2).map (e.1, ·)
    | none => some e

def fieldKnown? : List (String × FieldType) → String → Document → Option Document
  | [], _, _ => none
  | (n, type) :: fields, name, d =>
    if name == n then some (known type d) else fieldKnown? fields name d

end

mutual

/-- The first fault of a document in its own order, where a type is wanted. -/
def fault? (m : Markup) : FieldType → Document → Option ReadError
  | .text, d => (readText d).fault?
  | .truth, d => (readBool d).fault?
  | .texts, d => (readList readText d).fault?
  | .variant names, d => (readEnum m (names.map (·, ())) d).fault?
  | .optional type, d =>
    if d.isUnset then none
    else if d.isFalseNull then (d.mismatch "null" : Reading Unit).fault?
    else fault? m type d
  | .record name fields, d =>
    match d.entries? with
    | some entries => entries.findSome? fun e =>
      e.1.text?.bind fun n => (fieldFault? m fields n e.2).map (.inside (.field n))
    | none => (d.mismatch name : Reading Unit).fault?

/-- The first fault of the value of a field. A value under another name has none. -/
def fieldFault? (m : Markup) : List (String × FieldType) → String → Document → Option ReadError
  | [], _, _ => none
  | (n, type) :: fields, name, d =>
    if name == n then fault? m type d else fieldFault? m fields name d

end

/-- The fault of an entry where a record with some fields is wanted. -/
def entryFault? (m : Markup) (fields : List (String × FieldType)) (e : Document × Document) :
    Option ReadError :=
  e.1.text?.bind fun n => (fieldFault? m fields n e.2).map (.inside (.field n))

lemma fault?_record (m : Markup) (name : String) (fields : List (String × FieldType))
    (d : Document) :
    (record name fields).fault? m d = match d.entries? with
      | some entries => entries.findSome? (entryFault? m fields)
      | none => (d.mismatch name : Reading Unit).fault? := by
  rw [fault?]
  rfl

lemma fieldAdmits_iff {m : Markup} {fields : List (String × FieldType)} {name : String}
    {d : Document} : FieldAdmits m fields name d ↔
      ∀ type, fields.lookup name = some type → type.Admits m d := by
  induction fields with
  | nil => exact ⟨nofun, fun _ => trivial⟩
  | cons field fields ih =>
    rw [FieldAdmits, List.lookup_cons]
    cases name == field.1 with
    | true => simp
    | false => simpa using ih

lemma fieldMapShaped_iff {fields : List (String × FieldType)} {name : String} {d : Document} :
    FieldMapShaped fields name d ↔ ∀ type, fields.lookup name = some type → type.MapShaped d := by
  induction fields with
  | nil => exact ⟨nofun, fun _ => trivial⟩
  | cons field fields ih =>
    rw [FieldMapShaped, List.lookup_cons]
    cases name == field.1 with
    | true => simp
    | false => simpa using ih

lemma mapShaped_mapping {name : String} {fields : List (String × FieldType)}
    {entries : List (Document × Document)} :
    (record name fields).MapShaped (mapping entries) ↔ HasDistinctNames entries ∧
      ∀ e ∈ entries, ∀ n, e.1.text? = some n → FieldMapShaped fields n e.2 := by
  rw [MapShaped, and_iff_right (fun _ => nofun)]
  exact ⟨fun h => h entries rfl, fun h _ hentries => Option.some.inj hentries ▸ h⟩

lemma admits_mapping {m : Markup} {name : String} {fields : List (String × FieldType)}
    {entries : List (Document × Document)} :
    (record name fields).Admits m (mapping entries) ↔
      ∀ e ∈ entries, ∀ n, e.1.text? = some n → FieldAdmits m fields n e.2 := by
  rw [Admits]
  exact ⟨fun ⟨_, hentries, h⟩ => Option.some.inj hentries ▸ h, fun h => ⟨entries, rfl, h⟩⟩

lemma fieldFault?_eq (m : Markup) (fields : List (String × FieldType)) (name : String)
    (d : Document) : fieldFault? m fields name d = (fields.lookup name).bind (·.fault? m d) := by
  induction fields with
  | nil => rfl
  | cons field fields ih =>
    rw [fieldFault?, List.lookup_cons, ih]
    cases name == field.1 <;> rfl

lemma fieldKnown?_eq (fields : List (String × FieldType)) (name : String) (d : Document) :
    fieldKnown? fields name d = (fields.lookup name).map (·.known d) := by
  induction fields with
  | nil => rfl
  | cons field fields ih =>
    rw [fieldKnown?, List.lookup_cons, ih]
    cases name == field.1 <;> rfl

/-- What holds of the types of single values, and of a record when it holds of its fields, holds
of every type. -/
@[elab_as_elim]
theorem induction {motive : FieldType → Prop} (text : motive .text) (truth : motive .truth)
    (texts : motive .texts) (variant : ∀ names, motive (.variant names))
    (optional : ∀ type, motive type → motive (.optional type))
    (record : ∀ name fields, (∀ n type, fields.lookup n = some type → motive type) →
      motive (.record name fields)) (type : FieldType) : motive type := by
  refine @FieldType.rec motive (fun fields => ∀ n type, fields.lookup n = some type → motive type)
    (fun field => motive field.2) text truth texts variant optional record ?_ ?_ ?_ type
  · intro n type h
    cases h
  · intro field fields hfield hfields n type h
    rw [List.lookup_cons] at h
    split at h
    · cases h
      exact hfield
    · exact hfields n type h
  · intro n type h
    exact h

lemma toOption_readEnum_names (m : Markup) (names : List String) (d : Document) :
    (readEnum m (names.map (·, ())) d).toOption.isSome = true ↔
      ∃ name, alternative? m d = some name ∧ name ∈ names := by
  rw [toOption_readEnum, variant?]
  cases alternative? m d <;> simp

lemma texts?_isSome_iff (d : Document) :
    d.texts?.isSome = true ↔
      ∃ items, d.items? = some items ∧ ∀ item ∈ items, ∃ s, item.text? = some s := by
  have hitems : ∀ items : List Document, (items.mapM text?).isSome = true ↔
      ∀ item ∈ items, ∃ s, item.text? = some s := by
    intro items
    induction items with
    | nil => simp
    | cons item items ih =>
      rw [List.mapM_cons, List.forall_mem_cons, ← ih]
      cases item.text? with
      | none => simp
      | some s => cases items.mapM text? <;> simp
  rw [texts?]
  cases d.items? with
  | none => simp
  | some items => simpa using hitems items

/-- A document without a fault is one that the type admits. -/
lemma fault?_eq_none_iff (m : Markup) (type : FieldType) (d : Document) :
    type.fault? m d = none ↔ type.Admits m d := by
  induction type using FieldType.induction generalizing d with
  | text => rw [fault?, Reading.fault?_eq_none, toOption_readText, Option.isSome_iff_exists, Admits]
  | truth =>
    rw [fault?, Reading.fault?_eq_none, toOption_readBool, Option.isSome_iff_exists, Admits]
  | texts => rw [fault?, Reading.fault?_eq_none, toOption_readList, texts?_isSome_iff, Admits]
  | variant names => rw [fault?, Reading.fault?_eq_none, toOption_readEnum_names, Admits]
  | optional type ih =>
    rw [fault?, Admits]
    by_cases hunset : d.isUnset = true
    · rw [if_pos hunset]
      exact iff_of_true rfl (Or.inl hunset)
    · rw [if_neg hunset, or_iff_right hunset]
      by_cases hnull : d.isFalseNull = true
      · rw [if_pos hnull, hnull]
        exact iff_of_false (d.fault?_mismatch_ne_none _) (by simp)
      · rw [if_neg hnull, ih, and_iff_right (Bool.eq_false_iff.2 hnull)]
  | record name fields ih =>
    rw [fault?_record, Admits]
    cases hentries : d.entries? with
    | none => exact iff_of_false (d.fault?_mismatch_ne_none _) (by simp)
    | some entries =>
      have hentry : ∀ e : Document × Document, entryFault? m fields e = none ↔
          ∀ n, e.1.text? = some n → FieldAdmits m fields n e.2 := by
        intro e
        rw [entryFault?]
        cases e.1.text? with
        | none => simp
        | some n =>
          rw [Option.bind_some, Option.map_eq_none_iff, fieldFault?_eq, Option.bind_eq_none_iff]
          simp only [Option.some.injEq, forall_eq', fieldAdmits_iff]
          exact forall₂_congr fun type htype => ih n type htype e.2
      simp only [Option.some.injEq, exists_eq_left']
      rw [List.findSome?_eq_none_iff]
      exact forall₂_congr fun e _ => hentry e

instance (m : Markup) (type : FieldType) (d : Document) : Decidable (type.Admits m d) :=
  decidable_of_iff _ (fault?_eq_none_iff m type d)

/-- A null is admitted where a value may be left unset, and nowhere else. -/
lemma admits_null_iff {m : Markup} {type : FieldType} :
    type.Admits m .null ↔ ∃ inner, type = .optional inner := by
  cases type with
  | variant names => cases m <;> simp [Admits, alternative?, text?]
  | _ => simp [Admits, text?, truth?, items?, entries?, isUnset]

/-- The fault of a record is that of its first entry that has one. -/
theorem fault?_record_eq_some_iff {m : Markup} {name : String}
    {fields : List (String × FieldType)} {d : Document}
    {entries : List (Document × Document)} (hd : d.entries? = some entries) {e : ReadError} :
    (record name fields).fault? m d = some e ↔
      ∃ before key v after n type inner, entries = before ++ (key, v) :: after ∧
        (∀ entry ∈ before, entryFault? m fields entry = none) ∧ key.text? = some n ∧
        fields.lookup n = some type ∧ type.fault? m v = some inner ∧
        inner.inside (.field n) = e := by
  have hentry : ∀ key v, entryFault? m fields (key, v) = some e ↔
      ∃ n type inner, key.text? = some n ∧ fields.lookup n = some type ∧
        type.fault? m v = some inner ∧ inner.inside (.field n) = e := by
    intro key v
    simp only [entryFault?, fieldFault?_eq, Option.bind_eq_some_iff, Option.map_eq_some_iff]
    constructor
    · rintro ⟨n, hn, inner, ⟨type, htype, hinner⟩, he⟩
      exact ⟨n, type, inner, hn, htype, hinner, he⟩
    · rintro ⟨n, type, inner, hn, htype, hinner, he⟩
      exact ⟨n, hn, inner, ⟨type, htype, hinner⟩, he⟩
  rw [fault?_record, hd]
  dsimp only
  rw [List.findSome?_eq_some_iff]
  constructor
  · rintro ⟨before, ⟨key, v⟩, after, hentries, he, hbefore⟩
    obtain ⟨n, type, inner, hfault⟩ := (hentry key v).1 he
    exact ⟨before, key, v, after, n, type, inner, hentries, hbefore, hfault⟩
  · rintro ⟨before, key, v, after, n, type, inner, hentries, hbefore, hfault⟩
    exact ⟨before, (key, v), after, hentries, (hentry key v).2 ⟨n, type, inner, hfault⟩, hbefore⟩

end FieldType

end SyncScript
