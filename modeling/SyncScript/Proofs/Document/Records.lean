import Mathlib.Data.List.Find
import Mathlib.Data.List.Induction
import SyncScript.Document.PlanSchema
import SyncScript.Proofs.Document.FieldTypes
import SyncScript.Proofs.Results

/-!
# Reading records

A schema reads a record entry by entry. When its fields have types, the error it stops at is the
first fault of the document, and only a document without faults can miss a required field. What
comes out is determined by how one more entry changes the record.
-/

namespace SyncScript

open Document FieldType

variable {α β : Type}

/-- A field whose reader fails exactly where its type finds a fault, and passes over the entries
that its type does not know. -/
structure Field.HasType (m : Markup) (f : Field α) (type : FieldType) : Prop where
  fault? : ∀ d a, type.MapShaped d → (f.read d a).fault? = type.fault? m d
  read_known : ∀ d a, f.read (type.known d) a = f.read d a

lemma Field.HasType.of {m : Markup} {name : String} {read : Document → Reading β}
    {put : α → β → α} {required : Bool} {type : FieldType}
    (hfault : ∀ d, type.MapShaped d → (read d).fault? = type.fault? m d)
    (hknown : ∀ d, read (type.known d) = read d) :
    (Field.of name read put required).HasType m type where
  fault? d a hd := (Reading.fault?_map (put a) (read d)).trans (hfault d hd)
  read_known d a := congrArg (put a <$> ·) (hknown d)

namespace Schema

/-- The fields of a schema with their types, in the same order. -/
def HasFields (m : Markup) (s : Schema α) (fields : List (String × FieldType)) : Prop :=
  List.Forall₂ (fun f field => f.name = field.1 ∧ f.HasType m field.2) s.fields fields

variable {m : Markup} {s : Schema α} {fields : List (String × FieldType)}

lemma field?_forall₂ {P : Field α → FieldType → Prop}
    (h : List.Forall₂ (fun f field => f.name = field.1 ∧ P f field.2) s.fields fields)
    (name : String) :
    (s.field? name = none ∧ fields.lookup name = none) ∨
      ∃ f type, s.field? name = some f ∧ fields.lookup name = some type ∧ P f type := by
  unfold field?
  generalize s.fields = known at h
  induction h with
  | nil => exact Or.inl ⟨rfl, rfl⟩
  | cons hfield hfields ih =>
    rename_i f field known fields
    obtain ⟨hname, htype⟩ := hfield
    rw [List.find?_cons, List.lookup_cons, hname, BEq.comm]
    cases name == field.1 with
    | true => exact Or.inr ⟨f, field.2, rfl, rfl, htype⟩
    | false => exact ih

lemma HasFields.field?_cases (h : s.HasFields m fields) (name : String) :
    (s.field? name = none ∧ fields.lookup name = none) ∨
      ∃ f type, s.field? name = some f ∧ fields.lookup name = some type ∧ f.HasType m type :=
  field?_forall₂ h name

lemma readEntry_eq_ok {key v : Document} {name : String} (hkey : key.text? = some name) {a a' : α}
    (h : s.readEntry a (key, v) = .ok a') :
    ((∀ f ∈ s.fields, ¬ name = f.name) ∧ a' = a) ∨
      ∃ f ∈ s.fields, name = f.name ∧ f.read v a = .ok a' := by
  rw [readEntry, hkey] at h
  dsimp only at h
  cases hfield : s.field? name with
  | none =>
    rw [hfield] at h
    cases h
    refine Or.inl ⟨fun f hf hname => ?_, rfl⟩
    exact List.find?_eq_none.1 hfield f hf (by simp [hname])
  | some f =>
    rw [hfield, ← Except.toOption_eq_some, Reading.toOption_inside, Except.toOption_eq_some] at h
    have hname : f.name = name := by simpa using List.find?_some hfield
    exact Or.inr ⟨f, List.mem_of_find?_eq_some hfield, hname.symm, h⟩

lemma readEntry_fault? (h : s.HasFields m fields) {e : Document × Document}
    (hnamed : e.1.text?.isSome = true)
    (hshape : ∀ n, e.1.text? = some n → FieldMapShaped fields n e.2) (a : α) :
    (s.readEntry a e).fault? = entryFault? m fields e := by
  obtain ⟨name, hname⟩ := Option.isSome_iff_exists.1 hnamed
  rw [readEntry, entryFault?, hname, Option.bind_some, fieldFault?_eq]
  dsimp only
  rcases h.field?_cases name with ⟨hfield, htype⟩ | ⟨f, type, hfield, htype, hread⟩
  · rw [hfield, htype]
    rfl
  · have hvalue := fieldMapShaped_iff.1 (hshape name hname) type htype
    rw [hfield, htype, Option.bind_some, ← hread.fault? e.2 a hvalue]
    exact Reading.fault?_inside _ _

/-- Reading the entries one after the other stops at the first fault among them. -/
lemma foldlM_fault? (h : s.HasFields m fields) {entries : List (Document × Document)}
    (hnamed : ∀ e ∈ entries, e.1.text?.isSome = true)
    (hshape : ∀ e ∈ entries, ∀ n, e.1.text? = some n → FieldMapShaped fields n e.2) (a : α) :
    (entries.foldlM s.readEntry a).fault? = entries.findSome? (entryFault? m fields) := by
  induction entries generalizing a with
  | nil => rfl
  | cons e entries ih =>
    rw [List.forall_mem_cons] at hnamed hshape
    -- what has been read so far has no influence on where the next entry fails
    have hentry := readEntry_fault? h hnamed.1 hshape.1 a
    rw [List.foldlM_cons, List.findSome?_cons, ← hentry]
    cases s.readEntry a e with
    | error fault => rfl
    | ok a' => exact ih hnamed.2 hshape.2 a'

/-- The first required field that has no value. -/
def missing? (s : Schema α) (entries : List (Document × Document)) : Option String :=
  (s.fields.find? fun f => f.required && (valueOf? f.name entries).isNone).map Field.name

lemma firstRepeated_eq_none {names : List String} (h : names.Nodup) :
    firstRepeated names = none := by
  induction names with
  | nil => rfl
  | cons name names ih =>
    rw [List.nodup_cons] at h
    rw [firstRepeated, if_neg (by simpa using h.1), ih h.2]

lemma contains_givenNames {f : Field α} (hf : f ∈ s.fields) (entries : List (Document × Document)) :
    (s.givenNames entries).contains f.name = (valueOf? f.name entries).isSome := by
  have hfield : (s.field? f.name).isSome = true :=
    List.find?_isSome.2 ⟨f, hf, by simp⟩
  rw [Bool.eq_iff_iff, List.contains_iff_mem, givenNames, List.mem_filter, List.mem_filterMap,
    and_iff_left hfield, ← not_iff_not, Bool.not_eq_true, Option.isSome_eq_false_iff,
    Option.isNone_iff_eq_none, valueOf?_eq_none_iff]
  simp

lemma readEntries_eq {entries : List (Document × Document)} (hnames : HasDistinctNames entries)
    (initial : α) :
    s.readEntries initial entries = entries.foldlM s.readEntry initial >>= fun a =>
      match s.missing? entries with
      | some name => Reading.fail (.missingField name)
      | none => .ok a := by
  have hrepeated : firstRepeated (s.givenNames entries) = none :=
    firstRepeated_eq_none (hnames.nodup.filter _)
  have hmissing : (s.fields.find? fun f => f.required && ! (s.givenNames entries).contains f.name) =
      s.fields.find? fun f => f.required && (valueOf? f.name entries).isNone := by
    apply List.find?_congr
    intro f hf
    rw [contains_givenNames hf]
    simp
  rw [readEntries, missing?]
  dsimp only
  rw [hrepeated, hmissing]
  cases s.fields.find? fun f => f.required && (valueOf? f.name entries).isNone <;> rfl

lemma readEntries_eq_ok_iff {entries : List (Document × Document)}
    (hnames : HasDistinctNames entries) {initial a : α} :
    s.readEntries initial entries = .ok a ↔
      entries.foldlM s.readEntry initial = .ok a ∧ s.missing? entries = none := by
  rw [readEntries_eq hnames, Except.bind_eq_ok]
  cases s.missing? entries with
  | some name =>
    constructor
    · rintro ⟨_, -, h⟩
      cases h
    · rintro ⟨-, h⟩
      cases h
  | none => simp

lemma missing?_eq_none (h : ∀ f ∈ s.fields, f.required = false)
    (entries : List (Document × Document)) : s.missing? entries = none := by
  rw [missing?, Option.map_eq_none_iff, List.find?_eq_none]
  intro f hf
  simp [h f hf]

lemma read_eq {d : Document} (hd : ∀ items, d ≠ .sequence items) (initial : α) :
    s.read m initial d = match d.entries? with
      | some entries => s.readEntries initial entries
      | none => d.mismatch s.name := by
  have hplain : ∀ (value : String) (d : Document),
      (if value.isEmpty then s.readEntries initial [] else d.mismatch s.name) =
        match (if value.isEmpty then some [] else none) with
        | some entries => s.readEntries initial entries
        | none => d.mismatch s.name := by
    intro value d
    split <;> rfl
  cases d with
  | sequence items => exact absurd rfl (hd items)
  | plain value => exact hplain value (.plain value)
  | tagged tag d =>
    cases d with
    | plain value => exact hplain value (.tagged tag (.plain value))
    | _ => rfl
  | _ => rfl

/-- A record fails where its type finds a fault, and without a fault where a required field is
missing. -/
lemma read_fault? (h : s.HasFields m fields) {d : Document}
    (hshape : (FieldType.record s.name fields).MapShaped d) (initial : α) :
    (s.read m initial d).fault? = ((FieldType.record s.name fields).fault? m d).or
      ((d.entries?.bind s.missing?).map fun name => ⟨[], .missingField name⟩) := by
  rw [MapShaped] at hshape
  obtain ⟨hsequence, hentries⟩ := hshape
  rw [read_eq hsequence, fault?_record]
  cases hd : d.entries? with
  | none =>
    dsimp only [Option.bind_none, Option.map_none]
    rw [Option.or_none]
    exact d.fault?_mismatch s.name
  | some entries =>
    obtain ⟨hnames, hvalues⟩ := hentries entries hd
    dsimp only [Option.bind_some]
    rw [readEntries_eq hnames, ← foldlM_fault? h hnames.named hvalues]
    cases entries.foldlM s.readEntry initial with
    | error e => rfl
    | ok a =>
      change Reading.fault? (match s.missing? entries with
        | some name => Reading.fail (.missingField name)
        | none => .ok a) = _
      cases s.missing? entries <;> rfl

lemma read_fault?_of_optional (h : s.HasFields m fields)
    (hrequired : ∀ f ∈ s.fields, f.required = false) {d : Document}
    (hshape : (FieldType.record s.name fields).MapShaped d) (initial : α) :
    (s.read m initial d).fault? = (FieldType.record s.name fields).fault? m d := by
  have hmissing : d.entries?.bind s.missing? = none := by
    cases d.entries? with
    | none => rfl
    | some entries => exact missing?_eq_none hrequired entries
  rw [read_fault? h hshape, hmissing, Option.map_none, Option.or_none]

section Known

/-- What becomes of an entry when the entries that a record has no field for are left out. -/
def knownEntry (fields : List (String × FieldType)) (e : Document × Document) :
    Option (Document × Document) :=
  match e.1.text? with
  | some n => (fieldKnown? fields n e.2).map (e.1, ·)
  | none => some e

lemma knownEntry_cases (h : s.HasFields m fields) (e : Document × Document) :
    (∃ name, e.1.text? = some name ∧ s.field? name = none ∧ knownEntry fields e = none) ∨
      ∃ e', knownEntry fields e = some e' ∧ e'.1 = e.1 ∧
        ∀ a, s.readEntry a e' = s.readEntry a e := by
  rw [knownEntry]
  cases hname : e.1.text? with
  | none => exact Or.inr ⟨e, rfl, rfl, fun _ => rfl⟩
  | some name =>
    dsimp only
    rw [fieldKnown?_eq]
    rcases h.field?_cases name with ⟨hfield, htype⟩ | ⟨f, type, hfield, htype, hread⟩
    · rw [htype]
      exact Or.inl ⟨name, rfl, hfield, rfl⟩
    · rw [htype]
      refine Or.inr ⟨(e.1, type.known e.2), rfl, rfl, fun a => ?_⟩
      rw [readEntry, readEntry, hname]
      dsimp only
      rw [hfield]
      dsimp only
      rw [hread.read_known]

lemma foldlM_known (h : s.HasFields m fields) (entries : List (Document × Document)) (a : α) :
    (entries.filterMap (knownEntry fields)).foldlM s.readEntry a =
      entries.foldlM s.readEntry a := by
  induction entries generalizing a with
  | nil => rfl
  | cons e entries ih =>
    rcases knownEntry_cases h e with ⟨name, hname, hfield, hnone⟩ | ⟨e', hsome, -, hread⟩
    · have hskip : s.readEntry a e = .ok a := by
        rw [readEntry, hname]
        dsimp only
        rw [hfield]
      rw [List.filterMap_cons_none hnone, ih, List.foldlM_cons, hskip]
      rfl
    · rw [List.filterMap_cons_some hsome, List.foldlM_cons, List.foldlM_cons, hread]
      exact bind_congr ih

lemma givenNames_known (h : s.HasFields m fields) (entries : List (Document × Document)) :
    s.givenNames (entries.filterMap (knownEntry fields)) = s.givenNames entries := by
  unfold givenNames
  induction entries with
  | nil => rfl
  | cons e entries ih =>
    rcases knownEntry_cases h e with ⟨name, hname, hfield, hnone⟩ | ⟨e', hsome, hkey, -⟩
    · have hunknown : ¬ (s.field? name).isSome = true := by simp [hfield]
      have hcons : (e :: entries).filterMap (·.1.text?) =
          name :: entries.filterMap (·.1.text?) :=
        List.filterMap_cons_some hname
      rw [List.filterMap_cons_none hnone, ih, hcons, List.filter_cons, hfield]
      rfl
    · rw [List.filterMap_cons_some hsome, List.filterMap_cons, List.filterMap_cons, hkey]
      cases e.1.text? with
      | none => exact ih
      | some name =>
        dsimp only
        rw [List.filter_cons, List.filter_cons, ih]

/-- Entries without a field, at any level, change neither what is read nor the error. -/
lemma read_known (h : s.HasFields m fields) (d : Document) (initial : α) :
    s.read m initial ((FieldType.record s.name fields).known d) = s.read m initial d := by
  have hentries : ∀ entries,
      s.readEntries initial (entries.filterMap (knownEntry fields)) =
        s.readEntries initial entries := by
    intro entries
    rw [readEntries, readEntries, foldlM_known h, givenNames_known h]
  rw [known]
  cases d with
  | mapping entries => exact hentries entries
  | tagged tag d =>
    cases d with
    | mapping entries => exact hentries entries
    | _ => rfl
  | _ => rfl

end Known

/-- If each entry changes a record as it should, then what comes out of all of them is as it
should be: the state after some entries determines the state after one more. -/
lemma eq_of_foldlM {result : List (Document × Document) → α}
    (hstep : ∀ entries key v name a, key.text? = some name → valueOf? name entries = none →
      FieldMapShaped fields name v → s.readEntry (result entries) (key, v) = .ok a →
      a = result (entries ++ [(key, v)]))
    {entries : List (Document × Document)} (hnames : HasDistinctNames entries)
    (hshape : ∀ e ∈ entries, ∀ n, e.1.text? = some n → FieldMapShaped fields n e.2) {a : α}
    (h : entries.foldlM s.readEntry (result []) = .ok a) : a = result entries := by
  induction entries using List.reverseRecOn generalizing a with
  | nil =>
    cases h
    rfl
  | append_singleton entries e ih =>
    obtain ⟨key, v⟩ := e
    obtain ⟨hbefore, name, hkey, hnew⟩ := hasDistinctNames_concat hnames
    rw [List.forall_mem_append, List.forall_mem_singleton] at hshape
    rw [List.foldlM_append] at h
    obtain ⟨before, hfold, hlast⟩ := Except.bind_eq_ok.1 h
    rw [ih hbefore hshape.1 hfold, List.foldlM_cons] at hlast
    obtain ⟨after, hread, hafter⟩ := Except.bind_eq_ok.1 hlast
    cases hafter
    exact hstep entries key v name a hkey hnew (hshape.2 name hkey) hread

lemma eq_of_read {result : List (Document × Document) → α}
    (hstep : ∀ entries key v name a, key.text? = some name → valueOf? name entries = none →
      FieldMapShaped fields name v → s.readEntry (result entries) (key, v) = .ok a →
      a = result (entries ++ [(key, v)]))
    {d : Document} (hshape : (FieldType.record s.name fields).MapShaped d) {a : α}
    (h : s.read m (result []) d = .ok a) : d.entries?.map result = some a := by
  rw [MapShaped] at hshape
  obtain ⟨hsequence, hentries⟩ := hshape
  rw [read_eq hsequence] at h
  cases hd : d.entries? with
  | none =>
    rw [hd, ← Except.toOption_eq_some, toOption_mismatch] at h
    cases h
  | some entries =>
    obtain ⟨hnames, hvalues⟩ := hentries entries hd
    rw [hd] at h
    dsimp only at h
    rw [readEntries_eq hnames] at h
    obtain ⟨a', hfold, hmissing⟩ := Except.bind_eq_ok.1 h
    split at hmissing
    · cases hmissing
    · cases hmissing
      rw [eq_of_foldlM hstep hnames hvalues hfold]
      rfl

/-- Reading gives a record exactly when its type admits the document and no required field is
missing. -/
lemma read_eq_ok_iff (h : s.HasFields m fields) {result : List (Document × Document) → α}
    (hstep : ∀ entries key v name a, key.text? = some name → valueOf? name entries = none →
      FieldMapShaped fields name v → s.readEntry (result entries) (key, v) = .ok a →
      a = result (entries ++ [(key, v)]))
    {d : Document} (hshape : (FieldType.record s.name fields).MapShaped d) {a : α} :
    s.read m (result []) d = .ok a ↔ (FieldType.record s.name fields).Admits m d ∧
      d.entries?.bind s.missing? = none ∧ d.entries?.map result = some a := by
  have hfault := read_fault? h hshape (result [])
  constructor
  · intro hread
    rw [hread] at hfault
    obtain ⟨hnone, hmissing⟩ := Option.or_eq_none_iff.1 hfault.symm
    exact ⟨(fault?_eq_none_iff m _ d).1 hnone, Option.map_eq_none_iff.1 hmissing,
      eq_of_read hstep hshape hread⟩
  · rintro ⟨hadmits, hmissing, ha⟩
    rw [(fault?_eq_none_iff m _ d).2 hadmits, hmissing, Option.map_none, Option.none_or] at hfault
    cases hread : s.read m (result []) d with
    | error e =>
      rw [hread] at hfault
      cases hfault
    | ok a' =>
      have ha' := eq_of_read hstep hshape hread
      rw [ha, Option.some.injEq] at ha'
      rw [ha']

end Schema

end SyncScript
