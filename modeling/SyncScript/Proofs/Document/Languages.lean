import SyncScript.Proofs.Document.Trees

/-!
# Records in two languages

A record is read from a document in YAML as it is read in TOML from the tree of the document, when
both languages read the tree alike: one lemma for each reader of a value, one for a schema whose
fields are all read alike, and from them every kind of record.
-/

namespace SyncScript

open Document FieldType

variable {α β : Type} {d : Document}

namespace FieldType

variable {name : String} {fields : List (String × FieldType)} {type : FieldType}

lemma Alike.of_optional (h : (optional type).Alike d) : type.Alike d where
  shared := h.shared
  texts v hv := h.texts v (.optional h.shared.isUnset_eq_false hv)
  named names v hv := h.named names v (.optional h.shared.isUnset_eq_false hv)
  mapped name fields v hv := h.mapped name fields v (.optional h.shared.isUnset_eq_false hv)

/-- The value of a field in a tree that is read alike is read alike. -/
lemma Alike.value (h : (record name fields).Alike d) {entries : List (Document × Document)}
    (hd : d.entries? = some entries) {e : Document × Document} (he : e ∈ entries) {n : String}
    (hn : e.1.text? = some n) (htype : fields.lookup n = some type) : type.Alike e.2 where
  shared := ((h.shared.of_entries? hd).2 e he).2
  texts v hv := h.texts v (.field hd he hn htype hv)
  named names v hv := h.named names v (.field hd he hn htype hv)
  mapped name' fields' v hv := h.mapped name' fields' v (.field hd he hn htype hv)

end FieldType

section Values

variable {type : FieldType}

lemma readText_resolved (h : FieldType.text.Alike d.resolved) :
    (readText d).toOption = (readText d.resolved).toOption := by
  rw [toOption_readText, toOption_readText,
    text?_resolved_of_not_literal h.shared (h.texts _ (.here _ _))]

lemma readBool_resolved (h : FieldType.truth.Alike d.resolved) :
    (readBool d).toOption = (readBool d.resolved).toOption := by
  rw [toOption_readBool, toOption_readBool, truth?_resolved h.shared]

lemma readOption_resolved {read : Document → Reading α}
    (hread : ∀ d, type.Alike d.resolved → (read d).toOption = (read d.resolved).toOption)
    (h : (optional type).Alike d.resolved) :
    (readOption read d).toOption = (readOption read d.resolved).toOption := by
  have hshared := h.shared
  rw [readOption, readOption, isUnset_resolved hshared, isFalseNull_resolved hshared,
    hshared.isUnset_eq_false, hshared.isFalseNull_eq_false]
  exact Reading.toOption_map_congr some (hread d h.of_optional)

lemma readEnum_resolved {variants : List (String × α)}
    (hnames : ∀ name ∈ variants.map Prod.fst, Scalar.resolve name = .text name)
    (h : (FieldType.variant (variants.map Prod.fst)).Alike d.resolved) :
    (readEnum .yaml variants d).toOption = (readEnum .toml variants d.resolved).toOption := by
  rw [toOption_readEnum, toOption_readEnum]
  exact (variant?_resolved hnames h.shared (h.named _ _ (.here _ _))).symm

lemma mapM_text?_resolved {items : List Document}
    (h : ∀ item ∈ items, item.resolved.text? = item.text?) :
    (items.map resolved).mapM text? = items.mapM text? := by
  induction items with
  | nil => rfl
  | cons item items ih =>
    rw [List.forall_mem_cons] at h
    rw [List.map_cons, List.mapM_cons, List.mapM_cons, h.1, ih h.2]

lemma texts?_resolved (h : FieldType.texts.Alike d.resolved) : d.resolved.texts? = d.texts? := by
  rw [texts?, texts?, items?_resolved h.shared]
  cases hd : d.items? with
  | none => rfl
  | some items =>
    have hitems : d.resolved.items? = some (items.map resolved) := by
      rw [items?_resolved h.shared, hd, Option.map_some]
    refine mapM_text?_resolved fun item hitem => ?_
    have hwants : FieldType.texts.Wants d.resolved .text item.resolved :=
      .item hitems (List.mem_map_of_mem hitem)
    exact text?_resolved_of_not_literal (hwants.isShared h.shared) (h.texts _ hwants)

lemma PackageList.ofDocument_resolved (h : FieldType.texts.Alike d.resolved) :
    (PackageList.ofDocument d).toOption = (PackageList.ofDocument d.resolved).toOption := by
  rw [ofDocument, ofDocument, Reading.toOption_map, Reading.toOption_map, toOption_readList,
    toOption_readList, texts?_resolved h]

end Values

/-- Two readers of a field, one for documents in YAML and one for their trees in TOML. -/
structure Field.ReadAlike (field : String × FieldType) (f f' : Field α) : Prop where
  name : f.name = field.1
  name' : f'.name = field.1
  required : f.required = f'.required
  read : ∀ d a, field.2.Alike d.resolved →
    (f.read d a).toOption = (f'.read d.resolved a).toOption

lemma Field.ReadAlike.of {name : String} {read read' : Document → Reading β} {put : α → β → α}
    {required : Bool} {type : FieldType}
    (h : ∀ d, type.Alike d.resolved → (read d).toOption = (read' d.resolved).toOption) :
    ReadAlike (name, type) (Field.of name read put required)
      (Field.of name read' put required) where
  name := rfl
  name' := rfl
  required := rfl
  read d a hd := Reading.toOption_map_congr (put a) (h d hd)

/-- Fields for documents in YAML and for their trees in TOML, in the same order. -/
inductive FieldsAlike : List (String × FieldType) → List (Field α) → List (Field α) → Prop
  | nil : FieldsAlike [] [] []
  | cons {field : String × FieldType} {fields : List (String × FieldType)} {f f' : Field α}
    {known known' : List (Field α)} (h : f.ReadAlike field f')
    (hs : FieldsAlike fields known known') :
    FieldsAlike (field :: fields) (f :: known) (f' :: known')

namespace Schema

variable {s s' : Schema α} {name : String} {fields : List (String × FieldType)}
  {entries : List (Document × Document)}

lemma field?_alike (h : FieldsAlike fields s.fields s'.fields) (n : String) :
    (s.field? n = none ∧ s'.field? n = none) ∨
      ∃ f f' type, s.field? n = some f ∧ s'.field? n = some f' ∧
        fields.lookup n = some type ∧ f.ReadAlike (n, type) f' := by
  unfold field?
  generalize s.fields = known, s'.fields = known' at h
  induction h with
  | nil => exact Or.inl ⟨rfl, rfl⟩
  | @cons field fields f f' known known' hfield _ ih =>
    rw [List.find?_cons, List.find?_cons, List.lookup_cons, hfield.name, hfield.name', BEq.comm]
    cases hn : n == field.1 with
    | true =>
      rw [beq_iff_eq] at hn
      exact Or.inr ⟨f, f', field.2, rfl, rfl, rfl, hn ▸ hfield⟩
    | false => exact ih

lemma readEntry_resolved (h : FieldsAlike fields s.fields s'.fields) {e : Document × Document}
    (hkey : ∃ n, e.1.resolved = .text n)
    (hvalue : ∀ n type, e.1.resolved.text? = some n → fields.lookup n = some type →
      type.Alike e.2.resolved) (a : α) :
    (s.readEntry a e).toOption = (s'.readEntry a (e.1.resolved, e.2.resolved)).toOption := by
  obtain ⟨n, hn⟩ := hkey
  rw [readEntry, readEntry, text?_resolved hn, hn]
  dsimp only [text?]
  rcases field?_alike h n with ⟨hnone, hnone'⟩ | ⟨f, f', type, hf, hf', htype, hread⟩
  · rw [hnone, hnone']
  · rw [hf, hf']
    have halike := hvalue n type (by rw [hn, text?]) htype
    dsimp only
    rw [Reading.toOption_inside, Reading.toOption_inside, hread.read e.2 a halike]

/-- Entries of a tree that both languages read alike as a record. -/
def EntriesAlike (fields : List (String × FieldType)) (entries : List (Document × Document)) :
    Prop :=
  ∀ e ∈ entries, (∃ n, e.1.resolved = .text n) ∧ ∀ n type, e.1.resolved.text? = some n →
    fields.lookup n = some type → type.Alike e.2.resolved

lemma foldlM_resolved (h : FieldsAlike fields s.fields s'.fields)
    (hentries : EntriesAlike fields entries) (a : α) :
    (entries.foldlM s.readEntry a).toOption =
      ((resolvedEntries entries).foldlM s'.readEntry a).toOption := by
  induction entries generalizing a with
  | nil => rfl
  | cons e entries ih =>
    obtain ⟨he, hentries⟩ := List.forall_mem_cons.1 hentries
    have hentry := readEntry_resolved h he.1 he.2 a
    rw [resolvedEntries, List.foldlM_cons, List.foldlM_cons, Reading.toOption_bind,
      Reading.toOption_bind, hentry]
    exact Option.bind_congr fun a' _ => ih hentries a'

lemma givenNames_resolved (h : FieldsAlike fields s.fields s'.fields)
    (hentries : EntriesAlike fields entries) :
    s'.givenNames (resolvedEntries entries) = s.givenNames entries := by
  have hfield : ∀ n, (s'.field? n).isSome = (s.field? n).isSome := by
    intro n
    rcases field?_alike h n with ⟨hnone, hnone'⟩ | ⟨f, f', type, hf, hf', -, -⟩
    · rw [hnone, hnone']
    · rw [hf, hf']
      rfl
  rw [givenNames, givenNames, filterMap_text?_resolved fun e he => (hentries e he).1]
  exact List.filter_congr fun n _ => hfield n

lemma find?_required_alike {known known' : List (Field α)} (h : FieldsAlike fields known known')
    (given : List String) :
    (known.find? fun f => f.required && ! given.contains f.name).isSome =
      (known'.find? fun f => f.required && ! given.contains f.name).isSome := by
  induction h with
  | nil => rfl
  | cons hfield _ ih =>
    rw [List.find?_cons, List.find?_cons, hfield.name, hfield.name', hfield.required]
    split
    · rfl
    · exact ih

lemma readEntries_resolved (h : FieldsAlike fields s.fields s'.fields)
    (hentries : EntriesAlike fields entries) (a : α) :
    (s.readEntries a entries).toOption = (s'.readEntries a (resolvedEntries entries)).toOption := by
  have hrequired := find?_required_alike h (s.givenNames entries)
  rw [readEntries, readEntries, Reading.toOption_bind, Reading.toOption_bind,
    foldlM_resolved h hentries, givenNames_resolved h hentries]
  refine Option.bind_congr fun a' _ => ?_
  dsimp only
  generalize s.givenNames entries = given at hrequired
  cases firstRepeated given with
  | some n => rfl
  | none =>
    generalize (s.fields.find? fun f => f.required && ! given.contains f.name) = missing,
      (s'.fields.find? fun f => f.required && ! given.contains f.name) = missing' at hrequired
    cases missing <;> cases missing'
    · rfl
    · cases hrequired
    · cases hrequired
    · rfl

/-- A record is read in YAML as it is read in TOML from the tree of the document. -/
lemma read_resolved (h : FieldsAlike fields s.fields s'.fields)
    (hd : (record name fields).Alike d.resolved) (a : α) :
    (s.read .yaml a d).toOption = (s'.read .toml a d.resolved).toOption := by
  have hresolved : ∀ items, d.resolved ≠ .sequence items := hd.mapped name fields _ (.here _ _)
  have hsequence : ∀ items, d ≠ .sequence items := by
    rintro items rfl
    exact hresolved _ rfl
  rw [read_eq hsequence, read_eq hresolved, entries?_resolved hd.shared]
  cases hentries : d.entries? with
  | none =>
    dsimp only [Option.map_none]
    rw [toOption_mismatch, toOption_mismatch]
  | some entries =>
    refine readEntries_resolved h (fun e he => ?_) a
    have hresolved : d.resolved.entries? = some (resolvedEntries entries) := by
      rw [entries?_resolved hd.shared, hentries, Option.map_some]
    have hmem : (e.1.resolved, e.2.resolved) ∈ resolvedEntries entries := by
      rw [resolvedEntries_eq]
      exact List.mem_map_of_mem (f := fun e => (e.1.resolved, e.2.resolved)) he
    exact ⟨((hd.shared.of_entries? hresolved).2 _ hmem).1,
      fun n type hn htype => hd.value hresolved hmem hn htype⟩

end Schema

lemma Endpoint.ofDocument_resolved (h : documentType.Alike d.resolved) :
    (ofDocument .yaml d).toOption = (ofDocument .toml d.resolved).toOption := by
  have hkinds : ∀ name ∈ EndpointKind.variants.map Prod.fst,
      Scalar.resolve name = .text name := by
    decide +kernel
  refine Schema.read_resolved ?_ h _
  exact .cons (.of fun _ => readEnum_resolved hkinds) <|
    .cons (.of fun _ => readText_resolved) <|
    .cons (.of fun _ => readOption_resolved fun _ => readText_resolved) <|
    .cons (.of fun _ => readOption_resolved fun _ => readText_resolved) <|
    .cons (.of fun _ => readOption_resolved fun _ => readText_resolved) <|
    .cons (.of fun _ => readOption_resolved fun _ => readText_resolved) <|
    .cons (.of fun _ => readBool_resolved) <|
    .cons (.of fun _ => readOption_resolved fun _ => readBool_resolved) .nil

lemma System.ofDocument_resolved (h : documentType.Alike d.resolved) :
    (ofDocument .yaml d).toOption = (ofDocument .toml d.resolved).toOption := by
  have hmanagers : ∀ name ∈ PackageManager.variants.map Prod.fst,
      Scalar.resolve name = .text name := by
    decide +kernel
  refine Schema.read_resolved ?_ h _
  exact .cons (.of fun _ => readEnum_resolved hmanagers) <|
    .cons (.of fun _ => readBool_resolved) <|
    .cons (.of fun _ => readBool_resolved) <|
    .cons (.of fun _ => readBool_resolved) <|
    .cons (.of fun _ => PackageList.ofDocument_resolved) .nil

lemma SyncOptions.ofDocument_resolved (h : documentType.Alike d.resolved) :
    (ofDocument .yaml d).toOption = (ofDocument .toml d.resolved).toOption := by
  refine Schema.read_resolved ?_ h _
  exact .cons (.of fun _ => readBool_resolved) <| .cons (.of fun _ => readText_resolved) .nil

end SyncScript
