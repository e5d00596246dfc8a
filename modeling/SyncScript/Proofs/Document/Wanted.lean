import SyncScript.Proofs.Document.PlanFields

/-!
# What is wanted of the values in a document

Where a document is read with a type, other types are wanted of the values in it: of those under the
names of fields, or of those at the positions of fields where a record is written as a list. When a
record can be read, each of these values fits what is wanted of it.
-/

namespace SyncScript

open Document

variable {α β : Type} {m : Markup} {d v : Document}

namespace FieldType

/-- Where a document is read with one type, another type is wanted of a value in it. -/
inductive Wants : FieldType → Document → FieldType → Document → Prop
  | here (type : FieldType) (d : Document) : Wants type d type d
  | optional {type inner : FieldType} {d v : Document} (hset : d.isUnset = false)
    (h : Wants type d inner v) : Wants (.optional type) d inner v
  | item {d v : Document} {items : List Document} (hitems : d.items? = some items)
    (hv : v ∈ items) : Wants .texts d .text v
  | field {name n : String} {fields : List (String × FieldType)} {type inner : FieldType}
    {d v : Document} {entries : List (Document × Document)} {e : Document × Document}
    (hentries : d.entries? = some entries) (he : e ∈ entries) (hname : e.1.text? = some n)
    (htype : fields.lookup n = some type) (h : Wants type e.2 inner v) :
    Wants (.record name fields) d inner v
  | position {name n : String} {fields : List (String × FieldType)} {type inner : FieldType}
    {items : List Document} {i : Nat} {item v : Document} (htype : fields[i]? = some (n, type))
    (hitem : items[i]? = some item) (h : Wants type item inner v) :
    Wants (.record name fields) (.sequence items) inner v

/-- Whether a value can be what is wanted of it, whatever the values in it are. -/
def Fits (m : Markup) : FieldType → Document → Prop
  | .text, d => ∃ s, d.text? = some s
  | .truth, d => ∃ b, d.truth? = some b
  | .texts, d => ∃ items, d.items? = some items
  | .variant names, d => ∃ name, alternative? m d = some name ∧ name ∈ names
  | .optional _, _ => True
  | .record _ _, d => (∃ entries, d.entries? = some entries) ∨
    m ≠ .yaml ∧ ∃ items, d = .sequence items

/-- Every value in a document fits what is wanted of it. -/
def AllFit (m : Markup) (type : FieldType) (d : Document) : Prop :=
  ∀ inner v, type.Wants d inner v → inner.Fits m v

variable {type : FieldType}

lemma allFit_text {s : String} (h : readText d = .ok s) : text.AllFit m d := by
  intro inner v hv
  cases hv with | here =>
  exact ⟨s, readText_eq_ok.1 h⟩

lemma allFit_truth {b : Bool} (h : readBool d = .ok b) : truth.AllFit m d := by
  intro inner v hv
  cases hv with | here =>
  exact ⟨b, readBool_eq_ok.1 h⟩

lemma allFit_packages {l : PackageList} (h : PackageList.ofDocument d = .ok l) :
    texts.AllFit m d := by
  rw [PackageList.ofDocument_eq_ok, packages?, Option.map_eq_some_iff] at h
  obtain ⟨names, hnames, -⟩ := h
  obtain ⟨items, hitems, htexts⟩ := (texts?_isSome_iff d).1 (hnames ▸ rfl)
  intro inner v hv
  cases hv with
  | here => exact ⟨items, hitems⟩
  | item hitems' hv =>
    rw [hitems, Option.some.injEq] at hitems'
    exact htexts v (hitems' ▸ hv)

lemma allFit_variant {variants : List (String × β)} {b : β} (h : readEnum m variants d = .ok b) :
    (variant (variants.map Prod.fst)).AllFit m d := by
  rw [readEnum_eq_ok, variant?, Option.bind_eq_some_iff] at h
  obtain ⟨name, hname, hb⟩ := h
  have hmem : (variants.lookup name).isSome = true := hb ▸ rfl
  rw [List.lookup_isSome_iff] at hmem
  intro inner v hv
  cases hv with | here =>
  exact ⟨name, hname, by simpa using hmem⟩

lemma allFit_optional {read : Document → Reading β}
    (hread : ∀ d b, read d = .ok b → type.AllFit m d) {o : Option β}
    (h : readOption read d = .ok o) : (optional type).AllFit m d := by
  intro inner v hv
  cases hv with
  | here => trivial
  | optional hset hv =>
    rw [readOption, hset, if_neg Bool.false_ne_true] at h
    split at h
    · rw [← Except.toOption_eq_some, toOption_mismatch] at h
      cases h
    · obtain ⟨b, hb, -⟩ := Except.map_eq_ok.1 h
      exact hread d b hb inner v hv

end FieldType

open FieldType

/-- A field whose reader takes a value only if everything in it fits what is wanted. -/
def Field.Demands (m : Markup) (f : Field α) (type : FieldType) : Prop :=
  ∀ d a a', f.read d a = .ok a' → type.AllFit m d

lemma Field.demands_of {name : String} {read : Document → Reading β} {put : α → β → α}
    {required : Bool} {type : FieldType} (h : ∀ d b, read d = .ok b → type.AllFit m d) :
    (Field.of name read put required).Demands m type := by
  intro d a a' hread
  obtain ⟨b, hb, -⟩ := Except.map_eq_ok.1 hread
  exact h d b hb

namespace Schema

/-- The fields of a schema with the types that they demand, in the same order. -/
def HasDemands (m : Markup) (s : Schema α) (fields : List (String × FieldType)) : Prop :=
  List.Forall₂ (fun f field => f.name = field.1 ∧ f.Demands m field.2) s.fields fields

variable {s : Schema α} {fields : List (String × FieldType)} {a a' : α}

lemma allFit_of_readEntry (h : s.HasDemands m fields) {e : Document × Document} {n : String}
    (hname : e.1.text? = some n) {type : FieldType} (htype : fields.lookup n = some type)
    (hread : s.readEntry a e = .ok a') : type.AllFit m e.2 := by
  rw [readEntry, hname] at hread
  dsimp only at hread
  rcases field?_forall₂ h n with ⟨-, hnone⟩ | ⟨f, type', hfield, htype', hdemands⟩
  · rw [hnone] at htype
    cases htype
  · rw [htype, Option.some.injEq] at htype'
    subst htype'
    rw [hfield, ← Except.toOption_eq_some, Reading.toOption_inside, Except.toOption_eq_some]
      at hread
    exact hdemands e.2 a a' hread

lemma allFit_of_readPositions {known : List (Field α)}
    (h : List.Forall₂ (fun f field => f.name = field.1 ∧ f.Demands m field.2) known fields)
    {start : Nat} {items : List Document} (hread : s.readPositions start known items a = .ok a')
    {i : Nat} {n : String} {type : FieldType} (htype : fields[i]? = some (n, type))
    {item : Document} (hitem : items[i]? = some item) : type.AllFit m item := by
  induction h generalizing start items a i with
  | nil => cases htype
  | cons hfield _ ih =>
    cases items with
    | nil => cases hitem
    | cons head items =>
      obtain ⟨between, hhead, hrest⟩ := Except.bind_eq_ok.1 hread
      cases i with
      | zero =>
        cases htype
        cases hitem
        rw [← Except.toOption_eq_some, Reading.toOption_inside, Except.toOption_eq_some] at hhead
        exact hfield.2 item a between hhead
      | succ i => exact ih hrest htype hitem

/-- Everything in a document that can be read as a record fits what is wanted of it. -/
lemma allFit_of_read (h : s.HasDemands m fields) (hread : s.read m a d = .ok a') (name : String) :
    (record name fields).AllFit m d := by
  intro inner v hv
  cases hv with
  | here =>
    by_cases hsequence : ∃ items, d = .sequence items
    · obtain ⟨items, rfl⟩ := hsequence
      refine Or.inr ⟨?_, items, rfl⟩
      rintro rfl
      rw [← Except.toOption_eq_some] at hread
      cases (toOption_mismatch (.sequence items) s.name).symm.trans hread
    · rw [read_eq (not_exists.1 hsequence)] at hread
      cases hentries : d.entries? with
      | some entries => exact Or.inl ⟨entries, hentries⟩
      | none =>
        rw [hentries, ← Except.toOption_eq_some, toOption_mismatch] at hread
        cases hread
  | field hentries he hname htype hv =>
    have hsequence : ∀ items, d ≠ .sequence items := by
      rintro items rfl
      cases hentries
    rw [read_eq hsequence, hentries] at hread
    obtain ⟨read, hfold, -⟩ := Except.bind_eq_ok.1 hread
    obtain ⟨before, after, hentry⟩ := Except.exists_of_foldlM hfold he
    exact allFit_of_readEntry h hname htype hentry inner v hv
  | @position _ _ _ _ _ items _ _ _ htype hitem hv =>
    -- YAML takes no list for a record, and the others read it by position
    have hpositions : ∃ read, s.readPositions 0 s.fields items a = .ok read := by
      cases m with
      | yaml =>
        rw [← Except.toOption_eq_some] at hread
        cases (toOption_mismatch (.sequence items) s.name).symm.trans hread
      | toml => exact ⟨a', hread⟩
      | json =>
        obtain ⟨read, hpositions, -⟩ := Except.bind_eq_ok.1 hread
        exact ⟨read, hpositions⟩
    obtain ⟨read, hpositions⟩ := hpositions
    exact allFit_of_readPositions h hpositions htype hitem inner v hv

end Schema

lemma Endpoint.allFit_of_ofDocument {e : Endpoint} (h : ofDocument m d = .ok e) :
    documentType.AllFit m d := by
  have htext : ∀ d o, readOption readText d = .ok o → (optional text).AllFit m d :=
    fun _ _ => allFit_optional fun _ _ => allFit_text
  have htruth : ∀ d o, readOption readBool d = .ok o → (optional truth).AllFit m d :=
    fun _ _ => allFit_optional fun _ _ => allFit_truth
  refine Schema.allFit_of_read ?_ h _
  exact .cons ⟨rfl, Field.demands_of fun _ _ => allFit_variant⟩ <|
    .cons ⟨rfl, Field.demands_of fun _ _ => allFit_text⟩ <|
    .cons ⟨rfl, Field.demands_of htext⟩ <|
    .cons ⟨rfl, Field.demands_of htext⟩ <|
    .cons ⟨rfl, Field.demands_of htext⟩ <|
    .cons ⟨rfl, Field.demands_of htext⟩ <|
    .cons ⟨rfl, Field.demands_of fun _ _ => allFit_truth⟩ <|
    .cons ⟨rfl, Field.demands_of htruth⟩ .nil

lemma System.allFit_of_ofDocument {s : System} (h : ofDocument m d = .ok s) :
    documentType.AllFit m d := by
  refine Schema.allFit_of_read ?_ h _
  exact .cons ⟨rfl, Field.demands_of fun _ _ => allFit_variant⟩ <|
    .cons ⟨rfl, Field.demands_of fun _ _ => allFit_truth⟩ <|
    .cons ⟨rfl, Field.demands_of fun _ _ => allFit_truth⟩ <|
    .cons ⟨rfl, Field.demands_of fun _ _ => allFit_truth⟩ <|
    .cons ⟨rfl, Field.demands_of fun _ _ => allFit_packages⟩ .nil

lemma SyncOptions.allFit_of_ofDocument {o : SyncOptions} (h : ofDocument m d = .ok o) :
    documentType.AllFit m d := by
  refine Schema.allFit_of_read ?_ h _
  exact .cons ⟨rfl, Field.demands_of fun _ _ => allFit_truth⟩ <|
    .cons ⟨rfl, Field.demands_of fun _ _ => allFit_text⟩ .nil

end SyncScript
