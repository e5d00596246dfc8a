import SyncScript.Proofs.Document.Rearranged

/-!
# Reading plans

When a plan can be read from a document and which plan it is, as long as records are written as
mappings with distinct names.
-/

namespace SyncScript

open Document FieldType

namespace Document

variable {β : Type} {value? : Document → Option β} {entries entries' : List (Document × Document)}
  {d d' : Document}

lemma valueOr_congr (h : SameValues entries entries') (name : String) (default : β)
    (hvalue : ∀ v v', valueOf? name entries = some v → Rearranged v v' → value? v = value? v') :
    valueOr name value? default entries = valueOr name value? default entries' := by
  have hrel := h.rel name
  rw [valueOr, valueOr]
  generalize valueOf? name entries' = o at hrel
  generalize hv : valueOf? name entries = o at hrel
  cases hrel with
  | none => rfl
  | some h => rw [Option.bind_some, Option.bind_some, hvalue _ _ hv h]

lemma entries?_map_congr {f : List (Document × Document) → β}
    (hf : ∀ {entries entries'}, d.entries? = some entries → SameValues entries entries' →
      f entries = f entries')
    {name : String} {fields : List (String × FieldType)}
    (hshape : (FieldType.record name fields).MapShaped d) (h : Rearranged d d') :
    d.entries?.map f = d'.entries?.map f := by
  rw [MapShaped] at hshape
  cases hd : d.entries? with
  | none =>
    cases hd' : d'.entries? with
    | none => rfl
    | some entries' =>
      obtain ⟨entries, hsome, -⟩ := h.symm.entries?_eq_some hd'
      rw [hd] at hsome
      cases hsome
  | some entries =>
    obtain ⟨entries', hd', hsame⟩ := h.entries?_eq_some hd
    rw [hd', Option.map_some, Option.map_some, hf hd (hsame (hshape.2 entries hd).1)]

/-- Rearranged records hold rearranged values under each name. -/
lemma member?_rel {name : String} {fields : List (String × FieldType)}
    (hshape : (FieldType.record name fields).MapShaped d) (h : Rearranged d d') (n : String) :
    Option.Rel Rearranged (d.member? n) (d'.member? n) := by
  rw [MapShaped] at hshape
  rw [member?, member?]
  cases hd : d.entries? with
  | none =>
    cases hd' : d'.entries? with
    | none => exact .none
    | some entries' =>
      obtain ⟨entries, hsome, -⟩ := h.symm.entries?_eq_some hd'
      rw [hd] at hsome
      cases hsome
  | some entries =>
    obtain ⟨entries', hd', hsame⟩ := h.entries?_eq_some hd
    rw [hd']
    exact (hsame (hshape.2 entries hd).1).rel n

lemma member?_rearranged {name : String} {fields : List (String × FieldType)}
    (hshape : (FieldType.record name fields).MapShaped d) (h : Rearranged d d') (n : String) :
    d.member? n = none ↔ d'.member? n = none := by
  have hrel := member?_rel hshape h n
  generalize d.member? n = o, d'.member? n = o' at hrel
  cases hrel <;> simp

end Document

variable {m : Markup} {entries entries' : List (Document × Document)}

lemma Endpoint.ofEntries_congr (h : SameValues entries entries') :
    ofEntries m entries = ofEntries m entries' := by
  rw [ofEntries, ofEntries]
  congr 1
  · exact valueOr_congr h _ _ fun v v' _ hv => hv.variant?_eq m _
  · exact valueOr_congr h _ _ fun v v' _ hv => hv.text?_eq
  · exact valueOr_congr h _ _ fun v v' _ hv => hv.optional?_eq Rearranged.text?_eq
  · exact valueOr_congr h _ _ fun v v' _ hv => hv.optional?_eq Rearranged.text?_eq
  · exact valueOr_congr h _ _ fun v v' _ hv => hv.optional?_eq Rearranged.text?_eq
  · exact valueOr_congr h _ _ fun v v' _ hv => hv.optional?_eq Rearranged.text?_eq
  · exact valueOr_congr h _ _ fun v v' _ hv => hv.truth?_eq
  · exact valueOr_congr h _ _ fun v v' _ hv => hv.optional?_eq Rearranged.truth?_eq

lemma System.ofEntries_congr (h : SameValues entries entries') :
    ofEntries m entries = ofEntries m entries' := by
  rw [ofEntries, ofEntries]
  congr 1
  · exact valueOr_congr h _ _ fun v v' _ hv => hv.variant?_eq m _
  · exact valueOr_congr h _ _ fun v v' _ hv => hv.truth?_eq
  · exact valueOr_congr h _ _ fun v v' _ hv => hv.truth?_eq
  · exact valueOr_congr h _ _ fun v v' _ hv => hv.truth?_eq
  · exact valueOr_congr h _ _ fun v v' _ hv => hv.packages?_eq

lemma SyncOptions.ofEntries_congr (h : SameValues entries entries') :
    ofEntries entries = ofEntries entries' := by
  rw [ofEntries, ofEntries]
  congr 1
  · exact valueOr_congr h _ _ fun v v' _ hv => hv.truth?_eq
  · exact valueOr_congr h _ _ fun v v' _ hv => hv.text?_eq

namespace Plan

lemma ofEntries_congr (h : SameValues entries entries')
    (hshape : ∀ e ∈ entries, ∀ n, e.1.text? = some n → FieldMapShaped fieldTypes n e.2) :
    ofEntries m entries = ofEntries m entries' := by
  have hvalue : ∀ {name v}, valueOf? name entries = some v → FieldMapShaped fieldTypes name v := by
    intro name v hv
    obtain ⟨key, hmem, hkey⟩ := mem_of_valueOf? hv
    exact hshape (key, v) hmem name hkey
  rw [ofEntries, ofEntries]
  congr 1
  · exact valueOr_congr h _ _ fun v v' hv => entries?_map_congr
      (fun _ => Endpoint.ofEntries_congr) (fieldMapShaped_iff.1 (hvalue hv) _ rfl)
  · exact valueOr_congr h _ _ fun v v' hv => entries?_map_congr
      (fun _ => Endpoint.ofEntries_congr) (fieldMapShaped_iff.1 (hvalue hv) _ rfl)
  · exact valueOr_congr h _ _ fun v v' hv => entries?_map_congr
      (fun _ => System.ofEntries_congr) (fieldMapShaped_iff.1 (hvalue hv) _ rfl)
  · exact valueOr_congr h _ _ fun v v' hv => entries?_map_congr
      (fun _ => SyncOptions.ofEntries_congr) (fieldMapShaped_iff.1 (hvalue hv) _ rfl)

lemma ofDocument_known (m : Markup) (d : Document) :
    ofDocument m (documentType.known d) = ofDocument m d :=
  Schema.read_known (hasFields m) d _

/-- The error of a document that has no fault but lacks a source or a target. -/
def missing? (d : Document) : Option ReadError :=
  if d.member? "source" = none then some ⟨[], .missingField "source"⟩
  else if d.member? "target" = none then some ⟨[], .missingField "target"⟩
  else none

variable {d : Document}

lemma missing?_schema (hd : d.entries? = some entries) :
    ((schema m).missing? entries).map (fun name => ⟨[], .missingField name⟩) = missing? d := by
  rw [missing?, member?, member?, hd, Option.bind_some, Option.bind_some, Schema.missing?]
  cases hsource : valueOf? "source" entries <;> cases htarget : valueOf? "target" entries <;>
    simp [schema, Field.of, hsource, htarget]

/-- The error of a document is that of its first value that is not admitted, and only without one
that of a missing field. -/
lemma fault?_ofDocument (h : documentType.MapShaped d) :
    (ofDocument m d).fault? = (documentType.fault? m d).or (missing? d) := by
  have hread : (ofDocument m d).fault? = (documentType.fault? m d).or
      ((d.entries?.bind (schema m).missing?).map fun name => ⟨[], .missingField name⟩) :=
    Schema.read_fault? (hasFields m) h _
  rw [hread]
  cases hfault : documentType.fault? m d with
  | some e => rfl
  | none =>
    obtain ⟨entries, hd, -⟩ := (fault?_eq_none_iff m documentType d).1 hfault
    rw [hd, Option.none_or, Option.none_or, Option.bind_some, missing?_schema hd]

lemma entries?_of_ofDocument (h : documentType.MapShaped d) {p : Plan}
    (hread : ofDocument m d = .ok p) : d.entries?.map (ofEntries m) = some p :=
  Schema.eq_of_read (fun _ _ _ _ _ => ofEntries_concat) h hread

lemma missing?_eq_none_iff :
    missing? d = none ↔ d.member? "source" ≠ none ∧ d.member? "target" ≠ none := by
  rw [missing?]
  split <;> rename_i hsource
  · simp [hsource]
  · split <;> rename_i htarget <;> simp [hsource, htarget]

lemma ofDocument_eq_ok_iff (h : documentType.MapShaped d) {p : Plan} :
    ofDocument m d = .ok p ↔ documentType.Admits m d ∧ missing? d = none ∧
      d.entries?.map (ofEntries m) = some p := by
  have hread : ofDocument m d = .ok p ↔ documentType.Admits m d ∧
      d.entries?.bind (schema m).missing? = none ∧ d.entries?.map (ofEntries m) = some p :=
    Schema.read_eq_ok_iff (hasFields m) (fun _ _ _ _ _ => ofEntries_concat) h
  rw [hread]
  refine and_congr_right fun hadmits => and_congr_left' ?_
  obtain ⟨entries, hd, -⟩ := hadmits
  rw [hd, Option.bind_some, ← missing?_schema (m := m) hd, Option.map_eq_none_iff]

lemma missing?_rearranged {d' : Document} (hshape : documentType.MapShaped d)
    (h : Rearranged d d') : missing? d = missing? d' := by
  simp only [missing?, member?_rearranged hshape h]

lemma ofDocument_rearranged {d' : Document} (hshape : documentType.MapShaped d)
    (h : Rearranged d d') (p : Plan) : ofDocument m d = .ok p ↔ ofDocument m d' = .ok p := by
  have hshape' := mapShaped_rearranged hshape h
  have hplan : d.entries?.map (ofEntries m) = d'.entries?.map (ofEntries m) := by
    have hshapes := hshape
    rw [documentType, MapShaped] at hshapes
    exact entries?_map_congr (fun hd hsame => ofEntries_congr hsame (hshapes.2 _ hd).2) hshape h
  rw [ofDocument_eq_ok_iff hshape, ofDocument_eq_ok_iff hshape', missing?_rearranged hshape h,
    hplan]
  apply and_congr_left'
  exact ⟨admits_rearranged hshape h, admits_rearranged hshape' h.symm⟩

/-- The fields of every kind of record in a plan document. -/
def allFieldTypes : List (String × FieldType) :=
  fieldTypes ++ Endpoint.fieldTypes ++ System.fieldTypes ++ SyncOptions.fieldTypes

/-- A plan is read from a document of mappings with distinct names exactly when source and target
are there and every field that is there has an admissible value. It is the default plan with those
values in place of its own; neither the order of the entries nor entries without a field matter, at
any level. The error is that of the first value that is not admissible, and only without one that
of a missing source, or else target. A plain scalar is no null where a text or a list is wanted, but
the text it is or an empty list. -/
theorem ofDocument_fields (m : Markup) (d : Document) (h : documentType.MapShaped d) :
    ((∃ p, ofDocument m d = .ok p) ↔
      d.member? "source" ≠ none ∧ d.member? "target" ≠ none ∧ documentType.Admits m d) ∧
    (∀ p, ofDocument m d = .ok p → d.entries?.map (ofEntries m) = some p) ∧
    (∀ d', Rearranged d d' → ∀ p, ofDocument m d = .ok p ↔ ofDocument m d' = .ok p) ∧
    (∀ d', documentType.known d' = documentType.known d → ofDocument m d' = ofDocument m d) ∧
    (∀ e, ofDocument m d = .error e ↔ documentType.fault? m d = some e ∨
      documentType.Admits m d ∧ missing? d = some e) ∧
    ∀ field ∈ allFieldTypes, field.2.Admits m .null ↔
      field.1 ∈ ["host", "user", "private_key_path", "branch", "force_sudo"] := by
  refine ⟨⟨?_, ?_⟩, fun p => entries?_of_ofDocument h, fun d' => ofDocument_rearranged h,
    fun d' hknown => ?_, fun e => ?_, ?_⟩
  · rintro ⟨p, hread⟩
    obtain ⟨hadmits, hmissing, -⟩ := (ofDocument_eq_ok_iff h).1 hread
    obtain ⟨hsource, htarget⟩ := missing?_eq_none_iff.1 hmissing
    exact ⟨hsource, htarget, hadmits⟩
  · rintro ⟨hsource, htarget, hadmits⟩
    obtain ⟨entries, hd, -⟩ := id hadmits
    refine ⟨ofEntries m entries, (ofDocument_eq_ok_iff h).2 ⟨hadmits, ?_, ?_⟩⟩
    · exact missing?_eq_none_iff.2 ⟨hsource, htarget⟩
    · rw [hd, Option.map_some]
  · rw [← ofDocument_known m d', hknown, ofDocument_known]
  · rw [← Reading.fault?_eq_some, fault?_ofDocument h, Option.or_eq_some_iff, fault?_eq_none_iff]
  · intro field hfield
    rw [admits_null_iff]
    revert field
    simp [allFieldTypes, fieldTypes, Endpoint.fieldTypes, System.fieldTypes,
      SyncOptions.fieldTypes, Endpoint.documentType, System.documentType, SyncOptions.documentType]

/-- A document with its target before its source, a null, and entries without a field. -/
def shuffledDocument : Document :=
  .mapping [
    (.text "target", .mapping [(.text "path", .text "/srv/copy"), (.text "owner", .integer 7)]),
    (.text "note", .sequence []),
    (.text "source", .mapping [(.text "host", .null), (.text "path", .text "/srv/data")])]

lemma mapShaped_shuffledDocument : documentType.MapShaped shuffledDocument := by
  have hpair : ∀ {a b : String} {v w : Document}, a ≠ b →
      HasDistinctNames [(.text a, v), (.text b, w)] := by
    intro a b v w h
    simp [hasDistinctNames_cons, hasDistinctNames_nil, text?, h.symm]
  have hendpoint : ∀ {n type}, fieldTypes.lookup n = some type →
      n = "source" ∨ n = "target" → type = Endpoint.documentType := by
    rintro n type h (rfl | rfl) <;> cases h <;> rfl
  refine mapShaped_mapping.2 ⟨?_, ?_⟩
  · simp [hasDistinctNames_cons, hasDistinctNames_nil, text?]
  · have htarget : ∀ type, fieldTypes.lookup "target" = some type → type.MapShaped
        (.mapping [(.text "path", .text "/srv/copy"), (.text "owner", .integer 7)]) := by
      intro type h
      rw [hendpoint h (Or.inr rfl)]
      exact Endpoint.mapShaped_of_distinct (hpair (by decide))
    have hsource : ∀ type, fieldTypes.lookup "source" = some type → type.MapShaped
        (.mapping [(.text "host", .null), (.text "path", .text "/srv/data")]) := by
      intro type h
      rw [hendpoint h (Or.inl rfl)]
      exact Endpoint.mapShaped_of_distinct (hpair (by decide))
    simp only [List.forall_mem_cons, List.not_mem_nil, IsEmpty.forall_iff, implies_true, and_true]
    refine ⟨?_, ?_, ?_⟩
    · intro n hn
      cases hn
      exact fieldMapShaped_iff.2 htarget
    · intro n hn
      cases hn
      exact fieldMapShaped_iff.2 fun type h => by cases h
    · intro n hn
      cases hn
      exact fieldMapShaped_iff.2 hsource

theorem ofDocument_fields_shuffledDocument : documentType.MapShaped shuffledDocument ∧
    ∃ p, ofDocument .toml shuffledDocument = .ok p ∧ p.source.path = "/srv/data" := by
  obtain ⟨hreads, hplan, -⟩ :=
    ofDocument_fields .toml shuffledDocument mapShaped_shuffledDocument
  obtain ⟨p, hp⟩ := hreads.2 ⟨by decide, by decide, by decide⟩
  refine ⟨mapShaped_shuffledDocument, p, hp, ?_⟩
  rw [← Option.some.inj (hplan p hp)]
  rfl

end Plan

end SyncScript
