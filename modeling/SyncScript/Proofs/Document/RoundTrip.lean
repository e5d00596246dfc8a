import SyncScript.Proofs.Document.PlanReading
import SyncScript.Proofs.Plan.Packages

/-!
# Plans written and read back

A record is written with one entry for each field that has a value. Such a document has the names of
the fields once each, every value has the type of its field, and under each name stands the value
that was written, so that reading it gives the record back.
-/

namespace SyncScript

open Document FieldType

/-- The entries that a record is written with. -/
def recordEntries (fields : List (String × Option Document)) : List (Document × Document) :=
  fields.filterMap fun (name, value) => value.map (.text name, ·)

lemma recordDocument_eq (fields : List (String × Option Document)) :
    recordDocument fields = .mapping (recordEntries fields) :=
  rfl

section Entries

variable {fields : List (String × Option Document)}

lemma mem_recordEntries {e : Document × Document} {name : String} (h : e ∈ recordEntries fields)
    (hname : e.1.text? = some name) : (name, some e.2) ∈ fields := by
  obtain ⟨⟨other, value⟩, hmem, hvalue⟩ := List.mem_filterMap.1 h
  obtain ⟨v, rfl, rfl⟩ := Option.map_eq_some_iff.1 hvalue
  cases hname
  exact hmem

lemma recordEntries_distinct (h : (fields.map Prod.fst).Nodup) :
    HasDistinctNames (recordEntries fields) := by
  induction fields with
  | nil => exact hasDistinctNames_nil
  | cons field fields ih =>
    obtain ⟨name, value⟩ := field
    rw [List.map_cons, List.nodup_cons] at h
    obtain ⟨hnew, hnodup⟩ := h
    cases value with
    | none => exact ih hnodup
    | some v =>
      refine hasDistinctNames_cons.2 ⟨name, rfl, fun e he hname => ?_, ih hnodup⟩
      exact hnew (List.mem_map.2 ⟨_, mem_recordEntries he hname, rfl⟩)

/-- Under the name of a field stands its value. -/
lemma valueOf?_recordEntries (h : (fields.map Prod.fst).Nodup) (name : String) :
    valueOf? name (recordEntries fields) = (fields.lookup name).join := by
  induction fields with
  | nil => rfl
  | cons field fields ih =>
    obtain ⟨other, value⟩ := field
    rw [List.map_cons, List.nodup_cons] at h
    obtain ⟨hnew, hnodup⟩ := h
    rw [List.lookup_cons]
    by_cases hname : name = other
    · subst hname
      rw [beq_self_eq_true]
      cases value with
      | none =>
        refine valueOf?_eq_none_iff.2 fun e he htext => ?_
        exact hnew (List.mem_map.2 ⟨_, mem_recordEntries he htext, rfl⟩)
      | some v => exact (valueOf?_cons rfl name).trans (if_pos rfl)
    · rw [beq_eq_false_iff_ne.2 hname]
      cases value with
      | none => exact ih hnodup
      | some v =>
        have hskip : valueOf? name ((.text other, v) :: recordEntries fields) =
            valueOf? name (recordEntries fields) :=
          (valueOf?_cons rfl name).trans (if_neg (Ne.symm hname))
        exact hskip.trans (ih hnodup)

lemma member?_recordDocument (h : (fields.map Prod.fst).Nodup) (name : String) :
    (recordDocument fields).member? name = (fields.lookup name).join :=
  valueOf?_recordEntries h name

lemma valueOr_recordEntries {β : Type} {value? : Document → Option β} {default : β}
    (h : (fields.map Prod.fst).Nodup) {name : String} {value : Option Document}
    (hvalue : fields.lookup name = some value) :
    valueOr name value? default (recordEntries fields) = (value.bind value?).getD default := by
  rw [valueOr, valueOf?_recordEntries h, hvalue, Option.join_some]

variable {name : String} {types : List (String × FieldType)}

lemma mapShaped_recordDocument (hnodup : (fields.map Prod.fst).Nodup)
    (h : ∀ n v type, (n, some v) ∈ fields → types.lookup n = some type → type.MapShaped v) :
    (FieldType.record name types).MapShaped (recordDocument fields) := by
  refine mapShaped_mapping.2 ⟨recordEntries_distinct hnodup, fun e he n hn => ?_⟩
  exact fieldMapShaped_iff.2 fun type => h n e.2 type (mem_recordEntries he hn)

lemma admits_recordDocument {m : Markup}
    (h : ∀ n v type, (n, some v) ∈ fields → types.lookup n = some type → type.Admits m v) :
    (FieldType.record name types).Admits m (recordDocument fields) :=
  admits_mapping.2 fun e he n hn =>
    fieldAdmits_iff.2 fun type => h n e.2 type (mem_recordEntries he hn)

end Entries

variable (m : Markup)

lemma variant?_text {β : Type} (variants : List (String × β)) (s : String) :
    variant? m variants (.text s) = variants.lookup s := by
  cases m <;> rfl

lemma admits_variant_text {names : List String} {s : String} (h : s ∈ names) :
    (FieldType.variant names).Admits m (.text s) :=
  ⟨s, by cases m <;> rfl, h⟩

namespace PackageList

lemma texts?_toDocument (l : PackageList) : l.toDocument.texts? = some l.names := by
  have hnames : ∀ names : List String, (names.map Document.text).mapM text? = some names := by
    intro names
    induction names with
    | nil => rfl
    | cons name names ih =>
      rw [List.map_cons, List.mapM_cons, ih]
      rfl
  exact hnames l.names

lemma packages?_toDocument (l : PackageList) : l.toDocument.packages? = some l := by
  rw [Document.packages?, texts?_toDocument, Option.map_some, ofList_names]

end PackageList

namespace Endpoint

lemma mapShaped_toDocument (e : Endpoint) : documentType.MapShaped e.toDocument :=
  mapShaped_of_distinct (recordEntries_distinct (by simp))

lemma admits_toDocument (e : Endpoint) : documentType.Admits m e.toDocument := by
  have htext : ∀ {o : Option String} {v}, some v = o.map Document.text →
      (optional .text).Admits m v := by
    intro o v h
    obtain ⟨s, -, rfl⟩ := Option.map_eq_some_iff.1 h.symm
    exact Or.inr ⟨rfl, s, rfl⟩
  refine admits_recordDocument fun n v type hmem htype => ?_
  simp only [List.mem_cons, Prod.mk.injEq, List.not_mem_nil, or_false] at hmem
  rcases hmem with ⟨rfl, hv⟩ | ⟨rfl, hv⟩ | ⟨rfl, hv⟩ | ⟨rfl, hv⟩ | ⟨rfl, hv⟩ | ⟨rfl, hv⟩ |
    ⟨rfl, hv⟩ | ⟨rfl, hv⟩ <;> cases htype
  · cases hv
    exact admits_variant_text m (List.mem_map_of_mem (by cases e.kind <;> simp [EndpointKind.all]))
  · cases hv
    exact ⟨e.path, rfl⟩
  · exact htext hv
  · exact htext hv
  · exact htext hv
  · exact htext hv
  · cases hv
    exact ⟨e.useGithubCli, rfl⟩
  · obtain ⟨b, -, rfl⟩ := Option.map_eq_some_iff.1 hv.symm
    exact Or.inr ⟨rfl, b, rfl⟩

lemma ofEntries_toDocument (e : Endpoint) :
    e.toDocument.entries?.map (ofEntries m) = some e := by
  have hkind : EndpointKind.variants.lookup e.kind.id = some e.kind := by
    cases e.kind <;> rfl
  have htext : ∀ o : Option String, ((o.map .text).bind (optional? text?)).getD none = o := by
    intro o
    cases o <;> rfl
  have htruth : ∀ o : Option Bool, ((o.map .bool).bind (optional? truth?)).getD none = o := by
    intro o
    cases o <;> rfl
  rw [toDocument, recordDocument_eq, entries?, Option.map_some, ofEntries]
  repeat rw [valueOr_recordEntries (by simp) rfl]
  rw [Option.bind_some, variant?_text, hkind, htext, htext, htext, htext, htruth]
  rfl

end Endpoint

namespace System

lemma mapShaped_toDocument (s : System) : documentType.MapShaped s.toDocument :=
  mapShaped_of_distinct (recordEntries_distinct (by simp))

lemma admits_toDocument (s : System) : documentType.Admits m s.toDocument := by
  refine admits_recordDocument fun n v type hmem htype => ?_
  simp only [List.mem_cons, Prod.mk.injEq, List.not_mem_nil, or_false, Option.some.injEq] at hmem
  rcases hmem with ⟨rfl, rfl⟩ | ⟨rfl, rfl⟩ | ⟨rfl, rfl⟩ | ⟨rfl, rfl⟩ | ⟨rfl, rfl⟩ <;> cases htype
  · refine admits_variant_text m (List.mem_map_of_mem ?_)
    cases s.packageManager <;> simp [PackageManager.all]
  · exact ⟨s.installTools, rfl⟩
  · exact ⟨s.configureFirewall, rfl⟩
  · exact ⟨s.installDependencies, rfl⟩
  · refine (texts?_isSome_iff _).1 ?_
    rw [PackageList.texts?_toDocument, Option.isSome_some]

lemma ofEntries_toDocument (s : System) : s.toDocument.entries?.map (ofEntries m) = some s := by
  have hmanager : PackageManager.variants.lookup s.packageManager.id = some s.packageManager := by
    cases s.packageManager <;> rfl
  rw [toDocument, recordDocument_eq, entries?, Option.map_some, ofEntries]
  repeat rw [valueOr_recordEntries (by simp) rfl]
  repeat rw [Option.bind_some]
  rw [variant?_text, hmanager, PackageList.packages?_toDocument]
  rfl

end System

namespace SyncOptions

lemma mapShaped_toDocument (o : SyncOptions) : documentType.MapShaped o.toDocument :=
  mapShaped_of_distinct (recordEntries_distinct (by simp))

lemma admits_toDocument (o : SyncOptions) : documentType.Admits m o.toDocument := by
  refine admits_recordDocument fun n v type hmem htype => ?_
  simp only [List.mem_cons, Prod.mk.injEq, List.not_mem_nil, or_false, Option.some.injEq] at hmem
  rcases hmem with ⟨rfl, rfl⟩ | ⟨rfl, rfl⟩ <;> cases htype
  · exact ⟨o.dryRun, rfl⟩
  · exact ⟨o.executable, rfl⟩

lemma ofEntries_toDocument (o : SyncOptions) : o.toDocument.entries?.map ofEntries = some o := by
  rw [toDocument, recordDocument_eq, entries?, Option.map_some, ofEntries]
  repeat rw [valueOr_recordEntries (by simp) rfl]
  rfl

end SyncOptions

namespace Plan

/-- A property of the documents of the parts of a plan holds of everything in its document. -/
lemma forall_toDocument {P : FieldType → Document → Prop} (p : Plan)
    (hendpoint : ∀ e : Endpoint, P Endpoint.documentType e.toDocument)
    (hsystem : P System.documentType p.system.toDocument)
    (hsync : P SyncOptions.documentType p.sync.toDocument) (n : String) (v : Document)
    (type : FieldType)
    (hmem : (n, some v) ∈ [
      ("source", some p.source.toDocument), ("target", some p.target.toDocument),
      ("system", some p.system.toDocument), ("sync", some p.sync.toDocument)])
    (htype : fieldTypes.lookup n = some type) : P type v := by
  simp only [List.mem_cons, Prod.mk.injEq, List.not_mem_nil, or_false, Option.some.injEq] at hmem
  rcases hmem with ⟨rfl, rfl⟩ | ⟨rfl, rfl⟩ | ⟨rfl, rfl⟩ | ⟨rfl, rfl⟩ <;> cases htype
  · exact hendpoint p.source
  · exact hendpoint p.target
  · exact hsystem
  · exact hsync

lemma mapShaped_toDocument (p : Plan) : documentType.MapShaped p.toDocument :=
  mapShaped_recordDocument (by simp) <|
    p.forall_toDocument (P := MapShaped) Endpoint.mapShaped_toDocument
      p.system.mapShaped_toDocument p.sync.mapShaped_toDocument

lemma admits_toDocument (p : Plan) : documentType.Admits m p.toDocument :=
  admits_recordDocument <|
    p.forall_toDocument (P := Admits m) (Endpoint.admits_toDocument m)
      (p.system.admits_toDocument m) (p.sync.admits_toDocument m)

lemma missing?_toDocument (p : Plan) : missing? p.toDocument = none := by
  rw [missing?_eq_none_iff, toDocument, member?_recordDocument (by simp),
    member?_recordDocument (by simp)]
  exact ⟨nofun, nofun⟩

lemma ofEntries_toDocument (p : Plan) : p.toDocument.entries?.map (ofEntries m) = some p := by
  rw [toDocument, recordDocument_eq, entries?, Option.map_some, ofEntries]
  repeat rw [valueOr_recordEntries (by simp) rfl]
  repeat rw [Option.bind_some]
  rw [Endpoint.ofEntries_toDocument, Endpoint.ofEntries_toDocument, System.ofEntries_toDocument,
    SyncOptions.ofEntries_toDocument]
  rfl

/-- A plan that is written as a document is read back as it was, from whatever document it had been
read before. -/
theorem ofDocument_toDocument (m : Markup) :
    (∀ p, ofDocument m (toDocument p) = .ok p) ∧
      ∀ m' d p, ofDocument m' d = .ok p → ofDocument m p.toDocument = .ok p := by
  have hback : ∀ p, ofDocument m (toDocument p) = .ok p := by
    intro p
    refine (ofDocument_eq_ok_iff p.mapShaped_toDocument).2 ?_
    exact ⟨p.admits_toDocument m, p.missing?_toDocument, p.ofEntries_toDocument m⟩
  exact ⟨hback, fun _ _ p _ => hback p⟩

/-- A document with a record as the list of its values, a mapping for an alternative, a null, blank
and repeated packages, and an entry without a field. -/
def shortDocument : Document :=
  .mapping [
    (.text "source", .sequence [.text "local", .text "/srv/data"]),
    (.text "target", .mapping [
      (.text "kind", .mapping [(.text "git", .null)]),
      (.text "path", .text "https://example.org/data.git"),
      (.text "branch", .null)]),
    (.text "system", .mapping [
      (.text "python_packages", .sequence [.text "numpy", .text " ", .text "numpy"])]),
    (.text "note", .bool true)]

/-- The plan in `shortDocument`. -/
def shortPlan : Plan where
  source := { path := "/srv/data" }
  target := { kind := .git, path := "https://example.org/data.git" }
  system := { pythonPackages := .ofList ["numpy"] }

theorem ofDocument_toDocument_shortPlan :
    ofDocument .json shortDocument = .ok shortPlan ∧
      ofDocument .yaml shortPlan.toDocument = .ok shortPlan := by
  have hread : ofDocument .json shortDocument = .ok shortPlan := by
    decide +kernel
  exact ⟨hread, (ofDocument_toDocument .yaml).2 .json shortDocument shortPlan hread⟩

end Plan

end SyncScript
