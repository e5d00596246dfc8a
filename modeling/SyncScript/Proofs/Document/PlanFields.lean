import SyncScript.Proofs.Document.Records

/-!
# The fields of a plan document

The types of the fields of a plan, and the plan that the values of its fields make: the default
one, with the values in place of the defaults. Reading a document comes out with this plan, in
whatever order the fields are given.
-/

namespace SyncScript

open Document FieldType

variable {β : Type}

namespace Document

/-- What the value under a name stands for, or a default where there is no value. -/
def valueOr (name : String) (value? : Document → Option β) (default : β)
    (entries : List (Document × Document)) : β :=
  ((valueOf? name entries).bind value?).getD default

variable {entries : List (Document × Document)} {key v : Document} {name : String}
  {value? : Document → Option β} {default b : β}

lemma valueOr_concat (hkey : key.text? = some name) (hnew : valueOf? name entries = none)
    (other : String) (value? : Document → Option β) (default : β) :
    valueOr other value? default (entries ++ [(key, v)]) =
      if name = other then (value? v).getD default else valueOr other value? default entries := by
  rw [valueOr, valueOf?_concat hkey hnew]
  by_cases h : name = other
  · rw [if_pos h, if_pos h, Option.bind_some]
  · rw [if_neg h, if_neg h, valueOr]

end Document

namespace FieldType

lemma fault?_readOption {read : Document → Reading β} {type : FieldType} {m : Markup}
    (h : ∀ d, (read d).fault? = type.fault? m d) (d : Document) :
    (readOption read d).fault? = (optional type).fault? m d := by
  rw [readOption, fault?]
  split
  · rfl
  · split
    · exact d.fault?_mismatch "null"
    · rw [Reading.fault?_map, h]

lemma fault?_readEnum (m : Markup) (variants : List (String × β)) (d : Document) :
    (readEnum m variants d).fault? = (variant (variants.map Prod.fst)).fault? m d := by
  rw [fault?]
  apply fault?_readEnum_congr
  simp

end FieldType

/-- The packages that a document lists. -/
def Document.packages? (d : Document) : Option PackageList :=
  d.texts?.map PackageList.ofList

lemma PackageList.ofDocument_eq_ok {d : Document} {l : PackageList} :
    PackageList.ofDocument d = .ok l ↔ d.packages? = some l := by
  rw [← Except.toOption_eq_some, ofDocument, Reading.toOption_map, toOption_readList, packages?]

namespace Endpoint

def fieldTypes : List (String × FieldType) := [
  ("kind", .variant (EndpointKind.all.map EndpointKind.id)),
  ("path", .text),
  ("host", .optional .text),
  ("user", .optional .text),
  ("private_key_path", .optional .text),
  ("branch", .optional .text),
  ("use_github_cli", .truth),
  ("force_sudo", .optional .truth)]

def ofEntries (m : Markup) (entries : List (Document × Document)) : Endpoint where
  kind := valueOr "kind" (variant? m EndpointKind.variants) .localDir entries
  path := valueOr "path" text? "" entries
  host := valueOr "host" (optional? text?) none entries
  user := valueOr "user" (optional? text?) none entries
  privateKey := valueOr "private_key_path" (optional? text?) none entries
  branch := valueOr "branch" (optional? text?) none entries
  useGithubCli := valueOr "use_github_cli" truth? false entries
  forceSudo := valueOr "force_sudo" (optional? truth?) none entries

lemma ofEntries_concat {m : Markup} {entries : List (Document × Document)} {key v : Document}
    {name : String} {e : Endpoint} (hkey : key.text? = some name)
    (hnew : valueOf? name entries = none)
    (hread : (schema m).readEntry (ofEntries m entries) (key, v) = .ok e) :
    e = ofEntries m (entries ++ [(key, v)]) := by
  rcases Schema.readEntry_eq_ok hkey hread with ⟨hunknown, rfl⟩ | ⟨f, hf, rfl, hread⟩
  · simp only [schema, Field.of, List.forall_mem_cons] at hunknown
    simp [ofEntries, valueOr_concat hkey hnew, hunknown]
  · simp only [schema, List.mem_cons, List.not_mem_nil, or_false] at hf
    rcases hf with rfl | rfl | rfl | rfl | rfl | rfl | rfl | rfl
    all_goals
      obtain ⟨b, hb, rfl⟩ := Except.map_eq_ok.1 hread
      simp only [readEnum_eq_ok, readText_eq_ok, readBool_eq_ok, readOption_readText_eq_ok,
        readOption_readBool_eq_ok] at hb
      simp [ofEntries, valueOr_concat hkey hnew, Field.of, hb]

lemma hasFields (m : Markup) : (schema m).HasFields m fieldTypes := by
  have hkind := fault?_readEnum m EndpointKind.variants
  have htext : ∀ d, (readOption readText d).fault? = (optional .text).fault? m d :=
    fault?_readOption fun _ => rfl
  have htruth : ∀ d, (readOption readBool d).fault? = (optional .truth).fault? m d :=
    fault?_readOption fun _ => rfl
  exact .cons ⟨rfl, .of (fun d _ => hkind d) fun _ => rfl⟩ <|
    .cons ⟨rfl, .of (fun _ _ => rfl) fun _ => rfl⟩ <|
    .cons ⟨rfl, .of (fun d _ => htext d) fun _ => rfl⟩ <|
    .cons ⟨rfl, .of (fun d _ => htext d) fun _ => rfl⟩ <|
    .cons ⟨rfl, .of (fun d _ => htext d) fun _ => rfl⟩ <|
    .cons ⟨rfl, .of (fun d _ => htext d) fun _ => rfl⟩ <|
    .cons ⟨rfl, .of (fun _ _ => rfl) fun _ => rfl⟩ <|
    .cons ⟨rfl, .of (fun d _ => htruth d) fun _ => rfl⟩ .nil

/-- What a document must be to be read as an endpoint. -/
def documentType : FieldType :=
  .record "struct EndpointConfig" fieldTypes

lemma mapShaped_of_distinct {entries : List (Document × Document)}
    (h : HasDistinctNames entries) : documentType.MapShaped (.mapping entries) := by
  refine mapShaped_mapping.2 ⟨h, fun e _ n _ => ?_⟩
  simp [fieldTypes, FieldMapShaped, MapShaped]

lemma fault?_ofDocument {m : Markup} {d : Document} (h : documentType.MapShaped d) :
    (ofDocument m d).fault? = documentType.fault? m d :=
  Schema.read_fault?_of_optional (hasFields m) (by simp [schema, Field.of]) h {}

lemma ofDocument_known (m : Markup) (d : Document) :
    ofDocument m (documentType.known d) = ofDocument m d :=
  Schema.read_known (hasFields m) d {}

lemma eq_of_ofDocument {m : Markup} {d : Document} {e : Endpoint} (h : documentType.MapShaped d)
    (hread : ofDocument m d = .ok e) : d.entries?.map (ofEntries m) = some e :=
  Schema.eq_of_read (fun _ _ _ _ _ hkey hnew _ => ofEntries_concat hkey hnew) h hread

end Endpoint

namespace System

def fieldTypes : List (String × FieldType) := [
  ("package_manager", .variant (PackageManager.all.map PackageManager.id)),
  ("install_tools", .truth),
  ("configure_firewall", .truth),
  ("install_dependencies", .truth),
  ("python_packages", .texts)]

def ofEntries (m : Markup) (entries : List (Document × Document)) : System where
  packageManager := valueOr "package_manager" (variant? m PackageManager.variants) .apt entries
  installTools := valueOr "install_tools" truth? false entries
  configureFirewall := valueOr "configure_firewall" truth? false entries
  installDependencies := valueOr "install_dependencies" truth? false entries
  pythonPackages := valueOr "python_packages" packages? .empty entries

lemma ofEntries_concat {m : Markup} {entries : List (Document × Document)} {key v : Document}
    {name : String} {s : System} (hkey : key.text? = some name)
    (hnew : valueOf? name entries = none)
    (hread : (schema m).readEntry (ofEntries m entries) (key, v) = .ok s) :
    s = ofEntries m (entries ++ [(key, v)]) := by
  rcases Schema.readEntry_eq_ok hkey hread with ⟨hunknown, rfl⟩ | ⟨f, hf, rfl, hread⟩
  · simp only [schema, Field.of, List.forall_mem_cons] at hunknown
    simp [ofEntries, valueOr_concat hkey hnew, hunknown]
  · simp only [schema, List.mem_cons, List.not_mem_nil, or_false] at hf
    rcases hf with rfl | rfl | rfl | rfl | rfl
    all_goals
      obtain ⟨b, hb, rfl⟩ := Except.map_eq_ok.1 hread
      simp only [readEnum_eq_ok, readBool_eq_ok, PackageList.ofDocument_eq_ok] at hb
      simp [ofEntries, valueOr_concat hkey hnew, Field.of, hb]

lemma hasFields (m : Markup) : (schema m).HasFields m fieldTypes := by
  have hmanager := fault?_readEnum m PackageManager.variants
  have hpackages : ∀ d, (PackageList.ofDocument d).fault? = FieldType.texts.fault? m d :=
    fun d => Reading.fault?_map _ _
  exact .cons ⟨rfl, .of (fun d _ => hmanager d) fun _ => rfl⟩ <|
    .cons ⟨rfl, .of (fun _ _ => rfl) fun _ => rfl⟩ <|
    .cons ⟨rfl, .of (fun _ _ => rfl) fun _ => rfl⟩ <|
    .cons ⟨rfl, .of (fun _ _ => rfl) fun _ => rfl⟩ <|
    .cons ⟨rfl, .of (fun d _ => hpackages d) fun _ => rfl⟩ .nil

def documentType : FieldType :=
  .record "struct SystemConfig" fieldTypes

lemma mapShaped_of_distinct {entries : List (Document × Document)}
    (h : HasDistinctNames entries) : documentType.MapShaped (.mapping entries) := by
  refine mapShaped_mapping.2 ⟨h, fun e _ n _ => ?_⟩
  simp [fieldTypes, FieldMapShaped, MapShaped]

lemma fault?_ofDocument {m : Markup} {d : Document} (h : documentType.MapShaped d) :
    (ofDocument m d).fault? = documentType.fault? m d :=
  Schema.read_fault?_of_optional (hasFields m) (by simp [schema, Field.of]) h {}

lemma ofDocument_known (m : Markup) (d : Document) :
    ofDocument m (documentType.known d) = ofDocument m d :=
  Schema.read_known (hasFields m) d {}

lemma eq_of_ofDocument {m : Markup} {d : Document} {s : System} (h : documentType.MapShaped d)
    (hread : ofDocument m d = .ok s) : d.entries?.map (ofEntries m) = some s :=
  Schema.eq_of_read (fun _ _ _ _ _ hkey hnew _ => ofEntries_concat hkey hnew) h hread

end System

namespace SyncOptions

def fieldTypes : List (String × FieldType) := [
  ("dry_run", .truth),
  ("executable", .text)]

def ofEntries (entries : List (Document × Document)) : SyncOptions where
  dryRun := valueOr "dry_run" truth? false entries
  executable := valueOr "executable" text? "python3 sync.py" entries

lemma ofEntries_concat {entries : List (Document × Document)} {key v : Document}
    {name : String} {o : SyncOptions} (hkey : key.text? = some name)
    (hnew : valueOf? name entries = none)
    (hread : schema.readEntry (ofEntries entries) (key, v) = .ok o) :
    o = ofEntries (entries ++ [(key, v)]) := by
  rcases Schema.readEntry_eq_ok hkey hread with ⟨hunknown, rfl⟩ | ⟨f, hf, rfl, hread⟩
  · simp only [schema, Field.of, List.forall_mem_cons] at hunknown
    simp [ofEntries, valueOr_concat hkey hnew, hunknown]
  · simp only [schema, List.mem_cons, List.not_mem_nil, or_false] at hf
    rcases hf with rfl | rfl
    all_goals
      obtain ⟨b, hb, rfl⟩ := Except.map_eq_ok.1 hread
      simp only [readText_eq_ok, readBool_eq_ok] at hb
      simp [ofEntries, valueOr_concat hkey hnew, Field.of, hb]

lemma hasFields (m : Markup) : schema.HasFields m fieldTypes :=
  .cons ⟨rfl, .of (fun _ _ => rfl) fun _ => rfl⟩ <|
    .cons ⟨rfl, .of (fun _ _ => rfl) fun _ => rfl⟩ .nil

def documentType : FieldType :=
  .record "struct SyncOptions" fieldTypes

lemma mapShaped_of_distinct {entries : List (Document × Document)}
    (h : HasDistinctNames entries) : documentType.MapShaped (.mapping entries) := by
  refine mapShaped_mapping.2 ⟨h, fun e _ n _ => ?_⟩
  simp [fieldTypes, FieldMapShaped, MapShaped]

lemma fault?_ofDocument {m : Markup} {d : Document} (h : documentType.MapShaped d) :
    (ofDocument m d).fault? = documentType.fault? m d :=
  Schema.read_fault?_of_optional (hasFields m) (by simp [schema, Field.of]) h {}

lemma ofDocument_known (m : Markup) (d : Document) :
    ofDocument m (documentType.known d) = ofDocument m d :=
  Schema.read_known (hasFields m) d {}

lemma eq_of_ofDocument {m : Markup} {d : Document} {o : SyncOptions} (h : documentType.MapShaped d)
    (hread : ofDocument m d = .ok o) : d.entries?.map ofEntries = some o :=
  Schema.eq_of_read (fun _ _ _ _ _ hkey hnew _ => ofEntries_concat hkey hnew) h hread

end SyncOptions

namespace Plan

def fieldTypes : List (String × FieldType) := [
  ("source", Endpoint.documentType),
  ("target", Endpoint.documentType),
  ("system", System.documentType),
  ("sync", SyncOptions.documentType)]

/-- The default plan with the values that are given in place of its own. -/
def ofEntries (m : Markup) (entries : List (Document × Document)) : Plan where
  source := valueOr "source" (·.entries?.map (Endpoint.ofEntries m)) {} entries
  target := valueOr "target" (·.entries?.map (Endpoint.ofEntries m)) {} entries
  system := valueOr "system" (·.entries?.map (System.ofEntries m)) {} entries
  sync := valueOr "sync" (·.entries?.map SyncOptions.ofEntries) {} entries

lemma ofEntries_concat {m : Markup} {entries : List (Document × Document)} {key v : Document}
    {name : String} {p : Plan} (hkey : key.text? = some name)
    (hnew : valueOf? name entries = none) (hshape : FieldMapShaped fieldTypes name v)
    (hread : (schema m).readEntry (ofEntries m entries) (key, v) = .ok p) :
    p = ofEntries m (entries ++ [(key, v)]) := by
  rw [fieldMapShaped_iff] at hshape
  rcases Schema.readEntry_eq_ok hkey hread with ⟨hunknown, rfl⟩ | ⟨f, hf, rfl, hread⟩
  · simp only [schema, Field.of, List.forall_mem_cons] at hunknown
    simp [ofEntries, valueOr_concat hkey hnew, hunknown]
  · simp only [schema, List.mem_cons, List.not_mem_nil, or_false] at hf
    rcases hf with rfl | rfl | rfl | rfl
    all_goals
      obtain ⟨b, hb, rfl⟩ := Except.map_eq_ok.1 hread
      replace hshape := hshape _ rfl
    · simp [ofEntries, valueOr_concat hkey hnew, Field.of, Endpoint.eq_of_ofDocument hshape hb]
    · simp [ofEntries, valueOr_concat hkey hnew, Field.of, Endpoint.eq_of_ofDocument hshape hb]
    · simp [ofEntries, valueOr_concat hkey hnew, Field.of, System.eq_of_ofDocument hshape hb]
    · simp [ofEntries, valueOr_concat hkey hnew, Field.of, SyncOptions.eq_of_ofDocument hshape hb]

lemma hasFields (m : Markup) : (schema m).HasFields m fieldTypes :=
  .cons ⟨rfl, .of (fun _ => Endpoint.fault?_ofDocument) (Endpoint.ofDocument_known m)⟩ <|
    .cons ⟨rfl, .of (fun _ => Endpoint.fault?_ofDocument) (Endpoint.ofDocument_known m)⟩ <|
    .cons ⟨rfl, .of (fun _ => System.fault?_ofDocument) (System.ofDocument_known m)⟩ <|
    .cons ⟨rfl, .of (fun _ => SyncOptions.fault?_ofDocument)
      (SyncOptions.ofDocument_known m)⟩ .nil

/-- What a document must be to be read as a plan, but for the fields that it must have. -/
def documentType : FieldType :=
  .record "struct Plan" fieldTypes

end Plan

end SyncScript
