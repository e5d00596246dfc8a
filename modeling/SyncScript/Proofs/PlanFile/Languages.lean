import SyncScript.PlanFile.Load
import SyncScript.Proofs.Document.Equality
import SyncScript.Proofs.Document.Languages
import SyncScript.Proofs.Document.RoundTrip
import SyncScript.Proofs.PlanFile.Reading

/-!
# Plan files in two languages

A plan file holds the plan that is read from its document, whatever language it is written in. TOML
and YAML read the same trees as the same plans but for three kinds of values: where a text is wanted
YAML takes any scalar without quotes by its spelling, and only TOML takes a mapping from the name of
an alternative for the alternative and a sequence of values for a record.
-/

namespace SyncScript

open Document FieldType

section Written

/-! The documents that plans are written as are shared trees. -/

lemma isShared_recordDocument {fields : List (String × Option Document)}
    (hnames : (fields.map Prod.fst).Nodup) (h : ∀ field ∈ fields, field.2.elim True IsShared) :
    IsShared (recordDocument fields) := by
  have hentry : ∀ e ∈ recordEntries fields, (∃ n, e.1 = .text n) ∧ IsShared e.2 := by
    intro e he
    obtain ⟨⟨n, value⟩, hmem, hvalue⟩ := List.mem_filterMap.1 he
    obtain ⟨v, rfl, rfl⟩ := Option.map_eq_some_iff.1 hvalue
    exact ⟨⟨n, rfl⟩, h _ hmem⟩
  exact .mapping (recordEntries_distinct hnames) (fun e he => (hentry e he).1)
    fun e he => (hentry e he).2

lemma Endpoint.isShared_toDocument (e : Endpoint) : IsShared e.toDocument := by
  have htext : ∀ o : Option String, (o.map Document.text).elim True IsShared := by
    rintro (_ | s)
    · trivial
    · exact .text s
  have htruth : ∀ o : Option Bool, (o.map Document.bool).elim True IsShared := by
    rintro (_ | b)
    · trivial
    · exact .bool b
  refine isShared_recordDocument (by simp) ?_
  simp only [List.forall_mem_cons]
  exact ⟨.text _, .text _, htext _, htext _, htext _, htext _, .bool _, htruth _, nofun⟩

lemma PackageList.isShared_toDocument (l : PackageList) : IsShared l.toDocument := by
  refine .sequence fun d hd => ?_
  obtain ⟨s, -, rfl⟩ := List.mem_map.1 hd
  exact .text s

lemma System.isShared_toDocument (s : System) : IsShared s.toDocument := by
  refine isShared_recordDocument (by simp) ?_
  simp only [List.forall_mem_cons]
  exact ⟨.text _, .bool _, .bool _, .bool _, s.pythonPackages.isShared_toDocument, nofun⟩

lemma SyncOptions.isShared_toDocument (o : SyncOptions) : IsShared o.toDocument := by
  refine isShared_recordDocument (by simp) ?_
  simp only [List.forall_mem_cons]
  exact ⟨.bool _, .text _, nofun⟩

lemma Plan.isShared_toDocument (p : Plan) : IsShared p.toDocument := by
  refine isShared_recordDocument (by simp) ?_
  simp only [List.forall_mem_cons]
  exact ⟨p.source.isShared_toDocument, p.target.isShared_toDocument, p.system.isShared_toDocument,
    p.sync.isShared_toDocument, nofun⟩

end Written

namespace PlanFile

variable {m : Markup} {d d' t : Document} {file : PlanFile}

lemma ofDocument_resolved (h : documentType.Alike d.resolved) :
    (ofDocument .yaml d).toOption = (ofDocument .toml d.resolved).toOption := by
  refine Schema.read_resolved ?_ h _
  exact .cons (.of fun _ => readOption_resolved fun _ => readText_resolved) <|
    .cons (.of fun _ => Endpoint.ofDocument_resolved) <|
    .cons (.of fun _ => Endpoint.ofDocument_resolved) <|
    .cons (.of fun _ => System.ofDocument_resolved) <|
    .cons (.of fun _ => SyncOptions.ofDocument_resolved) .nil

/-- A document in YAML is read as a tree that is read alike is read in TOML, when it is this tree
but for the order of entries. -/
lemma ofDocument_yaml_iff (ht : documentType.Alike t) (h : Rearranged d.resolved t) :
    ofDocument .yaml d = .ok file ↔ ofDocument .toml t = .ok file := by
  have hd : documentType.Alike d.resolved := ht.rearranged h.symm
  rw [← Except.toOption_eq_some, ofDocument_resolved hd, Except.toOption_eq_some]
  exact ofDocument_rearranged (mapShaped_plan (hd.mapped.mapShaped hd.shared)) h file

lemma ofText_eq_ok_iff {path : Path} {text : String} (h : planDocument? path text = some d) :
    ofText path text = .ok file ↔ ofDocument (planMarkup path) d = .ok file := by
  unfold ofText
  rw [h]
  dsimp only
  cases ofDocument (planMarkup path) d with
  | ok found => simp
  | error e => simp

lemma output?_toDocument (p : Plan) : output? p.toDocument = some none := by
  rw [output?, Plan.toDocument, member?_recordDocument (by simp)]
  rfl

lemma ofDocument_written (m : Markup) (p : Plan) :
    ofDocument m p.toDocument = .ok ⟨p, none⟩ := by
  have hplan : Plan.ofDocument m p.toDocument = .ok p :=
    (Plan.ofDocument_eq_ok_iff p.mapShaped_toDocument).2
      ⟨p.admits_toDocument m, p.missing?_toDocument, p.ofEntries_toDocument m⟩
  exact (ofDocument_eq_ok_iff_of_mapShaped p.mapShaped_toDocument).2
    ⟨hplan, output?_toDocument p⟩

lemma alike_toDocument (p : Plan) : documentType.Alike p.toDocument := by
  have hfit : ∀ m, documentType.AllFit m p.toDocument :=
    fun m => allFit_of_ofDocument (ofDocument_written m p)
  exact ⟨p.isShared_toDocument, (hfit .toml).noLiteralAsText, (hfit .yaml).noMappingAsAlternative,
    (hfit .yaml).noSequenceAsRecord⟩

/-- The form of the output that the value of its entry names: none where there is no value or a
null, a text as it is, and a scalar without quotes as it is spelled, even when it is spelled like a
value of another type. -/
inductive NamesOutput : Option Document → Option String → Prop
  | absent : NamesOutput none none
  | null {v : Document} (h : v.found = .null) : NamesOutput (some v) none
  | text (s : String) : NamesOutput (some (.text s)) (some s)
  | unquoted {s : String} (h : Scalar.resolve s ≠ .null) : NamesOutput (some (.plain s)) (some s)

lemma isUnset_iff_found {v : Document} (h : ∀ tag w, v ≠ .tagged tag w) :
    v.isUnset = true ↔ v.found = .null := by
  cases v with
  | plain s => exact resolve_eq_null_iff.symm
  | tagged tag w => exact absurd rfl (h tag w)
  | _ => simp [isUnset, found]

lemma namesOutput_some_iff {v : Document} (h : ∀ tag w, v ≠ .tagged tag w) {o : Option String} :
    NamesOutput (some v) o ↔ optional? text? v = some o := by
  have hnull : v.isFalseNull = false := by
    cases v with
    | tagged tag w => exact absurd rfl (h tag w)
    | _ => rfl
  rw [optional?, hnull]
  by_cases hv : v.found = .null
  · rw [if_pos ((isUnset_iff_found h).2 hv)]
    constructor
    · intro hnames
      cases hnames with
      | null => rfl
      | text s => cases hv
      | unquoted hs => exact absurd hv hs
    · intro ho
      cases ho
      exact .null hv
  · rw [if_neg (mt (isUnset_iff_found h).1 hv), if_neg Bool.false_ne_true]
    constructor
    · intro hnames
      cases hnames with
      | null hnull => exact absurd hnull hv
      | text s => rfl
      | unquoted => rfl
    · intro ho
      cases v with
      | text s =>
        cases ho
        exact .text s
      | plain s =>
        cases ho
        exact .unquoted hv
      | tagged tag w => exact absurd rfl (h tag w)
      | _ => cases ho

lemma namesOutput_iff (h : ∀ tag v, d.member? "output" ≠ some (.tagged tag v)) {o : Option String} :
    NamesOutput (d.member? "output") o ↔ output? d = some o := by
  rw [output?]
  cases hd : d.member? "output" with
  | none =>
    constructor
    · intro hnames
      cases hnames
      rfl
    · intro ho
      cases ho
      exact .absent
  | some v =>
    refine namesOutput_some_iff fun tag w hv => ?_
    exact h tag w (hv ▸ hd)

/-- A plan file can be read from a mapping with distinct names exactly when the plan can and
`output` is not there, a null, a text or a scalar without quotes; it holds both. A file whose
document is what a plan is written as holds this plan and names no form of the output. Of two files
with the same tree, the one in TOML can be read only if there is no boolean or number where a text
is wanted, the one in YAML only if there is no mapping where an alternative is and no sequence where
a record is; where all this is so they hold the same plan, if any. -/
theorem holds_plan_and_output :
    (∀ m d entries, d.entries? = some entries → HasDistinctNames entries →
      (∀ tag v, d.member? "output" ≠ some (.tagged tag v)) →
      ∀ p o, ofDocument m d = .ok ⟨p, o⟩ ↔
        Plan.ofDocument m d = .ok p ∧ NamesOutput (d.member? "output") o) ∧
    (∀ path text d p, planDocument? path text = some d →
      Rearranged (d.tree (planMarkup path)) p.toDocument →
        ofText path text = .ok ⟨p, none⟩) ∧
    ∀ path path' text text' d d' t, planMarkup path = .toml → planMarkup path' = .yaml →
      planDocument? path text = some d → planDocument? path' text' = some d' →
      Rearranged (d.tree .toml) t → Rearranged (d'.tree .yaml) t → IsShared t → ∀ file,
        (ofText path text = .ok file → documentType.NoLiteralAsText t) ∧
        (ofText path' text' = .ok file →
          documentType.NoMappingAsAlternative t ∧ documentType.NoSequenceAsRecord t) ∧
        (documentType.NoLiteralAsText t → documentType.NoMappingAsAlternative t →
          documentType.NoSequenceAsRecord t →
            (ofText path text = .ok file ↔ ofText path' text' = .ok file)) := by
  refine ⟨fun m d entries hd hnames htag p o => ?_, fun path text d p htext htree => ?_, ?_⟩
  · have hsequence : ∀ items, d ≠ .sequence items := by
      rintro items rfl
      cases hd
    have hdistinct : ∀ entries', d.entries? = some entries' → HasDistinctNames entries' := by
      intro entries' hd'
      rw [hd, Option.some.injEq] at hd'
      exact hd' ▸ hnames
    rw [ofDocument_eq_ok_iff hsequence hdistinct, namesOutput_iff htag]
  · have hmarkup : planMarkup path = .toml ∨ planMarkup path = .yaml := by
      unfold planMarkup
      split <;> simp
    rw [ofText_eq_ok_iff htext]
    rcases hmarkup with hm | hm
    · rw [hm] at htree ⊢
      have hback := ofDocument_rearranged (m := .toml) p.mapShaped_toDocument htree.symm ⟨p, none⟩
      exact hback.1 (ofDocument_written .toml p)
    · rw [hm] at htree ⊢
      exact (ofDocument_yaml_iff (alike_toDocument p) htree).2 (ofDocument_written .toml p)
  · intro path path' text text' d d' t hm hm' htext htext' htree htree' hshared file
    rw [ofText_eq_ok_iff htext, ofText_eq_ok_iff htext', hm, hm']
    refine ⟨fun hread => ?_, fun hread => ?_, fun htexts hnamed hmapped => ?_⟩
    · -- what TOML has read holds of its own document, and is carried over to the tree
      have hfit : documentType.AllFit .toml d := allFit_of_ofDocument hread
      exact hfit.noLiteralAsText.rearranged (hshared.rearranged htree.symm) htree
    · have hfit : documentType.AllFit .yaml d' := allFit_of_ofDocument hread
      have hresolved : IsShared d'.resolved := hshared.rearranged htree'.symm
      exact ⟨(hfit.noMappingAsAlternative.resolved hresolved).rearranged hresolved htree',
        (hfit.noSequenceAsRecord.resolved hresolved).rearranged hresolved htree'⟩
    · have hshape : Plan.documentType.MapShaped t := mapShaped_plan (hmapped.mapShaped hshared)
      have htoml : ofDocument .toml d = .ok file ↔ ofDocument .toml t = .ok file :=
        (ofDocument_rearranged hshape htree.symm file).symm
      rw [htoml]
      exact (ofDocument_yaml_iff ⟨hshared, htexts, hnamed, hmapped⟩ htree').symm

/-- A plan whose endpoints have a path and nothing else. -/
def pathsPlan : Plan where
  source := { path := "/a" }
  target := { path := "/b" }

/-- `pathsPlan` with every field that a plan is written with. -/
def writtenYaml : String :=
  "source:\n  kind: local\n  path: /a\n  use_github_cli: false\n" ++
  "target:\n  kind: local\n  path: /b\n  use_github_cli: false\n" ++
  "system:\n  package_manager: apt\n  install_tools: false\n  configure_firewall: false\n" ++
  "  install_dependencies: false\n  python_packages: []\n" ++
  "sync:\n  dry_run: false\n  executable: python3 sync.py\n"

/-- A tree with the paths of `pathsPlan` and nothing else. -/
def pathsTree : Document :=
  recordDocument [
    ("source", some (recordDocument [("path", some (.text "/a"))])),
    ("target", some (recordDocument [("path", some (.text "/b"))]))]

def pathsToml : String :=
  "source.path = \"/a\"\ntarget.path = \"/b\"\n"

def pathsYaml : String :=
  "source:\n  path: /a\ntarget:\n  path: /b\n"

lemma isShared_pathsTree : IsShared pathsTree := by
  have hpath : ∀ path, IsShared (recordDocument [("path", some (.text path))]) := by
    intro path
    refine isShared_recordDocument (by simp) ?_
    simp only [List.forall_mem_cons]
    exact ⟨.text path, nofun⟩
  refine isShared_recordDocument (by simp) ?_
  simp only [List.forall_mem_cons]
  exact ⟨hpath "/a", hpath "/b", nofun⟩

/-- The plan with two paths is read from a tree, from the text it is written as, and from two texts
in two languages. -/
theorem holds_plan_and_output_pathsPlan :
    ofDocument .toml pathsTree = .ok ⟨pathsPlan, none⟩ ∧
      ofText ⟨"repull.yaml"⟩ writtenYaml = .ok ⟨pathsPlan, none⟩ ∧
      ofText ⟨"repull.toml"⟩ pathsToml = .ok ⟨pathsPlan, none⟩ ∧
      ofText ⟨"repull.yaml"⟩ pathsYaml = .ok ⟨pathsPlan, none⟩ := by
  have hwritten : (planDocument? ⟨"repull.yaml"⟩ writtenYaml).map (tree .yaml) =
      some pathsPlan.toDocument := by
    unfold planDocument? Yaml.parse? Yaml.tokens? writtenYaml
    repeat rw [String.toList_append]
    repeat rw [String.toList_ofList]
    decide +kernel
  have hparsed : planDocument? ⟨"repull.toml"⟩ pathsToml = some pathsTree ∧
      (planDocument? ⟨"repull.yaml"⟩ pathsYaml).map (tree .yaml) = some pathsTree := by
    decide +kernel
  obtain ⟨htoml, hyaml⟩ := hparsed
  obtain ⟨d, hd, htree⟩ := Option.map_eq_some_iff.1 hwritten
  obtain ⟨d', hd', htree'⟩ := Option.map_eq_some_iff.1 hyaml
  obtain ⟨hreads, hback, hboth⟩ := holds_plan_and_output
  have hfile : ofDocument .toml pathsTree = .ok ⟨pathsPlan, none⟩ :=
    (hreads .toml pathsTree _ rfl (isShared_pathsTree.of_entries? rfl).1 (fun _ _ => nofun)
      pathsPlan none).2 ⟨by decide, .absent⟩
  have htext : ofText ⟨"repull.toml"⟩ pathsToml = .ok ⟨pathsPlan, none⟩ :=
    (ofText_eq_ok_iff htoml).2 hfile
  obtain ⟨htexts, -, hsame⟩ := hboth ⟨"repull.toml"⟩ ⟨"repull.yaml"⟩ pathsToml pathsYaml pathsTree
    d' pathsTree (by decide) (by decide) htoml hd' (.refl _) (htree' ▸ .refl _) isShared_pathsTree
    ⟨pathsPlan, none⟩
  have hyaml : ofDocument .yaml pathsTree = .ok ⟨pathsPlan, none⟩ := by decide
  have hfit : documentType.AllFit .yaml pathsTree := allFit_of_ofDocument hyaml
  exact ⟨hfile, hback _ _ d pathsPlan hd (htree ▸ .refl _), htext,
    (hsame (htexts htext) hfit.noMappingAsAlternative hfit.noSequenceAsRecord).1 htext⟩

/-- A tree with a number as the form of the output. -/
def numberTree : Document :=
  .mapping [
    (.text "output", .integer 5),
    (.text "source", .mapping [(.text "path", .text "/a")]),
    (.text "target", .mapping [(.text "path", .text "/b")])]

def numberToml : String :=
  "output = 5\nsource.path = \"/a\"\ntarget.path = \"/b\"\n"

def numberYaml : String :=
  "output: 5\nsource:\n  path: /a\ntarget:\n  path: /b\n"

/-- A tree with a mapping in place of a kind of endpoint. -/
def kindTree : Document :=
  .mapping [
    (.text "source", .mapping [
      (.text "path", .text "/a"), (.text "kind", .mapping [(.text "local", .mapping [])])]),
    (.text "target", .mapping [(.text "path", .text "/b")])]

def kindToml : String :=
  "[source]\npath = \"/a\"\n[source.kind.local]\n[target]\npath = \"/b\"\n"

def kindYaml : String :=
  "source:\n  path: /a\n  kind:\n    local: \x7b\x7d\ntarget:\n  path: /b\n"

/-- A tree with a sequence in place of an endpoint. -/
def sequenceTree : Document :=
  .mapping [
    (.text "source", .sequence [.text "local", .text "/a"]),
    (.text "target", .mapping [(.text "path", .text "/b")])]

def sequenceToml : String :=
  "source = [\"local\", \"/a\"]\ntarget.path = \"/b\"\n"

def sequenceYaml : String :=
  "source: [local, /a]\ntarget:\n  path: /b\n"

/-- YAML takes a number for the form of the output, where TOML refuses the same tree; and TOML takes
a mapping for a kind and a sequence for an endpoint, where YAML refuses the same trees. -/
theorem number_output_mapping_kind_and_sequence_source :
    (planDocument? ⟨"repull.yaml"⟩ numberYaml).map (tree .yaml) = some numberTree ∧
    (planDocument? ⟨"repull.yaml"⟩ numberYaml).map (Plan.ofDocument .yaml) =
      some (.ok pathsPlan) ∧
    ofText ⟨"repull.yaml"⟩ numberYaml = .ok ⟨pathsPlan, some "5"⟩ ∧
    (planDocument? ⟨"repull.toml"⟩ numberToml).map (tree .toml) = some numberTree ∧
    (ofText ⟨"repull.toml"⟩ numberToml).toOption = none ∧
    (planDocument? ⟨"repull.toml"⟩ kindToml).map (tree .toml) = some kindTree ∧
    ofText ⟨"repull.toml"⟩ kindToml = .ok ⟨pathsPlan, none⟩ ∧
    (planDocument? ⟨"repull.yaml"⟩ kindYaml).map (tree .yaml) = some kindTree ∧
    (ofText ⟨"repull.yaml"⟩ kindYaml).toOption = none ∧
    (planDocument? ⟨"repull.toml"⟩ sequenceToml).map (tree .toml) = some sequenceTree ∧
    ofText ⟨"repull.toml"⟩ sequenceToml = .ok ⟨pathsPlan, none⟩ ∧
    (planDocument? ⟨"repull.yaml"⟩ sequenceYaml).map (tree .yaml) = some sequenceTree ∧
    (ofText ⟨"repull.yaml"⟩ sequenceYaml).toOption = none := by
  decide +kernel

end PlanFile

end SyncScript
