import SyncScript.Proofs.Document.PlanReading
import SyncScript.Proofs.Document.Wanted

/-!
# Reading plan files

A plan file has the fields of a plan and one more. What is read from it is the plan that stands in
the same document, and the form of the output under the name of the field of its own.
-/

namespace SyncScript

open Document FieldType

/-- A field of a plan, as a field of the plan in a plan file. -/
def Field.inPlan (f : Field Plan) : Field PlanFile where
  name := f.name
  required := f.required
  read d file := (fun p => { file with plan := p }) <$> f.read d file.plan

lemma Field.inPlan_of {β : Type} (name : String) (read : Document → Reading β)
    (put : Plan → β → Plan) (required : Bool) :
    (Field.of name read put required).inPlan =
      Field.of name read (fun file v => { file with plan := put file.plan v }) required := by
  have hread : ∀ d file,
      (Field.of name read put required).inPlan.read d file =
        (fun v => { file with plan := put file.plan v }) <$> read d := by
    intro d file
    simp only [inPlan, Field.of]
    cases read d <;> rfl
  exact congrArg (Field.mk name required) (funext fun d => funext (hread d))

namespace PlanFile

/-- The fields of a plan file: the form of the output and what a plan has. -/
def fieldTypes : List (String × FieldType) :=
  ("output", .optional .text) :: Plan.fieldTypes

/-- What a document must be to be read as a plan file, but for the fields that it must have. -/
def documentType : FieldType :=
  .record "struct PlanFile" fieldTypes

variable {m : Markup} {d d' : Document} {entries : List (Document × Document)}
  {file file' : PlanFile}

def outputField : Field PlanFile :=
  .of "output" (readOption readText) fun file v => { file with output := v }

lemma schema_fields (m : Markup) :
    (schema m).fields = outputField :: (Plan.schema m).fields.map Field.inPlan := by
  simp only [schema, Plan.schema, List.map_cons, List.map_nil, Field.inPlan_of, outputField]

lemma field?_eq (m : Markup) (name : String) :
    (schema m).field? name =
      if name = "output" then some outputField
      else ((Plan.schema m).field? name).map Field.inPlan := by
  rw [Schema.field?, Schema.field?, schema_fields, List.find?_cons, List.find?_map]
  by_cases h : name = "output"
  · rw [if_pos h, h]
    rfl
  · have hname : (outputField.name == name) = false := beq_eq_false_iff_ne.2 (Ne.symm h)
    rw [if_neg h, hname]
    rfl

/-- The form of the output after one more entry. -/
def outputAfter (o : Option String) (e : Document × Document) : Option (Option String) :=
  if e.1.text? = some "output" then optional? text? e.2 else some o

/-- An entry changes the plan in a plan file as it changes a plan, and the form of the output if it
is named so. -/
lemma readEntry_eq_ok_iff {e : Document × Document} :
    (schema m).readEntry file e = .ok file' ↔
      (Plan.schema m).readEntry file.plan e = .ok file'.plan ∧
        outputAfter file.output e = some file'.output := by
  obtain ⟨p, o⟩ := file
  obtain ⟨p', o'⟩ := file'
  rw [Schema.readEntry, Schema.readEntry, outputAfter]
  cases hname : e.1.text? with
  | none =>
    have hne : ∀ {α : Type} {a : α}, (e.1.mismatch "field identifier" : Reading α) ≠ .ok a := by
      intro α a h
      rw [← Except.toOption_eq_some, toOption_mismatch] at h
      cases h
    exact iff_of_false hne fun h => hne h.1
  | some name =>
    dsimp only
    rw [field?_eq]
    by_cases h : name = "output"
    · have hplan : (Plan.schema m).field? name = none := by
        rw [h]
        rfl
      rw [if_pos h, if_pos (congrArg some h), hplan]
      dsimp only
      rw [← Except.toOption_eq_some, Reading.toOption_inside, outputField, Field.of,
        Reading.toOption_map, toOption_readOption toOption_readText]
      cases optional? text? e.2 <;> simp
    · have hoption : some name ≠ some "output" := mt Option.some.inj h
      rw [if_neg h, if_neg hoption]
      cases (Plan.schema m).field? name with
      | none => simp
      | some f =>
        dsimp only [Option.map_some, Field.inPlan]
        rw [← Except.toOption_eq_some, ← Except.toOption_eq_some, Reading.toOption_inside,
          Reading.toOption_inside, Reading.toOption_map]
        cases (f.read e.2 p).toOption <;> simp

lemma foldlM_eq_ok_iff :
    entries.foldlM (schema m).readEntry file = .ok file' ↔
      entries.foldlM (Plan.schema m).readEntry file.plan = .ok file'.plan ∧
        entries.foldlM outputAfter file.output = some file'.output := by
  induction entries generalizing file with
  | nil =>
    obtain ⟨p, o⟩ := file
    obtain ⟨p', o'⟩ := file'
    simp [pure, Except.pure]
  | cons e entries ih =>
    rw [List.foldlM_cons, List.foldlM_cons, List.foldlM_cons, Except.bind_eq_ok,
      Except.bind_eq_ok, Option.bind_eq_bind, Option.bind_eq_some_iff]
    constructor
    · rintro ⟨between, hentry, hrest⟩
      obtain ⟨hplan, houtput⟩ := readEntry_eq_ok_iff.1 hentry
      obtain ⟨hplans, houtputs⟩ := ih.1 hrest
      exact ⟨⟨between.plan, hplan, hplans⟩, between.output, houtput, houtputs⟩
    · rintro ⟨⟨p, hplan, hplans⟩, o, houtput, houtputs⟩
      exact ⟨⟨p, o⟩, readEntry_eq_ok_iff.2 ⟨hplan, houtput⟩, ih.2 ⟨hplans, houtputs⟩⟩

lemma foldlM_outputAfter_of_none (h : valueOf? "output" entries = none) (o : Option String) :
    entries.foldlM outputAfter o = some o := by
  rw [valueOf?_eq_none_iff] at h
  induction entries with
  | nil => rfl
  | cons e entries ih =>
    rw [List.forall_mem_cons] at h
    rw [List.foldlM_cons, outputAfter, if_neg h.1]
    exact ih h.2

/-- The form of the output that a document names. There is none where the value is not one. -/
def output? (d : Document) : Option (Option String) :=
  match d.member? "output" with
  | none => some none
  | some v => optional? text? v

lemma foldlM_outputAfter (hd : d.entries? = some entries) (hnames : HasDistinctNames entries) :
    entries.foldlM outputAfter none = output? d := by
  rw [output?, member?, hd, Option.bind_some]
  clear hd
  induction entries with
  | nil => rfl
  | cons e entries ih =>
    obtain ⟨key, v⟩ := e
    obtain ⟨name, hkey, hothers, hrest⟩ := hasDistinctNames_cons.1 hnames
    rw [List.foldlM_cons, outputAfter, valueOf?_cons hkey]
    by_cases h : name = "output"
    · subst h
      -- no other entry has the name, so this form of the output is the last
      rw [if_pos hkey, if_pos rfl]
      dsimp only
      cases optional? text? v with
      | none => rfl
      | some o => exact foldlM_outputAfter_of_none (valueOf?_eq_none_iff.2 hothers) o
    · have hother : ¬ key.text? = some "output" := by
        rw [hkey]
        exact mt Option.some.inj h
      rw [if_neg hother, if_neg h]
      exact ih hrest

lemma missing?_eq (m : Markup) (entries : List (Document × Document)) :
    (schema m).missing? entries = (Plan.schema m).missing? entries := by
  have houtput : outputField.required = false := rfl
  rw [Schema.missing?, Schema.missing?, schema_fields, List.find?_cons, List.find?_map, houtput,
    Bool.false_and]
  exact Option.map_map _ _ _

/-- A plan file is read from a document exactly when the plan is and the form of the output is
none or a text, and it holds both. -/
lemma ofDocument_eq_ok_iff (hsequence : ∀ items, d ≠ .sequence items)
    (hnames : ∀ entries, d.entries? = some entries → HasDistinctNames entries) {p : Plan}
    {o : Option String} :
    ofDocument m d = .ok ⟨p, o⟩ ↔ Plan.ofDocument m d = .ok p ∧ output? d = some o := by
  rw [ofDocument, Plan.ofDocument, Schema.read_eq hsequence, Schema.read_eq hsequence]
  cases hd : d.entries? with
  | none =>
    dsimp only
    rw [← Except.toOption_eq_some, ← Except.toOption_eq_some, toOption_mismatch,
      toOption_mismatch]
    simp
  | some entries =>
    dsimp only
    rw [Schema.readEntries_eq_ok_iff (hnames entries hd),
      Schema.readEntries_eq_ok_iff (hnames entries hd), missing?_eq, foldlM_eq_ok_iff,
      foldlM_outputAfter hd (hnames entries hd)]
    exact and_right_comm

lemma ofDocument_eq_ok_iff_of_mapShaped (h : Plan.documentType.MapShaped d) {p : Plan}
    {o : Option String} :
    ofDocument m d = .ok ⟨p, o⟩ ↔ Plan.ofDocument m d = .ok p ∧ output? d = some o := by
  rw [Plan.documentType, MapShaped] at h
  exact ofDocument_eq_ok_iff h.1 fun entries hentries => (h.2 entries hentries).1

/-- Everything in the document of a plan file fits what is wanted of it. -/
lemma allFit_of_ofDocument (h : ofDocument m d = .ok file) : documentType.AllFit m d := by
  have houtput : ∀ d o, readOption readText d = .ok o → (optional text).AllFit m d :=
    fun _ _ => allFit_optional fun _ _ => allFit_text
  refine Schema.allFit_of_read ?_ h _
  exact .cons ⟨rfl, Field.demands_of houtput⟩ <|
    .cons ⟨rfl, Field.demands_of fun _ _ => Endpoint.allFit_of_ofDocument⟩ <|
    .cons ⟨rfl, Field.demands_of fun _ _ => Endpoint.allFit_of_ofDocument⟩ <|
    .cons ⟨rfl, Field.demands_of fun _ _ => System.allFit_of_ofDocument⟩ <|
    .cons ⟨rfl, Field.demands_of fun _ _ => SyncOptions.allFit_of_ofDocument⟩ .nil

lemma mapShaped_plan (h : documentType.MapShaped d) : Plan.documentType.MapShaped d := by
  have hfield : ∀ n type, Plan.fieldTypes.lookup n = some type →
      fieldTypes.lookup n = some type := by
    intro n type htype
    rw [fieldTypes, List.lookup_cons]
    by_cases hn : n = "output"
    · subst hn
      cases htype
    · rw [beq_eq_false_iff_ne.2 hn]
      exact htype
  rw [documentType, MapShaped] at h
  rw [Plan.documentType, MapShaped]
  refine ⟨h.1, fun entries hentries => ?_⟩
  obtain ⟨hnames, hvalues⟩ := h.2 entries hentries
  refine ⟨hnames, fun e he n hn => fieldMapShaped_iff.2 fun type htype => ?_⟩
  exact fieldMapShaped_iff.1 (hvalues e he n hn) type (hfield n type htype)

lemma output?_rearranged (h : Plan.documentType.MapShaped d) (hd : Rearranged d d') :
    output? d = output? d' := by
  have hrel := member?_rel h hd "output"
  rw [output?, output?]
  generalize d.member? "output" = o, d'.member? "output" = o' at hrel
  cases hrel with
  | none => rfl
  | some hv => exact hv.optional?_eq Rearranged.text?_eq

lemma ofDocument_rearranged (h : Plan.documentType.MapShaped d) (hd : Rearranged d d')
    (file : PlanFile) : ofDocument m d = .ok file ↔ ofDocument m d' = .ok file := by
  obtain ⟨p, o⟩ := file
  rw [ofDocument_eq_ok_iff_of_mapShaped h,
    ofDocument_eq_ok_iff_of_mapShaped (mapShaped_rearranged h hd),
    Plan.ofDocument_rearranged h hd, output?_rearranged h hd]

end PlanFile

end SyncScript
