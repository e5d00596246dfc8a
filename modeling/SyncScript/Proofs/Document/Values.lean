import Mathlib.Tactic.Common
import SyncScript.Document.Reading
import SyncScript.Proofs.Results

/-!
# Values in documents

What a document stands for where a text, a truth value, a list of texts or one of several
alternatives is wanted. Each reader of a single value accepts exactly the documents that stand for
one, and returns it.
-/

namespace SyncScript

/-- An error of a value, as an error of what the value is in. -/
def ReadError.inside (step : Step) (e : ReadError) : ReadError :=
  ⟨step :: e.place, e.fault⟩

/-- The error that a reader stops at. -/
def Reading.fault? {α : Type} : Reading α → Option ReadError
  | .ok _ => none
  | .error e => some e

namespace Reading

variable {α β : Type}

lemma fault?_eq_some {r : Reading α} {e : ReadError} : r.fault? = some e ↔ r = .error e := by
  cases r <;> simp [fault?]

lemma fault?_eq_none {r : Reading α} : r.fault? = none ↔ r.toOption.isSome = true := by
  cases r <;> simp [fault?, Except.toOption]

lemma fault?_map (f : α → β) (r : Reading α) : (f <$> r).fault? = r.fault? := by
  cases r <;> rfl

lemma fault?_inside (step : Step) (r : Reading α) :
    (inside step r).fault? = r.fault?.map (.inside step) := by
  cases r <;> rfl

lemma toOption_map (f : α → β) (r : Reading α) : (f <$> r).toOption = r.toOption.map f := by
  cases r <;> rfl

lemma toOption_map_congr {r r' : Reading α} (f : α → β) (h : r.toOption = r'.toOption) :
    (f <$> r).toOption = (f <$> r').toOption := by
  rw [toOption_map, toOption_map, h]

lemma toOption_bind (r : Reading α) (f : α → Reading β) :
    (r >>= f).toOption = r.toOption.bind fun a => (f a).toOption := by
  cases r <;> rfl

lemma toOption_inside (step : Step) (r : Reading α) : (inside step r).toOption = r.toOption := by
  cases r <;> rfl

end Reading

namespace Document

variable {α : Type}

/-- The truth value that a document stands for. -/
def truth? : Document → Option Bool
  | bool b => some b
  | plain s | tagged _ (plain s) => Scalar.bool? s
  | _ => none

/-- A value that may be left unset. -/
def optional? (value? : Document → Option α) (d : Document) : Option (Option α) :=
  if d.isUnset then some none
  else if d.isFalseNull then none
  else (value? d).map some

/-- The items of a list. A plain null stands for the empty one. -/
def items? : Document → Option (List Document)
  | sequence items | tagged _ (sequence items) => some items
  | plain s | tagged _ (plain s) => if s.isEmpty || Scalar.isNull s then some [] else none
  | _ => none

def texts? (d : Document) : Option (List String) :=
  d.items?.bind fun items => items.mapM text?

/-- Whether a document may stand beside the name of an alternative. -/
def saysNothing : Markup → Document → Bool
  | .toml, sequence items => items.isEmpty
  | .toml, mapping entries => entries.isEmpty
  | .toml, _ => false
  | .json, d | .yaml, d => d.isUnset

/-- The name of the alternative that a document stands for. -/
def alternative? : Markup → Document → Option String
  | .json, text s | .toml, text s => some s
  | .json, mapping [(text name, value)] => if saysNothing .json value then some name else none
  | .toml, mapping [(text name, value)] => if saysNothing .toml value then some name else none
  | .json, _ | .toml, _ => none
  | .yaml, tagged tag value =>
    match tag.toList with
    | '!' :: name =>
      if saysNothing .yaml value then some (if name.isEmpty then tag else String.ofList name)
      else none
    | _ => value.text?
  | .yaml, d => d.text?

/-- The alternative that a document stands for. -/
def variant? (m : Markup) (variants : List (String × α)) (d : Document) : Option α :=
  (alternative? m d).bind (List.lookup · variants)

lemma toOption_mismatch (d : Document) (wanted : String) :
    (d.mismatch wanted : Reading α).toOption = none := by
  unfold mismatch
  split <;> rfl

lemma fault?_mismatch {β : Type} (d : Document) (wanted : String) :
    (d.mismatch wanted : Reading α).fault? = (d.mismatch wanted : Reading β).fault? := by
  unfold mismatch
  split <;> rfl

lemma fault?_mismatch_ne_none (d : Document) (wanted : String) :
    (d.mismatch wanted : Reading α).fault? ≠ none := by
  rw [ne_eq, Reading.fault?_eq_none, toOption_mismatch]
  simp

lemma toOption_readText (d : Document) : (readText d).toOption = d.text? := by
  unfold readText
  cases d.text? with
  | none => exact d.toOption_mismatch _
  | some s => rfl

lemma readBool_eq (d : Document) :
    readBool d = match d.truth? with
      | some b => .ok b
      | none => d.mismatch "a boolean" := by
  cases d with
  | tagged tag d => cases d <;> rfl
  | _ => rfl

lemma toOption_readBool (d : Document) : (readBool d).toOption = d.truth? := by
  rw [readBool_eq]
  cases d.truth? with
  | none => exact d.toOption_mismatch _
  | some b => rfl

lemma toOption_readOption {read : Document → Reading α} {value? : Document → Option α}
    (h : ∀ d, (read d).toOption = value? d) (d : Document) :
    (readOption read d).toOption = optional? value? d := by
  unfold readOption optional?
  split
  · rfl
  · split
    · exact d.toOption_mismatch _
    · rw [Reading.toOption_map, h]

lemma readText_eq_ok {d : Document} {s : String} : readText d = .ok s ↔ d.text? = some s := by
  rw [← toOption_readText, Except.toOption_eq_some]

lemma readBool_eq_ok {d : Document} {b : Bool} : readBool d = .ok b ↔ d.truth? = some b := by
  rw [← toOption_readBool, Except.toOption_eq_some]

lemma readOption_readText_eq_ok {d : Document} {o : Option String} :
    readOption readText d = .ok o ↔ optional? text? d = some o := by
  rw [← toOption_readOption toOption_readText, Except.toOption_eq_some]

lemma readOption_readBool_eq_ok {d : Document} {o : Option Bool} :
    readOption readBool d = .ok o ↔ optional? truth? d = some o := by
  rw [← toOption_readOption toOption_readBool, Except.toOption_eq_some]

lemma toOption_readItems (start : Nat) (items : List Document) :
    (readItems readText start items).toOption = items.mapM text? := by
  induction items generalizing start with
  | nil => rfl
  | cons d items ih =>
    have hitem := toOption_readText d
    rw [← Reading.toOption_inside (.index start)] at hitem
    rw [List.mapM_cons, ← hitem, ← ih (start + 1), readItems]
    cases Reading.inside (.index start) (readText d) with
    | error e => rfl
    | ok s => cases readItems readText (start + 1) items <;> rfl

lemma readList_eq (read : Document → Reading α) (d : Document) :
    readList read d = match d.items? with
      | some items => readItems read 0 items
      | none => d.mismatch "a sequence" := by
  have hplain : ∀ (s : String) (d : Document),
      (if s.isEmpty || Scalar.isNull s then .ok [] else d.mismatch "a sequence") =
        match (if s.isEmpty || Scalar.isNull s then some [] else none) with
        | some items => readItems read 0 items
        | none => d.mismatch "a sequence" := by
    intro s d
    split <;> rfl
  cases d with
  | plain s => exact hplain s (plain s)
  | tagged tag d =>
    cases d with
    | plain s => exact hplain s (tagged tag (plain s))
    | _ => rfl
  | _ => rfl

lemma toOption_readList (d : Document) : (readList readText d).toOption = d.texts? := by
  rw [readList_eq, texts?]
  cases d.items? with
  | none => exact d.toOption_mismatch _
  | some items => exact toOption_readItems 0 items

lemma toOption_readVariant (variants : List (String × α)) (name : String) :
    (readVariant variants name).toOption = variants.lookup name := by
  unfold readVariant
  cases variants.lookup name <;> rfl

lemma toOption_readNothing (m : Markup) (d : Document) :
    (readNothing m d).toOption = if saysNothing m d then some () else none := by
  have hunset : (if d.isUnset then .ok () else d.mismatch "unit" : Reading Unit).toOption =
      if d.isUnset then some () else none := by
    split
    · rfl
    · exact d.toOption_mismatch _
  cases m with
  | json => exact hunset
  | yaml => exact hunset
  | toml =>
    cases d with
    | sequence items => cases items <;> rfl
    | mapping entries => cases entries <;> rfl
    | _ => rfl

lemma toOption_readVariantWith (m : Markup) (variants : List (String × α)) (name : String)
    (value : Document) :
    (readVariantWith m variants name value).toOption =
      (if saysNothing m value then some name else none).bind (List.lookup · variants) := by
  have hname := toOption_readVariant variants name
  have hvalue := toOption_readNothing m value
  unfold readVariantWith
  cases hread : readNothing m value with
  | error e =>
    rw [hread] at hvalue
    have hfilled : saysNothing m value = false := by
      by_contra h
      rw [Bool.not_eq_false] at h
      simp [h, Except.toOption] at hvalue
    rw [hfilled]
    cases readVariant variants name <;> rfl
  | ok u =>
    rw [hread] at hvalue
    have hempty : saysNothing m value = true := by
      by_contra h
      simp [h, Except.toOption] at hvalue
    rw [hempty]
    change _ = List.lookup name variants
    rw [← hname]
    cases readVariant variants name <;> rfl

lemma toOption_readEnum_mapping (m : Markup) (variants : List (String × α))
    (entries : List (Document × Document)) :
    (readEnum m variants (mapping entries)).toOption =
      (alternative? m (mapping entries)).bind (List.lookup · variants) := by
  cases entries with
  | nil => cases m <;> rfl
  | cons entry entries =>
    obtain ⟨key, value⟩ := entry
    cases entries with
    | nil =>
      cases key with
      | text name =>
        cases m with
        | json => exact toOption_readVariantWith .json variants name value
        | toml => exact toOption_readVariantWith .toml variants name value
        | yaml => rfl
      | _ => cases m <;> rfl
    | cons entry entries => cases key <;> cases m <;> rfl

lemma toOption_readEnum_text (variants : List (String × α)) (d : Document) :
    (match d.text? with
      | some s => readVariant variants s
      | none => d.mismatch "a YAML tag starting with '!'").toOption =
      d.text?.bind (List.lookup · variants) := by
  cases d.text? with
  | none => exact d.toOption_mismatch _
  | some s => exact toOption_readVariant variants s

lemma toOption_readEnum_tagged (variants : List (String × α)) (tag : String) (value : Document) :
    (readEnum .yaml variants (tagged tag value)).toOption =
      (alternative? .yaml (tagged tag value)).bind (List.lookup · variants) := by
  have hvalue := toOption_readEnum_text variants value
  unfold readEnum alternative?
  dsimp only
  split
  · rename_i name _ htag
    rw [htag]
    exact toOption_readVariantWith .yaml variants _ value
  · rename_i s hs hown
    rw [hs] at hvalue
    split
    · rename_i name htag
      exact absurd htag (hown name)
    · rw [hs]
      exact hvalue
  · rename_i hs hown
    rw [hs] at hvalue
    split
    · rename_i name htag
      exact absurd htag (hown name)
    · rw [hs]
      exact hvalue

lemma toOption_readEnum (m : Markup) (variants : List (String × α)) (d : Document) :
    (readEnum m variants d).toOption = variant? m variants d := by
  cases m with
  | json =>
    have hother : (d.mismatch "string or map" : Reading α).toOption = none := d.toOption_mismatch _
    cases d with
    | text s => exact toOption_readVariant variants s
    | mapping entries => exact toOption_readEnum_mapping .json variants entries
    | _ => exact hother
  | toml =>
    cases d with
    | text s => exact toOption_readVariant variants s
    | mapping entries => exact toOption_readEnum_mapping .toml variants entries
    | _ => rfl
  | yaml =>
    have htext := toOption_readEnum_text variants d
    cases d with
    | tagged tag value => exact toOption_readEnum_tagged variants tag value
    | _ => exact htext

/-- Which names are known decides where reading an alternative fails, not what they stand for. -/
lemma fault?_readVariant (variants : List (String × α)) (name : String) :
    (readVariant variants name).fault? =
      if name ∈ variants.map Prod.fst then none
      else some ⟨[], .unknownVariant name (variants.map Prod.fst)⟩ := by
  unfold readVariant
  cases h : variants.lookup name with
  | none =>
    rw [List.lookup_eq_none_iff] at h
    have hmem : name ∉ variants.map Prod.fst := by
      intro hmem
      obtain ⟨variant, hvariant, rfl⟩ := List.mem_map.1 hmem
      simpa using h variant hvariant
    rw [if_neg hmem]
    rfl
  | some a =>
    have hmem := List.lookup_isSome_iff.1 (Option.isSome_of_eq_some h)
    rw [if_pos (by simpa using hmem)]
    rfl

section SameNames

variable {β : Type} {variants : List (String × α)} {others : List (String × β)}

lemma fault?_readVariant_congr (h : variants.map Prod.fst = others.map Prod.fst) (name : String) :
    (readVariant variants name).fault? = (readVariant others name).fault? := by
  rw [fault?_readVariant, fault?_readVariant, h]

lemma fault?_readVariantWith_congr (h : variants.map Prod.fst = others.map Prod.fst) (m : Markup)
    (name : String) (value : Document) :
    (readVariantWith m variants name value).fault? =
      (readVariantWith m others name value).fault? := by
  have hname := fault?_readVariant_congr h name
  unfold readVariantWith
  cases hleft : readVariant variants name with
  | error e =>
    rw [hleft] at hname
    rw [Reading.fault?_eq_some.1 hname.symm]
    rfl
  | ok a =>
    rw [hleft] at hname
    cases hright : readVariant others name with
    | error e =>
      rw [hright] at hname
      cases hname
    | ok b => cases readNothing m value <;> rfl

lemma fault?_readEnum_mapping_congr (h : variants.map Prod.fst = others.map Prod.fst) (m : Markup)
    (entries : List (Document × Document)) :
    (readEnum m variants (mapping entries)).fault? =
      (readEnum m others (mapping entries)).fault? := by
  cases entries with
  | nil => cases m <;> rfl
  | cons entry entries =>
    obtain ⟨key, value⟩ := entry
    cases entries with
    | nil =>
      cases key with
      | text name =>
        cases m with
        | json => exact fault?_readVariantWith_congr h .json name value
        | toml => exact fault?_readVariantWith_congr h .toml name value
        | yaml => rfl
      | _ => cases m <;> rfl
    | cons entry entries => cases key <;> cases m <;> rfl

lemma fault?_readEnum_congr (h : variants.map Prod.fst = others.map Prod.fst) (m : Markup)
    (d : Document) : (readEnum m variants d).fault? = (readEnum m others d).fault? := by
  have htext : ∀ d : Document,
      (match d.text? with
        | some s => readVariant variants s
        | none => d.mismatch "a YAML tag starting with '!'").fault? =
      (match d.text? with
        | some s => readVariant others s
        | none => d.mismatch "a YAML tag starting with '!'").fault? := by
    intro d
    cases d.text? with
    | none => exact d.fault?_mismatch _
    | some s => exact fault?_readVariant_congr h s
  cases m with
  | json =>
    have hother : (d.mismatch "string or map" : Reading α).fault? =
        (d.mismatch "string or map" : Reading β).fault? := d.fault?_mismatch _
    cases d with
    | text s => exact fault?_readVariant_congr h s
    | mapping entries => exact fault?_readEnum_mapping_congr h .json entries
    | _ => exact hother
  | toml =>
    cases d with
    | text s => exact fault?_readVariant_congr h s
    | mapping entries => exact fault?_readEnum_mapping_congr h .toml entries
    | _ => rfl
  | yaml =>
    have hd := htext d
    cases d with
    | tagged tag value =>
      have hvalue := htext value
      unfold readEnum
      dsimp only
      split
      · exact fault?_readVariantWith_congr h .yaml _ value
      · rename_i s hs _
        rw [hs] at hvalue
        exact hvalue
      · rename_i hs _
        rw [hs] at hvalue
        exact hvalue
    | _ => exact hd

end SameNames

lemma readEnum_eq_ok {m : Markup} {variants : List (String × α)} {d : Document} {a : α} :
    readEnum m variants d = .ok a ↔ variant? m variants d = some a := by
  rw [← toOption_readEnum, Except.toOption_eq_some]

end Document

end SyncScript
