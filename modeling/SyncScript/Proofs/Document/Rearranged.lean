import SyncScript.Proofs.Document.PlanFields

/-!
# The order of entries

Documents that differ only in the order of entries, at any level, stand for the same values. Where
the names in records are distinct, what a record holds under a name does not depend on the order
either, so that the same plan comes out.
-/

namespace SyncScript

namespace Document

/-- Documents that differ only in the order of the entries of mappings, at any level. -/
inductive Rearranged : Document → Document → Prop
  | refl (d : Document) : Rearranged d d
  | trans {d d' d'' : Document} (h : Rearranged d d') (h' : Rearranged d' d'') : Rearranged d d''
  | entries {entries entries' : List (Document × Document)} (h : entries.Perm entries') :
    Rearranged (mapping entries) (mapping entries')
  | value {v v' : Document} (before : List (Document × Document)) (key : Document)
    (after : List (Document × Document)) (h : Rearranged v v') :
    Rearranged (mapping (before ++ (key, v) :: after)) (mapping (before ++ (key, v') :: after))
  | item {d d' : Document} (before after : List Document) (h : Rearranged d d') :
    Rearranged (sequence (before ++ d :: after)) (sequence (before ++ d' :: after))
  | tagged {d d' : Document} (tag : String) (h : Rearranged d d') :
    Rearranged (tagged tag d) (tagged tag d')

namespace Rearranged

variable {d d' : Document}

lemma symm (h : Rearranged d d') : Rearranged d' d := by
  induction h with
  | refl d => exact refl d
  | trans _ _ ih ih' => exact ih'.trans ih
  | entries h => exact entries h.symm
  | value before key after _ ih => exact value before key after ih
  | item before after _ ih => exact item before after ih
  | tagged tag _ ih => exact tagged tag ih

/-- Only mappings, sequences and tagged values differ from their rearrangements. -/
lemma cases_kind (h : Rearranged d d') :
    d = d' ∨ (∃ entries entries', d = mapping entries ∧ d' = mapping entries') ∨
      (∃ items items', d = sequence items ∧ d' = sequence items') ∨
      ∃ tag v v', d = .tagged tag v ∧ d' = .tagged tag v' := by
  induction h with
  | refl d => exact Or.inl rfl
  | trans h h' ih ih' =>
    rcases ih with rfl | ⟨_, _, rfl, rfl⟩ | ⟨_, _, rfl, rfl⟩ | ⟨_, _, _, rfl, rfl⟩
    · exact ih'
    all_goals rcases ih' with rfl | ⟨_, _, h, rfl⟩ | ⟨_, _, h, rfl⟩ | ⟨_, _, _, h, rfl⟩
    all_goals cases h
    all_goals simp
  | entries h => exact Or.inr (Or.inl ⟨_, _, rfl, rfl⟩)
  | value before key after h => exact Or.inr (Or.inl ⟨_, _, rfl, rfl⟩)
  | item before after h => exact Or.inr (Or.inr (Or.inl ⟨_, _, rfl, rfl⟩))
  | tagged tag h => exact Or.inr (Or.inr (Or.inr ⟨tag, _, _, rfl, rfl⟩))

lemma text?_eq (h : Rearranged d d') : d.text? = d'.text? := by
  induction h with
  | trans _ _ ih ih' => exact ih.trans ih'
  | tagged tag _ ih => exact ih
  | _ => rfl

lemma truth?_eq (h : Rearranged d d') : d.truth? = d'.truth? := by
  induction h with
  | trans _ _ ih ih' => exact ih.trans ih'
  | tagged tag h _ =>
    rcases h.cases_kind with rfl | ⟨_, _, rfl, rfl⟩ | ⟨_, _, rfl, rfl⟩ | ⟨_, _, _, rfl, rfl⟩ <;> rfl
  | _ => rfl

lemma isUnset_eq (h : Rearranged d d') : d.isUnset = d'.isUnset := by
  induction h with
  | trans _ _ ih ih' => exact ih.trans ih'
  | tagged tag h _ =>
    rcases h.cases_kind with rfl | ⟨_, _, rfl, rfl⟩ | ⟨_, _, rfl, rfl⟩ | ⟨_, _, _, rfl, rfl⟩ <;> rfl
  | _ => rfl

lemma isFalseNull_eq (h : Rearranged d d') : d.isFalseNull = d'.isFalseNull := by
  induction h with
  | trans _ _ ih ih' => exact ih.trans ih'
  | tagged tag h _ =>
    rcases h.cases_kind with rfl | ⟨_, _, rfl, rfl⟩ | ⟨_, _, rfl, rfl⟩ | ⟨_, _, _, rfl, rfl⟩ <;> rfl
  | _ => rfl

lemma optional?_eq {β : Type} {value? : Document → Option β}
    (hvalue : ∀ {d d' : Document}, Rearranged d d' → value? d = value? d') (h : Rearranged d d') :
    optional? value? d = optional? value? d' := by
  rw [optional?, optional?, h.isUnset_eq, h.isFalseNull_eq, hvalue h]

lemma texts?_eq (h : Rearranged d d') : d.texts? = d'.texts? := by
  induction h with
  | trans _ _ ih ih' => exact ih.trans ih'
  | item before after h _ =>
    rw [texts?, texts?, items?, items?]
    dsimp only [Option.bind_some]
    rw [List.mapM_append, List.mapM_append, List.mapM_cons, List.mapM_cons, h.text?_eq]
  | tagged tag h ih =>
    rcases h.cases_kind with rfl | ⟨_, _, rfl, rfl⟩ | ⟨_, _, rfl, rfl⟩ | ⟨_, _, _, rfl, rfl⟩
    · rfl
    · rfl
    · exact ih
    · rfl
  | _ => rfl

lemma packages?_eq (h : Rearranged d d') : d.packages? = d'.packages? := by
  rw [packages?, packages?, h.texts?_eq]

lemma saysNothing_eq (m : Markup) (h : Rearranged d d') : saysNothing m d = saysNothing m d' := by
  have hunset := h.isUnset_eq
  cases m with
  | json => exact hunset
  | yaml => exact hunset
  | toml =>
    clear hunset
    induction h with
    | trans _ _ ih ih' => exact ih.trans ih'
    | entries h => exact h.isEmpty_eq
    | value before key after => cases before <;> rfl
    | item before after => cases before <;> rfl
    | _ => rfl

end Rearranged

lemma alternative?_eq_none (m : Markup) {entries : List (Document × Document)}
    (h : entries.length ≠ 1) : alternative? m (mapping entries) = none := by
  cases entries with
  | nil => cases m <;> rfl
  | cons entry entries =>
    obtain ⟨key, value⟩ := entry
    cases entries with
    | nil => exact absurd rfl h
    | cons entry entries => cases key <;> cases m <;> rfl

namespace Rearranged

variable {d d' : Document}

lemma alternative?_eq (m : Markup) (h : Rearranged d d') :
    alternative? m d = alternative? m d' := by
  induction h with
  | trans _ _ ih ih' => exact ih.trans ih'
  | @entries entries entries' h =>
    by_cases hone : entries.length = 1
    · obtain ⟨e, rfl⟩ := List.length_eq_one_iff.1 hone
      rw [List.singleton_perm.1 h]
    · rw [alternative?_eq_none m hone, alternative?_eq_none m (h.length_eq ▸ hone)]
  | @value v v' before key after h =>
    by_cases hone : (before ++ (key, v) :: after).length = 1
    · have hbefore : before = [] := by
        cases before <;> simp_all
      have hafter : after = [] := by
        cases after <;> simp_all
      subst hbefore hafter
      cases key with
      | text name =>
        cases m with
        | yaml => rfl
        | _ => simp only [List.nil_append, alternative?, h.saysNothing_eq]
      | _ => cases m <;> rfl
    · have hone' : (before ++ (key, v') :: after).length ≠ 1 := by simpa using hone
      rw [alternative?_eq_none m hone, alternative?_eq_none m hone']
  | tagged tag h =>
    cases m with
    | yaml =>
      unfold alternative?
      dsimp only
      rw [h.saysNothing_eq, h.text?_eq]
    | _ => rfl
  | _ => cases m <;> rfl

lemma variant?_eq {β : Type} (m : Markup) (variants : List (String × β)) (h : Rearranged d d') :
    variant? m variants d = variant? m variants d' := by
  rw [variant?, variant?, h.alternative?_eq]

end Rearranged

/-- Mappings with distinct names that hold rearranged values under the same names. -/
structure SameValues (entries entries' : List (Document × Document)) : Prop where
  distinct : HasDistinctNames entries'
  rel : ∀ name, Option.Rel Rearranged (valueOf? name entries) (valueOf? name entries')

variable {entries entries' entries'' : List (Document × Document)}

lemma hasDistinctNames_perm (h : HasDistinctNames entries) (hperm : entries.Perm entries') :
    HasDistinctNames entries' where
  named e he := h.named e (hperm.mem_iff.2 he)
  nodup := (hperm.filterMap _).nodup_iff.1 h.nodup

lemma valueOf?_perm (h : HasDistinctNames entries) (hperm : entries.Perm entries')
    (name : String) : valueOf? name entries = valueOf? name entries' := by
  apply Option.ext
  intro v
  have h' := hasDistinctNames_perm h hperm
  rw [valueOf?_eq_some_iff h, valueOf?_eq_some_iff h']
  exact exists_congr fun key => and_congr_left' hperm.mem_iff

lemma optionRel_refl (o : Option Document) : Option.Rel Rearranged o o := by
  cases o with
  | none => exact .none
  | some v => exact .some (.refl v)

lemma optionRel_trans {o o' o'' : Option Document} (h : Option.Rel Rearranged o o')
    (h' : Option.Rel Rearranged o' o'') : Option.Rel Rearranged o o'' := by
  cases h with
  | none => exact h'
  | some h => cases h' with
    | some h' => exact .some (h.trans h')

lemma SameValues.trans (h : SameValues entries entries') (h' : SameValues entries' entries'') :
    SameValues entries entries'' where
  distinct := h'.distinct
  rel name := optionRel_trans (h.rel name) (h'.rel name)

lemma sameValues_value {v v' key : Document} {before after : List (Document × Document)}
    (h : Rearranged v v') (hnames : HasDistinctNames (before ++ (key, v) :: after)) :
    SameValues (before ++ (key, v) :: after) (before ++ (key, v') :: after) where
  distinct := by
    have hkeys : (before ++ (key, v') :: after).filterMap (·.1.text?) =
        (before ++ (key, v) :: after).filterMap (·.1.text?) := by
      simp [List.filterMap_cons]
    constructor
    · intro e he
      rcases List.mem_append.1 he with he | he
      · exact hnames.named e (List.mem_append_left _ he)
      · rcases List.mem_cons.1 he with rfl | he
        · exact hnames.named (key, v) (by simp)
        · exact hnames.named e (by simp [he])
    · exact hkeys ▸ hnames.nodup
  rel name := by
    unfold valueOf?
    rw [List.find?_append, List.find?_append, List.find?_cons, List.find?_cons]
    cases before.find? fun e => e.1.text? == some name with
    | some e => exact optionRel_refl (some e.2)
    | none =>
      rw [Option.none_or, Option.none_or]
      cases key.text? == some name with
      | true => exact .some h
      | false => exact optionRel_refl _

namespace Rearranged

variable {d d' : Document}

lemma entries?_eq_some (h : Rearranged d d') (hd : d.entries? = some entries) :
    ∃ entries', d'.entries? = some entries' ∧
      (HasDistinctNames entries → SameValues entries entries') := by
  induction h generalizing entries with
  | refl d => exact ⟨entries, hd, fun h => ⟨h, fun name => optionRel_refl _⟩⟩
  | trans _ _ ih ih' =>
    obtain ⟨between, hbetween, hfirst⟩ := ih hd
    obtain ⟨last, hlast, hsecond⟩ := ih' hbetween
    refine ⟨last, hlast, fun h => ?_⟩
    exact (hfirst h).trans (hsecond (hfirst h).distinct)
  | entries hperm =>
    cases hd
    refine ⟨_, rfl, fun h => ⟨hasDistinctNames_perm h hperm, fun name => ?_⟩⟩
    rw [← valueOf?_perm h hperm]
    exact optionRel_refl _
  | value before key after h =>
    cases hd
    exact ⟨_, rfl, sameValues_value h⟩
  | item before after h => cases hd
  | tagged tag h ih =>
    rcases h.cases_kind with rfl | ⟨_, _, rfl, rfl⟩ | ⟨_, _, rfl, rfl⟩ | ⟨_, _, _, rfl, rfl⟩
    · exact ⟨entries, hd, fun h => ⟨h, fun name => optionRel_refl _⟩⟩
    · exact ih hd
    · cases hd
    · cases hd

/-- What holds of the values in a record holds of those in a rearranged one, if it does not depend
on the order of entries inside them. -/
lemma forall_values {P Q : String → Document → Prop} (h : Rearranged d d')
    (hd : d.entries? = some entries) (hnames : HasDistinctNames entries)
    (hvalue : ∀ n v v', Rearranged v v' → P n v → Q n v')
    (hP : ∀ e ∈ entries, ∀ n, e.1.text? = some n → P n e.2) :
    ∃ entries', d'.entries? = some entries' ∧ HasDistinctNames entries' ∧
      ∀ e ∈ entries', ∀ n, e.1.text? = some n → Q n e.2 := by
  obtain ⟨entries', hd', hsame⟩ := h.entries?_eq_some hd
  obtain ⟨hnames', hrel⟩ := hsame hnames
  refine ⟨entries', hd', hnames', fun e he n hn => ?_⟩
  have hnow : valueOf? n entries' = some e.2 := (valueOf?_eq_some_iff hnames').2 ⟨e.1, he, hn⟩
  have hboth := hrel n
  rw [hnow] at hboth
  cases hbefore : valueOf? n entries with
  | none =>
    rw [hbefore] at hboth
    cases hboth
  | some v =>
    rw [hbefore] at hboth
    cases hboth with | some hv =>
    obtain ⟨key, hmem, hkey⟩ := mem_of_valueOf? hbefore
    exact hvalue n v e.2 hv (hP (key, v) hmem n hkey)

end Rearranged

end Document

namespace FieldType

open Document

variable {d d' : Document}

lemma mapShaped_rearranged {type : FieldType} (hshape : type.MapShaped d) (h : Rearranged d d') :
    type.MapShaped d' := by
  induction type using FieldType.induction generalizing d d' with
  | text => trivial
  | truth => trivial
  | texts => trivial
  | variant names => trivial
  | optional type ih => exact ih hshape h
  | record name fields ih =>
    rw [MapShaped] at hshape ⊢
    obtain ⟨hsequence, hentries⟩ := hshape
    constructor
    · rintro items rfl
      rcases h.cases_kind with rfl | ⟨_, _, _, h⟩ | ⟨_, _, rfl, _⟩ | ⟨_, _, _, _, h⟩
      · exact hsequence items rfl
      · cases h
      · exact hsequence _ rfl
      · cases h
    · intro entries' hd'
      obtain ⟨entries, hd, -⟩ := h.symm.entries?_eq_some hd'
      obtain ⟨hnames, hvalues⟩ := hentries entries hd
      obtain ⟨_, heq, hresult⟩ := h.forall_values (Q := FieldMapShaped fields) hd hnames
        (fun n v v' hv hshape => fieldMapShaped_iff.2 fun type htype =>
          ih n type htype (fieldMapShaped_iff.1 hshape type htype) hv) hvalues
      rw [hd', Option.some.injEq] at heq
      exact heq ▸ hresult

lemma admits_rearranged {m : Markup} {type : FieldType} (hshape : type.MapShaped d)
    (h : Rearranged d d') (hd : type.Admits m d) : type.Admits m d' := by
  induction type using FieldType.induction generalizing d d' with
  | text => rwa [Admits, ← h.text?_eq]
  | truth => rwa [Admits, ← h.truth?_eq]
  | texts =>
    rw [Admits, ← texts?_isSome_iff] at hd ⊢
    rwa [← h.texts?_eq]
  | variant names => rwa [Admits, ← h.alternative?_eq]
  | optional type ih =>
    rw [Admits] at hd ⊢
    rw [← h.isUnset_eq, ← h.isFalseNull_eq]
    exact hd.imp_right (And.imp_right (ih hshape h))
  | record name fields ih =>
    rw [MapShaped] at hshape
    rw [Admits] at hd ⊢
    obtain ⟨entries, hd, hvalues⟩ := hd
    obtain ⟨hnames, hshapes⟩ := hshape.2 entries hd
    obtain ⟨entries', hd', -, hresult⟩ := h.forall_values (Q := FieldAdmits m fields)
      (P := fun n v => FieldMapShaped fields n v ∧ FieldAdmits m fields n v) hd hnames
      (fun n v v' hv hboth => fieldAdmits_iff.2 fun type htype =>
        ih n type htype (fieldMapShaped_iff.1 hboth.1 type htype) hv
          (fieldAdmits_iff.1 hboth.2 type htype))
      (fun e he n hn => ⟨hshapes e he n hn, hvalues e he n hn⟩)
    exact ⟨entries', hd', hresult⟩

end FieldType

end SyncScript
