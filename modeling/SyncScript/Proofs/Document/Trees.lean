import SyncScript.Proofs.Document.Rearranged
import SyncScript.Proofs.Document.Wanted

/-!
# Trees that two languages share

A document in YAML has scalars without quotes, whose type depends on what is wanted of them. By
their spelling alone they are nulls, booleans, numbers or texts, and the document is a tree of such
values. TOML has the trees without nulls and tags. Both languages read one of these alike if there
is no boolean or number where a text is wanted, no mapping where an alternative is and no sequence
where a record is.
-/

namespace SyncScript

namespace Document

/-- What a scalar without quotes is by its spelling. -/
def ofPlain (s : String) : Document :=
  match Scalar.resolve s with
  | .null => null
  | .bool b => bool b
  | .integer n => integer n
  | .fraction x => fraction x
  | _ => text s

mutual

/-- A document with every scalar without quotes as what it is by its spelling. -/
def resolved : Document → Document
  | plain s => ofPlain s
  | sequence items => sequence (resolvedItems items)
  | mapping entries => mapping (resolvedEntries entries)
  | tagged tag d => tagged tag d.resolved
  | d => d

def resolvedItems : List Document → List Document
  | [] => []
  | d :: items => d.resolved :: resolvedItems items

def resolvedEntries : List (Document × Document) → List (Document × Document)
  | [] => []
  | (k, d) :: entries => (k.resolved, d.resolved) :: resolvedEntries entries

end

/-- The tree that a document in a markup language is. Only YAML has scalars without quotes. -/
def tree (m : Markup) (d : Document) : Document :=
  match m with
  | .yaml => d.resolved
  | .json | .toml => d

/-- The trees that TOML and YAML share: texts, booleans, numbers, sequences and mappings from
distinct texts. -/
inductive IsShared : Document → Prop
  | text (s : String) : IsShared (.text s)
  | bool (b : Bool) : IsShared (.bool b)
  | integer (n : Int) : IsShared (.integer n)
  | fraction (x : Fraction) : IsShared (.fraction x)
  | sequence {items : List Document} (h : ∀ d ∈ items, IsShared d) : IsShared (.sequence items)
  | mapping {entries : List (Document × Document)} (hnames : HasDistinctNames entries)
    (hkeys : ∀ e ∈ entries, ∃ s, e.1 = .text s) (hvalues : ∀ e ∈ entries, IsShared e.2) :
    IsShared (.mapping entries)

/-- A boolean or a number: what a scalar without quotes may be spelled like and is no text. -/
def isLiteral : Document → Bool
  | bool _ | integer _ | fraction _ => true
  | _ => false

lemma resolvedItems_eq (items : List Document) : resolvedItems items = items.map resolved := by
  induction items with
  | nil => rfl
  | cons d items ih => rw [resolvedItems, ih, List.map_cons]

lemma resolvedEntries_eq (entries : List (Document × Document)) :
    resolvedEntries entries = entries.map fun e => (e.1.resolved, e.2.resolved) := by
  induction entries with
  | nil => rfl
  | cons e entries ih => rw [resolvedEntries, ih, List.map_cons]

section Plain

variable {s : String}

lemma ofPlain_cases (s : String) :
    ofPlain s = null ∨ (∃ b, ofPlain s = bool b) ∨ (∃ n, ofPlain s = integer n) ∨
      (∃ x, ofPlain s = fraction x) ∨ ofPlain s = text s := by
  unfold ofPlain
  cases Scalar.resolve s <;> simp

lemma resolve_of_null (h : (s.isEmpty || Scalar.isNull s) = true) : Scalar.resolve s = .null := by
  rw [Scalar.resolve, if_pos h]

lemma resolve_of_bool {b : Bool} (hnull : (s.isEmpty || Scalar.isNull s) = false)
    (h : Scalar.bool? s = some b) : Scalar.resolve s = .bool b := by
  rw [Scalar.resolve, hnull, h]
  rfl

lemma resolve_of_not_bool (hnull : (s.isEmpty || Scalar.isNull s) = false)
    (h : Scalar.bool? s = none) :
    (∃ n, Scalar.resolve s = .integer n) ∨ (∃ x, Scalar.resolve s = .fraction x) ∨
      Scalar.resolve s = .text s := by
  rw [Scalar.resolve, hnull, h, if_neg Bool.false_ne_true]
  dsimp only
  split
  · exact Or.inl ⟨_, rfl⟩
  · split
    · exact Or.inr (Or.inr rfl)
    · split
      · exact Or.inr (Or.inl ⟨_, rfl⟩)
      · exact Or.inr (Or.inr rfl)

lemma resolve_eq_null_iff : Scalar.resolve s = .null ↔ (s.isEmpty || Scalar.isNull s) = true := by
  refine ⟨fun h => ?_, resolve_of_null⟩
  by_contra hnull
  rw [Bool.not_eq_true] at hnull
  cases hbool : Scalar.bool? s with
  | some b =>
    rw [resolve_of_bool hnull hbool] at h
    cases h
  | none =>
    rcases resolve_of_not_bool hnull hbool with ⟨_, hs⟩ | ⟨_, hs⟩ | hs <;> rw [hs] at h <;> cases h

lemma truth?_ofPlain (hnull : (s.isEmpty || Scalar.isNull s) = false) :
    (ofPlain s).truth? = Scalar.bool? s := by
  rw [ofPlain]
  cases hbool : Scalar.bool? s with
  | some b =>
    rw [resolve_of_bool hnull hbool]
    rfl
  | none =>
    rcases resolve_of_not_bool hnull hbool with ⟨_, hs⟩ | ⟨_, hs⟩ | hs <;> rw [hs] <;> rfl

/-- A scalar of a shared tree is no null. -/
lemma IsShared.not_null (h : IsShared (ofPlain s)) :
    (s.isEmpty || Scalar.isNull s) = false := by
  by_contra hnull
  rw [Bool.not_eq_false] at hnull
  rw [ofPlain, resolve_of_null hnull] at h
  cases h

end Plain

variable {d d' v : Document} {entries : List (Document × Document)}

section Values

/-! What a document stands for is what its tree stands for, when the tree is a shared one. -/

lemma IsShared.isUnset_eq_false (h : IsShared d) : d.isUnset = false := by
  cases h <;> rfl

lemma IsShared.isFalseNull_eq_false (h : IsShared d) : d.isFalseNull = false := by
  cases h <;> rfl

lemma isUnset_resolved (h : IsShared d.resolved) : d.isUnset = d.resolved.isUnset := by
  rw [h.isUnset_eq_false]
  cases d with
  | plain s => exact h.not_null
  | null => cases h
  | tagged tag d => cases h
  | _ => rfl

lemma isFalseNull_resolved (h : IsShared d.resolved) : d.isFalseNull = d.resolved.isFalseNull := by
  rw [h.isFalseNull_eq_false]
  cases d with
  | tagged tag d => cases h
  | _ => rfl

lemma truth?_resolved (h : IsShared d.resolved) : d.resolved.truth? = d.truth? := by
  cases d with
  | plain s => exact truth?_ofPlain h.not_null
  | tagged tag d => cases h
  | _ => rfl

lemma text?_resolved {s : String} (h : d.resolved = text s) : d.text? = some s := by
  cases d with
  | text s' =>
    cases h
    rfl
  | plain s' =>
    rw [resolved] at h
    rcases ofPlain_cases s' with hs | ⟨_, hs⟩ | ⟨_, hs⟩ | ⟨_, hs⟩ | hs <;> rw [hs] at h <;> cases h
    rfl
  | _ => cases h

lemma items?_resolved (h : IsShared d.resolved) :
    d.resolved.items? = d.items?.map (·.map resolved) := by
  cases d with
  | plain s =>
    rw [items?, h.not_null, resolved]
    rcases ofPlain_cases s with hs | ⟨_, hs⟩ | ⟨_, hs⟩ | ⟨_, hs⟩ | hs <;> rw [hs] <;> rfl
  | sequence items => rw [resolved, resolvedItems_eq, items?, items?, Option.map_some]
  | tagged tag d => cases h
  | _ => rfl

lemma entries?_resolved (h : IsShared d.resolved) :
    d.resolved.entries? = d.entries?.map resolvedEntries := by
  cases d with
  | plain s =>
    have hempty := (Bool.or_eq_false_iff.1 h.not_null).1
    rw [entries?, hempty, resolved]
    rcases ofPlain_cases s with hs | ⟨_, hs⟩ | ⟨_, hs⟩ | ⟨_, hs⟩ | hs <;> rw [hs] <;> rfl
  | date => cases h
  | tagged tag d => cases h
  | _ => rfl

lemma text?_resolved_eq (h : ∃ s, d.resolved = text s) : d.resolved.text? = d.text? := by
  obtain ⟨s, hs⟩ := h
  rw [text?_resolved hs, hs]
  rfl

lemma text?_resolved_of_not_literal (h : IsShared d.resolved) (hd : d.resolved.isLiteral = false) :
    d.resolved.text? = d.text? := by
  cases d with
  | plain s =>
    rw [resolved] at h hd ⊢
    rcases ofPlain_cases s with hs | ⟨_, hs⟩ | ⟨_, hs⟩ | ⟨_, hs⟩ | hs <;> rw [hs] at h hd ⊢
    · cases h
    · cases hd
    · cases hd
    · cases hd
    · rfl
  | tagged tag d => cases h
  | _ => rfl

lemma IsShared.of_entries? (h : IsShared d) (hd : d.entries? = some entries) :
    HasDistinctNames entries ∧ ∀ e ∈ entries, (∃ s, e.1 = .text s) ∧ IsShared e.2 := by
  cases h with
  | mapping hnames hkeys hvalues =>
    cases hd
    exact ⟨hnames, fun e he => ⟨hkeys e he, hvalues e he⟩⟩
  | _ => cases hd

lemma IsShared.of_items? (h : IsShared d) {items : List Document} (hd : d.items? = some items) :
    ∀ v ∈ items, IsShared v := by
  cases h with
  | sequence h =>
    cases hd
    exact h
  | _ => cases hd

lemma ofPlain_ne_sequence (s : String) (items : List Document) : ofPlain s ≠ sequence items := by
  intro h
  rcases ofPlain_cases s with hs | ⟨_, hs⟩ | ⟨_, hs⟩ | ⟨_, hs⟩ | hs <;> cases hs.symm.trans h

lemma ofPlain_ne_mapping (s : String) (entries : List (Document × Document)) :
    ofPlain s ≠ mapping entries := by
  intro h
  rcases ofPlain_cases s with hs | ⟨_, hs⟩ | ⟨_, hs⟩ | ⟨_, hs⟩ | hs <;> cases hs.symm.trans h

/-- Only a sequence has a sequence as its tree. -/
lemma exists_of_resolved_sequence {items : List Document} (h : d.resolved = sequence items) :
    ∃ items', d = sequence items' ∧ items = items'.map resolved := by
  cases d with
  | sequence items' =>
    rw [resolved, resolvedItems_eq, sequence.injEq] at h
    exact ⟨items', rfl, h.symm⟩
  | plain s => exact absurd h (ofPlain_ne_sequence s items)
  | _ => cases h

lemma exists_of_resolved_mapping (h : d.resolved = mapping entries) :
    ∃ entries', d = mapping entries' := by
  cases d with
  | mapping entries' => exact ⟨entries', rfl⟩
  | plain s => exact absurd h (ofPlain_ne_mapping s entries)
  | _ => cases h

/-- Alternatives are the same in YAML as in TOML, as long as they are given by names that no other
value is spelled like. -/
lemma variant?_resolved {β : Type} {variants : List (String × β)}
    (hnames : ∀ name ∈ variants.map Prod.fst, Scalar.resolve name = .text name)
    (h : IsShared d.resolved) (hd : ∀ entries, d.resolved ≠ mapping entries) :
    variant? .toml variants d.resolved = variant? .yaml variants d := by
  have hunknown : ∀ {s}, ofPlain s ≠ text s → variants.lookup s = none := by
    intro s hs
    by_contra hsome
    rw [← ne_eq, Option.ne_none_iff_isSome, List.lookup_isSome_iff] at hsome
    rw [ofPlain, hnames s (by simpa using hsome)] at hs
    exact hs rfl
  cases d with
  | plain s =>
    change (alternative? .toml (ofPlain s)).bind _ = (some s).bind _
    by_cases hs : ofPlain s = text s
    · rw [hs]
      rfl
    · rw [Option.bind_some, hunknown hs]
      rcases ofPlain_cases s with hs' | ⟨_, hs'⟩ | ⟨_, hs'⟩ | ⟨_, hs'⟩ | hs'
      case inr.inr.inr.inr => exact absurd hs' hs
      all_goals
        rw [hs']
        rfl
  | mapping entries => exact absurd rfl (hd _)
  | tagged tag d => cases h
  | _ => rfl

end Values

lemma IsShared.rearranged (hd : IsShared d) (h : Rearranged d d') : IsShared d' := by
  induction h with
  | refl d => exact hd
  | trans _ _ ih ih' => exact ih' (ih hd)
  | entries hperm =>
    cases hd with | mapping hnames hkeys hvalues =>
    exact .mapping (hasDistinctNames_perm hnames hperm)
      (fun e he => hkeys e (hperm.mem_iff.2 he)) fun e he => hvalues e (hperm.mem_iff.2 he)
  | value before key after h ih =>
    cases hd with | mapping hnames hkeys hvalues =>
    simp only [List.forall_mem_append, List.forall_mem_cons] at hkeys hvalues
    refine .mapping (sameValues_value h hnames).distinct ?_ ?_ <;>
      simp only [List.forall_mem_append, List.forall_mem_cons]
    · exact hkeys
    · exact ⟨hvalues.1, ih hvalues.2.1, hvalues.2.2⟩
  | item before after _ ih =>
    cases hd with | sequence h =>
    simp only [List.forall_mem_append, List.forall_mem_cons] at h
    refine .sequence ?_
    simp only [List.forall_mem_append, List.forall_mem_cons]
    exact ⟨h.1, ih h.2.1, h.2.2⟩
  | tagged tag _ _ => cases hd

/-- Rearranged lists have rearranged values at the same positions. -/
lemma Rearranged.exists_item (h : Rearranged d d') {items : List Document}
    (hd : d.items? = some items) {i : Nat} (hv : items[i]? = some v) :
    ∃ items' v', d'.items? = some items' ∧ items'[i]? = some v' ∧ Rearranged v v' := by
  induction h generalizing items v with
  | refl d => exact ⟨items, v, hd, hv, .refl v⟩
  | trans _ _ ih ih' =>
    obtain ⟨items', v', hd', hv', hrel⟩ := ih hd hv
    obtain ⟨items'', v'', hd'', hv'', hrel'⟩ := ih' hd' hv'
    exact ⟨items'', v'', hd'', hv'', hrel.trans hrel'⟩
  | entries => cases hd
  | value => cases hd
  | @item d d' before after h =>
    cases hd
    refine ⟨before ++ d' :: after, ?_⟩
    rcases Nat.lt_trichotomy i before.length with hi | rfl | hi
    · rw [List.getElem?_append_left hi] at hv ⊢
      exact ⟨v, rfl, hv, .refl v⟩
    · rw [List.getElem?_append_right le_rfl, Nat.sub_self] at hv ⊢
      cases hv
      exact ⟨d', rfl, rfl, h⟩
    · obtain ⟨k, hk⟩ := Nat.exists_eq_add_of_lt (Nat.sub_pos_of_lt hi)
      rw [List.getElem?_append_right hi.le, hk, Nat.zero_add, List.getElem?_cons_succ] at hv ⊢
      exact ⟨v, rfl, hv, .refl v⟩
  | tagged tag h ih =>
    rcases h.cases_kind with rfl | ⟨_, _, rfl, rfl⟩ | ⟨_, _, rfl, rfl⟩ | ⟨_, _, _, rfl, rfl⟩
    · exact ⟨items, v, hd, hv, .refl v⟩
    · cases hd
    · exact ih hd hv
    · cases hd

end Document

namespace FieldType

open Document

variable {type inner : FieldType} {d d' v : Document}

lemma Wants.isShared (h : type.Wants d inner v) (hd : IsShared d) : IsShared v := by
  induction h with
  | here type d => exact hd
  | optional _ _ ih => exact ih hd
  | item hitems hv => exact hd.of_items? hitems _ hv
  | field hentries he _ _ _ ih => exact ih ((hd.of_entries? hentries).2 _ he).2
  | position _ hitem _ ih => exact ih (hd.of_items? rfl _ (List.mem_of_getElem? hitem))

/-- What is wanted in the tree of a document is wanted in the document. -/
lemma Wants.of_resolved {w : Document} (h : type.Wants d.resolved inner w)
    (hd : IsShared d.resolved) : ∃ v, w = v.resolved ∧ type.Wants d inner v := by
  generalize ht : d.resolved = t at h hd
  induction h generalizing d with
  | here type t => exact ⟨d, ht.symm, .here type d⟩
  | optional hset _ ih =>
    obtain ⟨v, hv, hwants⟩ := ih ht hd
    exact ⟨v, hv, .optional ((isUnset_resolved (ht ▸ hd)).trans (ht ▸ hset)) hwants⟩
  | item hitems hw =>
    subst ht
    rw [items?_resolved hd, Option.map_eq_some_iff] at hitems
    obtain ⟨items, hitems, rfl⟩ := hitems
    obtain ⟨v, hv, rfl⟩ := List.mem_map.1 hw
    exact ⟨v, rfl, .item hitems hv⟩
  | field hentries he hname htype _ ih =>
    subst ht
    obtain ⟨hkey, hvalue⟩ := (hd.of_entries? hentries).2 _ he
    rw [entries?_resolved hd, Option.map_eq_some_iff] at hentries
    obtain ⟨entries, hentries, rfl⟩ := hentries
    rw [resolvedEntries_eq] at he
    obtain ⟨e, hmem, rfl⟩ := List.mem_map.1 he
    obtain ⟨v, hv, hwants⟩ := ih rfl hvalue
    exact ⟨v, hv, .field hentries hmem ((text?_resolved_eq hkey).symm.trans hname) htype hwants⟩
  | position htype hitem _ ih =>
    obtain ⟨items, rfl, rfl⟩ := exists_of_resolved_sequence ht
    rw [List.getElem?_map, Option.map_eq_some_iff] at hitem
    obtain ⟨item, hitem, rfl⟩ := hitem
    have hmem := List.mem_map_of_mem (f := Document.resolved) (List.mem_of_getElem? hitem)
    obtain ⟨v, hv, hwants⟩ := ih rfl (hd.of_items? rfl _ hmem)
    exact ⟨v, hv, .position htype hitem hwants⟩

lemma filterMap_text?_resolved {entries : List (Document × Document)}
    (h : ∀ e ∈ entries, ∃ s, e.1.resolved = .text s) :
    (resolvedEntries entries).filterMap (·.1.text?) = entries.filterMap (·.1.text?) := by
  rw [resolvedEntries_eq, List.filterMap_map]
  exact List.filterMap_congr fun e he => text?_resolved_eq (h e he)

/-- There is no boolean or number where a text is wanted. -/
def NoLiteralAsText (type : FieldType) (t : Document) : Prop :=
  ∀ v, type.Wants t .text v → v.isLiteral = false

/-- There is no mapping where one of several alternatives is wanted. -/
def NoMappingAsAlternative (type : FieldType) (t : Document) : Prop :=
  ∀ names v, type.Wants t (.variant names) v → ∀ entries, v ≠ .mapping entries

/-- There is no sequence where a record is wanted. -/
def NoSequenceAsRecord (type : FieldType) (t : Document) : Prop :=
  ∀ name fields v, type.Wants t (.record name fields) v → ∀ items, v ≠ .sequence items

/-- A tree that TOML and YAML read alike. -/
structure Alike (type : FieldType) (t : Document) : Prop where
  shared : IsShared t
  texts : type.NoLiteralAsText t
  named : type.NoMappingAsAlternative t
  mapped : type.NoSequenceAsRecord t

/-- A shared tree is of the shape of a type if its records are. -/
lemma NoSequenceAsRecord.mapShaped (h : type.NoSequenceAsRecord d) (hd : IsShared d) :
    type.MapShaped d := by
  induction type using FieldType.induction generalizing d with
  | text => trivial
  | truth => trivial
  | texts => trivial
  | variant names => trivial
  | optional type ih =>
    exact ih (fun name fields v hv => h name fields v (.optional hd.isUnset_eq_false hv)) hd
  | record name fields ih =>
    rw [MapShaped]
    refine ⟨h name fields d (.here _ d), fun entries hentries => ?_⟩
    obtain ⟨hnames, hvalues⟩ := hd.of_entries? hentries
    refine ⟨hnames, fun e he n hn => fieldMapShaped_iff.2 fun type htype => ?_⟩
    refine ih n type htype (fun name' fields' v hv => ?_) (hvalues e he).2
    exact h name' fields' v (.field hentries he hn htype hv)

/-- TOML takes no boolean and no number for a text. -/
lemma AllFit.noLiteralAsText (h : type.AllFit .toml d) : type.NoLiteralAsText d := by
  intro v hv
  obtain ⟨s, hs⟩ := h _ v hv
  cases v with
  | bool b => cases hs
  | integer n => cases hs
  | fraction x => cases hs
  | _ => rfl

/-- YAML takes no mapping for an alternative. -/
lemma AllFit.noMappingAsAlternative (h : type.AllFit .yaml d) : type.NoMappingAsAlternative d := by
  rintro names v hv entries rfl
  obtain ⟨name, hname, -⟩ := h _ _ hv
  cases hname

/-- YAML takes no sequence for a record. -/
lemma AllFit.noSequenceAsRecord (h : type.AllFit .yaml d) : type.NoSequenceAsRecord d := by
  rintro name fields v hv items rfl
  rcases h _ _ hv with ⟨entries, hentries⟩ | ⟨hyaml, -⟩
  · cases hentries
  · exact hyaml rfl

lemma NoMappingAsAlternative.resolved (h : type.NoMappingAsAlternative d)
    (hd : IsShared d.resolved) : type.NoMappingAsAlternative d.resolved := by
  intro names w hw entries hentries
  obtain ⟨v, rfl, hv⟩ := hw.of_resolved hd
  obtain ⟨entries', rfl⟩ := exists_of_resolved_mapping hentries
  exact h names _ hv entries' rfl

lemma NoSequenceAsRecord.resolved (h : type.NoSequenceAsRecord d) (hd : IsShared d.resolved) :
    type.NoSequenceAsRecord d.resolved := by
  intro name fields w hw items hitems
  obtain ⟨v, rfl, hv⟩ := hw.of_resolved hd
  obtain ⟨items', rfl, -⟩ := exists_of_resolved_sequence hitems
  exact h name fields _ hv items' rfl

/-- What is wanted in a shared tree is wanted in a rearranged one. -/
lemma Wants.rearranged (hv : type.Wants d inner v) (hd : IsShared d) (h : Rearranged d d') :
    ∃ v', type.Wants d' inner v' ∧ Rearranged v v' := by
  induction hv generalizing d' with
  | here type d => exact ⟨d', .here type d', h⟩
  | optional hset _ ih =>
    obtain ⟨v', hv', hrel⟩ := ih hd h
    exact ⟨v', .optional (h.isUnset_eq ▸ hset) hv', hrel⟩
  | item hitems hv =>
    obtain ⟨i, hi⟩ := List.getElem?_of_mem hv
    obtain ⟨items', v', hitems', hv', hrel⟩ := h.exists_item hitems hi
    exact ⟨v', .item hitems' (List.mem_of_getElem? hv'), hrel⟩
  | @field _ n fields type _ _ _ entries e hentries he hname htype _ ih =>
    obtain ⟨hnames, hvalues⟩ := hd.of_entries? hentries
    obtain ⟨entries', hentries', hsame⟩ := h.entries?_eq_some hentries
    have hvalue : valueOf? n entries = some e.2 :=
      (valueOf?_eq_some_iff hnames).2 ⟨e.1, he, hname⟩
    -- the names are distinct, so the value that stands under the name now is the old one rearranged
    have hrel := (hsame hnames).rel n
    rw [hvalue] at hrel
    cases hvalue' : valueOf? n entries' with
    | none =>
      rw [hvalue'] at hrel
      cases hrel
    | some w =>
      rw [hvalue'] at hrel
      cases hrel with | some hrel =>
      obtain ⟨key, hmem, hkey⟩ := mem_of_valueOf? hvalue'
      obtain ⟨v', hv', hrel'⟩ := ih (hvalues e he).2 hrel
      exact ⟨v', .field hentries' hmem hkey htype hv', hrel'⟩
  | @position name n fields type _ items i item _ htype hitem _ ih =>
    have hshared := hd.of_items? rfl _ (List.mem_of_getElem? hitem)
    rcases h.cases_kind with rfl | ⟨_, _, h', _⟩ | ⟨_, items', _, rfl⟩ | ⟨_, _, _, h', _⟩
    · obtain ⟨v', hv', hrel⟩ := ih hshared (.refl item)
      exact ⟨v', .position htype hitem hv', hrel⟩
    · cases h'
    · obtain ⟨_, item', hitems', hitem', hrel⟩ := h.exists_item rfl hitem
      cases hitems'
      obtain ⟨v', hv', hrel'⟩ := ih hshared hrel
      exact ⟨v', .position htype hitem' hv', hrel'⟩
    · cases h'

lemma NoLiteralAsText.rearranged (ht : type.NoLiteralAsText d) (hd : IsShared d)
    (h : Rearranged d d') : type.NoLiteralAsText d' := by
  intro w hw
  obtain ⟨v, hv, hrel⟩ := hw.rearranged (hd.rearranged h) h.symm
  rcases hrel.cases_kind with rfl | ⟨_, _, rfl, _⟩ | ⟨_, _, rfl, _⟩ | ⟨_, _, _, rfl, _⟩
  · exact ht _ hv
  all_goals rfl

lemma NoMappingAsAlternative.rearranged (ht : type.NoMappingAsAlternative d) (hd : IsShared d)
    (h : Rearranged d d') : type.NoMappingAsAlternative d' := by
  rintro names w hw entries rfl
  obtain ⟨v, hv, hrel⟩ := hw.rearranged (hd.rearranged h) h.symm
  rcases hrel.cases_kind with rfl | ⟨_, _, _, rfl⟩ | ⟨_, _, h, _⟩ | ⟨_, _, _, h, _⟩
  · exact ht names _ hv _ rfl
  · exact ht names _ hv _ rfl
  all_goals cases h

lemma NoSequenceAsRecord.rearranged (ht : type.NoSequenceAsRecord d) (hd : IsShared d)
    (h : Rearranged d d') : type.NoSequenceAsRecord d' := by
  rintro name fields w hw items rfl
  obtain ⟨v, hv, hrel⟩ := hw.rearranged (hd.rearranged h) h.symm
  rcases hrel.cases_kind with rfl | ⟨_, _, h, _⟩ | ⟨_, _, _, rfl⟩ | ⟨_, _, _, h, _⟩
  · exact ht name fields _ hv _ rfl
  · cases h
  · exact ht name fields _ hv _ rfl
  · cases h

lemma Alike.rearranged (ht : type.Alike d) (h : Rearranged d d') : type.Alike d' where
  shared := ht.shared.rearranged h
  texts := ht.texts.rearranged ht.shared h
  named := ht.named.rearranged ht.shared h
  mapped := ht.mapped.rearranged ht.shared h

end FieldType

end SyncScript
