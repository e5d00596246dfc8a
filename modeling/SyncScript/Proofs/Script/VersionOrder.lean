import Mathlib.Order.PiLex
import SyncScript.Proofs.Script.TextLines
import SyncScript.Proofs.Shell.Functions
import SyncScript.Script.ToolCheck

/-!
# The order of versions

The comparison that every script defines is the numeric order of dotted versions. Its loop takes
the components of the required version only; those that the other version has beyond them cannot
make it older.
-/

namespace SyncScript

open Shell

/-- The body of the loop over components, which is left at the first difference. -/
def versionBranches : List Statement := [
  .ifCompares ⟨"have", "i"⟩ .less ⟨"want", "i"⟩ [.leave 0],
  .ifCompares ⟨"have", "i"⟩ .greater ⟨"want", "i"⟩ [.leave 1]]

/-- The body of `version_lt`. -/
def versionBody : List Statement := [
  .assign "IFS" ".",
  .split "have" 0,
  .split "want" 1,
  .declare "i",
  .forIndices "i" "want" versionBranches,
  .leave 1]

/-- The lines that define `version_lt` are its name, the lines of its body, and a brace. -/
lemma versionFunction_eq :
    versionFunction = ["version_lt() \x7b"] ++ indent (block versionBody) ++ ["\x7d"] := by
  decide

lemma versionFunction_infix_lines (pm : PackageManager) :
    versionFunction <:+: toolCheckLines pm := by
  refine ⟨["# --- Tool check helper ---"], [""] ++ toolVersionFunction ++ [""] ++
    checkToolFunction pm, ?_⟩
  simp only [toolCheckLines, List.append_assoc]

/-- A component as a number. An empty one is zero. -/
def componentNumber (component : List Char) : Nat :=
  (Scalar.natural? 10 component).getD 0

/-- A version in components that are decimal numbers of the shell, with zeros in front or none, or
empty. -/
structure Version where
  components : List (List Char)
  digits : ∀ component ∈ components, ∀ c ∈ component, c.isDigit = true
  bounded : ∀ component ∈ components, componentNumber component < 2 ^ 63

namespace Version

/-- The dotted form. -/
def text (v : Version) : String :=
  String.ofList (['.'].intercalate v.components)

/-- The number at a position, which is zero after the last component. -/
def number (v : Version) (i : Nat) : Nat :=
  componentNumber (v.components.getD i [])

/-- The numbers of the components with zeros after them, up to a length. -/
def padded (v : Version) (n : Nat) : List Nat :=
  (v.components.map componentNumber).rightpad n 0

/-- The words that the dotted form is split into: the components, without one in last place that is
empty. -/
def fields (v : Version) : List (List Char) :=
  wordsBetween '.' (['.'].intercalate v.components)

variable (v : Version)

lemma splitWords?_text : splitWords? "." v.text = some (v.fields.map String.ofList) := by
  have hplain : ∀ d ∈ v.text.toList, d.isAlphanum = true ∨ d = '.' := by
    intro d hd
    rw [text, String.toList_ofList] at hd
    rcases Text.mem_intercalate hd with hdot | ⟨component, hcomponent, hd⟩
    · exact Or.inr hdot
    · have hdigit := v.digits component hcomponent d hd
      exact Or.inl (by simp [Char.isAlphanum, hdigit])
  have hwords : splitWords? "." v.text =
      some ((wordsBetween '.' v.text.toList).map String.ofList) :=
    splitWords?_eq rfl (by decide) hplain
  rw [hwords, fields, text, String.toList_ofList]

lemma getD_fields (i : Nat) : v.fields.getD i [] = v.components.getD i [] := by
  have hdot : ∀ component ∈ v.components, '.' ∉ component := by
    intro component hcomponent hdot
    have hdigit := v.digits component hcomponent '.' hdot
    exact absurd hdigit (by decide)
  rw [fields, getD_wordsBetween]
  by_cases hne : v.components = []
  · rw [hne]
    cases i <;> rfl
  · rw [Text.splitAtEach_intercalate hdot hne]

lemma number_of_length_le {i : Nat} (h : v.components.length ≤ i) : v.number i = 0 := by
  rw [number, List.getD_eq_default _ _ h]
  rfl

/-- There are zeros only after the last field. -/
lemma number_eq_zero {i : Nat} (h : v.fields.length ≤ i) : v.number i = 0 := by
  rw [number, ← getD_fields, List.getD_eq_default _ _ h]
  rfl

end Version

lemma Scalar.exists_natural? {cs : List Char} (hne : cs ≠ []) (h : ∀ c ∈ cs, c.isDigit = true) :
    ∃ n, natural? 10 cs = some n := by
  have hvalue : ∀ c : Char, c.isDigit = true → ∃ d, digitValue? 10 c = some d := by
    intro c hc
    have hcode : 48 ≤ c.toNat ∧ c.toNat ≤ 57 := by
      simpa [Char.isDigit, UInt32.le_iff_toNat_le] using hc
    refine ⟨c.toNat - 48, ?_⟩
    rw [digitValue?, if_pos hc, Option.filter_eq_some_iff]
    have hlt : c.toNat - 48 < 10 := by omega
    exact ⟨rfl, decide_eq_true hlt⟩
  have hfold : ∀ n, ∃ m, cs.foldlM (fun n c => (digitValue? 10 c).map (n * 10 + ·)) n = some m := by
    clear hne
    induction cs with
    | nil => exact fun n => ⟨n, rfl⟩
    | cons c cs ih =>
      intro n
      obtain ⟨d, hd⟩ := hvalue c (h c List.mem_cons_self)
      obtain ⟨m, hm⟩ := ih (fun c hc => h c (List.mem_cons_of_mem _ hc)) (n * 10 + d)
      refine ⟨m, ?_⟩
      rw [List.foldlM_cons, hd]
      exact hm
  obtain ⟨m, hm⟩ := hfold 0
  refine ⟨m, ?_⟩
  rw [natural?, if_neg (by simpa using hne)]
  exact hm

namespace Version

variable (v : Version)

/-- An element is compared as the number at its position. -/
lemma element?_eq {scope : Scope} {e : Element} {i : Nat}
    (harray : scope.arrays e.array = v.fields.map String.ofList)
    (hindex : scope.texts e.index = toString i) : scope.element? e = some (v.number i : Int) := by
  have hfield : (scope.arrays e.array).getD i "" = String.ofList (v.components.getD i []) := by
    rw [harray, ← getD_fields]
    exact List.getD_map _ _ String.ofList
  rw [Scope.element?_eq hindex, hfield, number]
  by_cases hempty : v.components.getD i [] = []
  · rw [hempty]
    decide
  · have hmem : v.components.getD i [] ∈ v.components := by
      have hi : i < v.components.length := by
        by_contra hge
        exact hempty (List.getD_eq_default _ _ (Nat.le_of_not_lt hge))
      rw [List.getD_eq_getElem _ _ hi]
      exact List.getElem_mem hi
    obtain ⟨n, hn⟩ := Scalar.exists_natural? hempty (v.digits _ hmem)
    have hbound := v.bounded _ hmem
    rw [componentNumber, hn, Option.getD_some] at hbound ⊢
    rw [if_neg (by simpa using hempty)]
    exact decimal?_eq (by rw [String.toList_ofList, hn]) hbound

end Version

/-- The arrays hold the fields of the two versions. -/
structure HoldsVersions (a b : Version) (scope : Scope) : Prop where
  installed : scope.arrays "have" = a.fields.map String.ofList
  required : scope.arrays "want" = b.fields.map String.ofList

variable {a b : Version} {scope : Scope}

lemma runAll_versionBranches (h : HoldsVersions a b scope) {i : Nat}
    (hindex : scope.texts "i" = toString i) :
    runAll versionBranches scope = some (
      if a.number i < b.number i then .left 0
      else if b.number i < a.number i then .left 1
      else .next scope) := by
  have hleft : scope.element? ⟨"have", "i"⟩ = some (a.number i : Int) :=
    a.element?_eq h.installed hindex
  have hright : scope.element? ⟨"want", "i"⟩ = some (b.number i : Int) :=
    b.element?_eq h.required hindex
  have hfirst := run_ifCompares hleft hright .less [.leave 0]
  have hsecond := run_ifCompares hleft hright .greater [.leave 1]
  simp only [Comparison.holds, decide_eq_true_eq, Int.ofNat_lt] at hfirst hsecond
  rw [versionBranches]
  by_cases hless : a.number i < b.number i
  · rw [if_pos hless] at hfirst
    rw [if_pos hless, runAll_of_left hfirst]
  · rw [if_neg hless] at hfirst
    rw [if_neg hless, runAll_of_next hfirst]
    by_cases hgreater : b.number i < a.number i
    · rw [if_pos hgreater] at hsecond
      rw [if_pos hgreater, runAll_of_left hsecond]
    · rw [if_neg hgreater] at hsecond
      rw [if_neg hgreater, runAll_of_next hsecond]
      rfl

/-- The loop is left at the first position where the versions differ, if there is one. -/
lemma loop_versionBranches (h : HoldsVersions a b scope) (indices : List Nat) :
    ∃ after, loop (runAll versionBranches) "i" indices scope = some (
      match indices.find? fun i => a.number i != b.number i with
      | some i => .left (if a.number i < b.number i then 0 else 1)
      | none => .next after) := by
  induction indices generalizing scope with
  | nil => exact ⟨scope, rfl⟩
  | cons i rest ih =>
    have hset : HoldsVersions a b (scope.setText "i" (toString i)) := ⟨h.installed, h.required⟩
    have hbranches := runAll_versionBranches hset (scope.texts_setText_self "i" (toString i))
    by_cases hsame : a.number i = b.number i
    · rw [if_neg (by omega), if_neg (by omega)] at hbranches
      obtain ⟨after, hrest⟩ := ih hset
      refine ⟨after, ?_⟩
      rw [loop_of_next hbranches, hrest, List.find?_cons_of_neg (by simpa using hsame)]
    · refine ⟨scope, ?_⟩
      rw [List.find?_cons_of_pos (by simpa using hsame)]
      dsimp only
      by_cases hless : a.number i < b.number i
      · rw [if_pos hless] at hbranches
        rw [loop_of_left hbranches, if_pos hless]
      · rw [if_neg hless, if_pos (by omega)] at hbranches
        rw [loop_of_left hbranches, if_neg hless]

/-- At the loop the arrays are filled, whatever the variables of the caller are. -/
lemma runAll_versionBody (outer : Scope) (a b : Version) :
    ∃ scope, HoldsVersions a b scope ∧
      runAll versionBody { outer with arguments := [a.text, b.text] } =
        runAll [.forIndices "i" "want" versionBranches, .leave 1] scope := by
  have hhave : ∀ scope : Scope, scope.texts "IFS" = "." → scope.arguments = [a.text, b.text] →
      (Statement.split "have" 0).run scope =
        some (.next (scope.setArray "have" (a.fields.map String.ofList))) := by
    intro scope hseparator harguments
    apply run_split
    rw [hseparator, harguments]
    exact a.splitWords?_text
  have hwant : ∀ scope : Scope, scope.texts "IFS" = "." → scope.arguments = [a.text, b.text] →
      (Statement.split "want" 1).run scope =
        some (.next (scope.setArray "want" (b.fields.map String.ofList))) := by
    intro scope hseparator harguments
    apply run_split
    rw [hseparator, harguments]
    exact b.splitWords?_text
  refine ⟨((((({ outer with arguments := [a.text, b.text] } : Scope).setText "IFS" ".").setArray
    "have" (a.fields.map String.ofList)).setArray "want" (b.fields.map String.ofList)).setText
      "i" ""), ⟨?_, ?_⟩, ?_⟩
  · rw [Scope.arrays_setText, Scope.arrays_setArray_of_ne _ _ (by decide),
      Scope.arrays_setArray_self]
  · rw [Scope.arrays_setText, Scope.arrays_setArray_self]
  · rw [versionBody, runAll_of_next (run_assign (by decide) _ _),
      runAll_of_next (hhave _ (by simp) (by simp)),
      runAll_of_next (hwant _ (by simp) (by simp)), runAll_of_next rfl]

lemma call_versionBody (outer : Scope) (a b : Version) :
    call versionBody outer [a.text, b.text] = some (
      match (List.range b.fields.length).find? fun i => a.number i != b.number i with
      | some i => if a.number i < b.number i then 0 else 1
      | none => 1) := by
  obtain ⟨scope, hholds, hrun⟩ := runAll_versionBody outer a b
  obtain ⟨after, hloop⟩ := loop_versionBranches hholds (List.range b.fields.length)
  have hfor : (Statement.forIndices "i" "want" versionBranches).run scope =
      loop (runAll versionBranches) "i" (List.range b.fields.length) scope := by
    rw [Statement.run, hholds.required, List.length_map]
  rw [call, hrun]
  cases hfind : (List.range b.fields.length).find? fun i => a.number i != b.number i with
  | some i =>
    rw [hfind] at hloop
    rw [runAll_of_left (hfor.trans hloop)]
  | none =>
    rw [hfind] at hloop
    rw [runAll_of_next (hfor.trans hloop)]
    rfl

lemma call_versionBody_cases (outer : Scope) (a b : Version) :
    call versionBody outer [a.text, b.text] = some 0 ∨
      call versionBody outer [a.text, b.text] = some 1 := by
  rw [call_versionBody]
  split
  · split_ifs
    · exact Or.inl rfl
    · exact Or.inr rfl
  · exact Or.inr rfl

lemma toLex_lt_iff {f g : Nat → Nat} :
    toLex f < toLex g ↔ ∃ i, (∀ j < i, f j = g j) ∧ f i < g i :=
  Iff.rfl

/-- The comparison succeeds exactly if the number is smaller at the first difference. A difference
of this kind is at a field of the required version, where the loop comes across it. -/
lemma call_versionBody_eq_zero_iff (outer : Scope) (a b : Version) :
    call versionBody outer [a.text, b.text] = some 0 ↔ toLex a.number < toLex b.number := by
  rw [call_versionBody, toLex_lt_iff]
  constructor
  · intro hzero
    cases hfind : (List.range b.fields.length).find? fun i => a.number i != b.number i with
    | none =>
      rw [hfind] at hzero
      cases hzero
    | some i =>
      rw [hfind] at hzero
      obtain ⟨-, -, hbefore⟩ := List.find?_range_eq_some.1 hfind
      refine ⟨i, fun j hj => by simpa using hbefore j hj, ?_⟩
      by_contra hnot
      rw [Option.some_inj] at hzero
      dsimp only at hzero
      rw [if_neg hnot] at hzero
      cases hzero
  · rintro ⟨i, hbefore, hless⟩
    have hi : i < b.fields.length := by
      by_contra hge
      have hzero := b.number_eq_zero (Nat.le_of_not_lt hge)
      omega
    have hfind : (List.range b.fields.length).find? (fun i => a.number i != b.number i) =
        some i := by
      refine List.find?_range_eq_some.2 ⟨?_, List.mem_range.2 hi, fun j hj => ?_⟩
      · simpa using hless.ne
      · simpa using hbefore j hj
    rw [hfind]
    exact congrArg some (if_pos hless)

namespace Version

lemma length_padded {v : Version} {n : Nat} (h : v.components.length ≤ n) :
    (v.padded n).length = n := by
  rw [padded, List.length_rightpad, List.length_map, Nat.max_eq_left h]

lemma getElem_padded (v : Version) {n i : Nat} (hi : i < (v.padded n).length) :
    (v.padded n)[i] = v.number i := by
  have hmap : (v.components.map componentNumber).getD i 0 = v.number i :=
    List.getD_map v.components [] componentNumber
  rw [← List.getD_eq_getElem _ 0 hi, padded, List.rightpad, getD_append_replicate, hmap]

/-- Zeros after the last component make no difference to the order. -/
lemma padded_lt_iff {a b : Version} {n : Nat} (ha : a.components.length ≤ n)
    (hb : b.components.length ≤ n) :
    a.padded n < b.padded n ↔ toLex a.number < toLex b.number := by
  rw [List.lt_iff_exists, toLex_lt_iff]
  constructor
  · rintro (⟨-, hshorter⟩ | ⟨i, hi, hi', hbefore, hless⟩)
    · rw [length_padded ha, length_padded hb] at hshorter
      omega
    · refine ⟨i, fun j hj => ?_, ?_⟩
      · have hsame := hbefore j hj
        rwa [getElem_padded, getElem_padded] at hsame
      · rwa [getElem_padded, getElem_padded] at hless
  · rintro ⟨i, hbefore, hless⟩
    have hi : i < n := by
      by_contra hge
      have hzero : b.number i = 0 := b.number_of_length_le (by omega)
      omega
    refine Or.inr ⟨i, ?_, ?_, fun j hj => ?_, ?_⟩
    · rwa [length_padded ha]
    · rwa [length_padded hb]
    · rw [getElem_padded, getElem_padded, hbefore j hj]
    · rwa [getElem_padded, getElem_padded]

/-- A version with further components that are zero. -/
def ExtendedBy (v w : Version) : Prop :=
  ∃ zeros, w.components = v.components ++ zeros ∧ ∀ zero ∈ zeros, componentNumber zero = 0

lemma ExtendedBy.number_eq {v w : Version} (h : v.ExtendedBy w) : w.number = v.number := by
  obtain ⟨zeros, hcomponents, hzeros⟩ := h
  funext i
  rcases Nat.lt_or_ge i v.components.length with hlt | hge
  · rw [number, hcomponents, List.getD_append _ _ _ _ hlt, number]
  · rw [v.number_of_length_le hge, number, hcomponents, List.getD_append_right _ _ _ _ hge]
    by_cases hi : i - v.components.length < zeros.length
    · rw [List.getD_eq_getElem _ _ hi]
      exact hzeros _ (List.getElem_mem hi)
    · rw [List.getD_eq_default _ _ (Nat.le_of_not_lt hi)]
      rfl

/-- The call of `version_lt` with two versions succeeds. -/
def Older (outer : Scope) (a b : Version) : Prop :=
  call versionBody outer [a.text, b.text] = some 0

end Version

/-- Every script that sets up tools or a firewall defines `version_lt`, in these lines. Wherever it
is called then, and whatever variables are set there, it compares versions by their numbers from
left to right, where missing ones are zeros. So it is a strict order, and zeros at the end of a
version make no difference. -/
theorem versionFunction_order (outer : Scope) :
    (let definition := ["version_lt() \x7b"] ++ indent (block versionBody) ++ ["\x7d"];
      (∀ pm, definition <:+: toolCheckLines pm) ∧
      ∀ p script, compile p = .ok script →
        p.system.installTools = true ∨ p.system.configureFirewall = true →
        definition.map String.toList <:+: Text.lines script.text.toList) ∧
    (∀ a b : Version,
      let n := max a.components.length b.components.length
      (a.Older outer b ↔ a.padded n < b.padded n) ∧
        (¬ a.Older outer b → call versionBody outer [a.text, b.text] = some 1)) ∧
    (∀ a : Version, ¬ a.Older outer a) ∧
    (∀ a b c : Version, a.Older outer b → b.Older outer c → a.Older outer c) ∧
    ∀ a a' b b' : Version, a.ExtendedBy a' → b.ExtendedBy b' →
      (a'.Older outer b' ↔ a.Older outer b) := by
  have holder : ∀ a b : Version, a.Older outer b ↔ toLex a.number < toLex b.number :=
    call_versionBody_eq_zero_iff outer
  rw [← versionFunction_eq]
  refine ⟨⟨versionFunction_infix_lines, ?_⟩, ?_, ?_, ?_, ?_⟩
  · intro p script hscript hon
    obtain ⟨hfaults, rfl⟩ := (compile_eq_ok_iff p script).1 hscript
    have hhelper := p.toolCheckLines_infix_lines hfaults hon
    exact ((versionFunction_infix_lines _).map String.toList).trans hhelper
  · intro a b n
    constructor
    · rw [holder, Version.padded_lt_iff (Nat.le_max_left _ _) (Nat.le_max_right _ _)]
    · exact (call_versionBody_cases outer a b).resolve_left
  · intro a
    rw [holder]
    exact lt_irrefl _
  · intro a b c hab hbc
    rw [holder] at hab hbc ⊢
    exact hab.trans hbc
  · intro a a' b b' ha hb
    rw [holder, holder, ha.number_eq, hb.number_eq]

/-- A plan whose script checks the version of Git. -/
def toolsPlan : Plan where
  source := { path := "/tmp/a" }
  target := { path := "/tmp/b" }
  system := { installTools := true }

def installedGit : Version :=
  ⟨[['2'], ['9']], by simp, by decide⟩

def requiredGit : Version :=
  ⟨[['2'], ['2', '5']], by simp, by decide⟩

def requiredGitRelease : Version :=
  ⟨[['2'], ['2', '5'], ['0']], by simp, by decide⟩

/-- 2.9 is older than 2.25.0 as a number though not as a text, and 2.25 is not older than it, also
where the caller has set all variables of the comparison. -/
theorem versionFunction_order_git :
    let outer : Scope := ⟨["1"], fun _ => "7", fun _ => ["1", "2"]⟩
    installedGit.text = "2.9" ∧ requiredGit.text = "2.25" ∧ requiredGitRelease.text = "2.25.0" ∧
    compile toolsPlan = .ok toolsPlan.script ∧
    (["version_lt() \x7b"] ++ indent (block versionBody) ++ ["\x7d"]).map String.toList <:+:
      Text.lines toolsPlan.script.text.toList ∧
    requiredGit.ExtendedBy requiredGitRelease ∧
    installedGit.Older outer requiredGitRelease ∧
    call versionBody outer [requiredGit.text, requiredGitRelease.text] = some 1 ∧
    call versionBody outer [requiredGitRelease.text, installedGit.text] = some 1 := by
  intro outer
  obtain ⟨⟨-, hscript⟩, hnumeric, hself, htrans, hzeros⟩ := versionFunction_order outer
  have hcompile : compile toolsPlan = .ok toolsPlan.script :=
    (compile_eq_ok_iff _ _).2 ⟨by decide, rfl⟩
  have hextended : requiredGit.ExtendedBy requiredGitRelease := ⟨[['0']], rfl, by decide⟩
  have hsame : requiredGit.ExtendedBy requiredGit := ⟨[], rfl, by decide⟩
  have holder : installedGit.Older outer requiredGitRelease :=
    (hnumeric _ _).1.2 (by decide)
  have hnot : ¬ requiredGit.Older outer requiredGitRelease :=
    fun h => hself requiredGit ((hzeros _ _ _ _ hsame hextended).1 h)
  have hback : ¬ requiredGitRelease.Older outer installedGit :=
    fun h => hself _ (htrans _ _ _ h holder)
  exact ⟨by decide, by decide, by decide, hcompile, hscript _ _ hcompile (Or.inl rfl), hextended,
    holder, (hnumeric _ _).2 hnot, (hnumeric _ _).2 hback⟩

example : call versionBody ⟨[], fun _ => "", fun _ => []⟩ ["7..010.", "7.0.6"] = some 1 := by
  decide

end SyncScript
