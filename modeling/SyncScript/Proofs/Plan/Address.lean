import SyncScript.Proofs.Plan.Rules

/-!
# Addresses behind SSH

The argument for an endpoint behind SSH is an address put together from its user, its host, its path
and its key. A well-formed endpoint has all of the parts that an address needs, and they can be read
back from the argument by cutting it, as long as no part holds the mark that the next cut looks
for. Hosts may hold colons, and the mark of the key may overlap with the end of the path.
-/

namespace SyncScript

namespace Text

/-- The text before the first place where a pattern stands, and the text after the pattern there. -/
def cutAt? (pattern : List Char) : List Char → Option (List Char × List Char)
  | [] => if pattern = [] then some ([], []) else none
  | c :: cs =>
    if pattern.isPrefixOf (c :: cs) then some ([], (c :: cs).drop pattern.length)
    else (cutAt? pattern cs).map fun (before, after) => (c :: before, after)

lemma cutAt?_prefix (pattern after : List Char) :
    cutAt? pattern (pattern ++ after) = some ([], after) := by
  cases hcs : pattern ++ after with
  | nil =>
    rw [List.append_eq_nil_iff] at hcs
    rw [hcs.1, hcs.2]
    rfl
  | cons c cs =>
    have hprefix : pattern.isPrefixOf (c :: cs) = true := by
      rw [List.isPrefixOf_iff_prefix, ← hcs]
      exact List.prefix_append pattern after
    rw [cutAt?, if_pos hprefix, ← hcs, List.drop_left]

lemma cutAt?_cons {pattern cs : List Char} {c : Char} (h : ¬ pattern <+: c :: cs) :
    cutAt? pattern (c :: cs) =
      (cutAt? pattern cs).map fun (before, after) => (c :: before, after) := by
  rw [cutAt?, if_neg (mt List.isPrefixOf_iff_prefix.1 h)]

lemma cutAt?_eq_none {pattern cs : List Char} (h : ¬ pattern <:+: cs) :
    cutAt? pattern cs = none := by
  induction cs with
  | nil =>
    have hne : pattern ≠ [] := fun hnil => h (hnil ▸ List.infix_rfl)
    rw [cutAt?, if_neg hne]
  | cons c cs ih =>
    rw [List.infix_cons_iff, not_or] at h
    rw [cutAt?_cons h.1, ih h.2, Option.map_none]

/-- The first character of the pattern stands in it only once, so copies of it do not overlap. -/
def StartsOnce : List Char → Prop
  | [] => True
  | c :: cs => c ∉ cs

/-- Such a pattern does not begin in a text without it and end in a copy of it right after. -/
lemma not_prefix_append {pattern before : List Char} {c : Char} (h : StartsOnce pattern)
    (hbefore : ¬ pattern <+: c :: before) (after : List Char) :
    ¬ pattern <+: c :: (before ++ (pattern ++ after)) := by
  cases pattern with
  | nil => exact absurd List.nil_prefix hbefore
  | cons first rest =>
    intro hpre
    obtain ⟨rfl, htail⟩ := List.cons_prefix_cons.1 hpre
    rcases Nat.lt_or_ge before.length rest.length with hlt | hle
    · have hinside : before ++ [first] <+: before ++ (first :: rest ++ after) :=
        ⟨rest ++ after, by simp⟩
      have hcopy : before ++ [first] <+: rest :=
        List.prefix_of_prefix_length_le hinside htail (by simpa using Nat.succ_le_of_lt hlt)
      exact h (hcopy.subset (by simp))
    · have hrest : rest <+: before :=
        List.prefix_of_prefix_length_le htail (List.prefix_append before _) hle
      exact hbefore (List.cons_prefix_cons.2 ⟨rfl, hrest⟩)

/-- The first copy of such a pattern after a text without it is the one that follows the text. -/
lemma cutAt?_append {pattern before : List Char} (h : StartsOnce pattern)
    (hbefore : ¬ pattern <:+: before) (after : List Char) :
    cutAt? pattern (before ++ (pattern ++ after)) = some (before, after) := by
  induction before with
  | nil => exact cutAt?_prefix pattern after
  | cons c before ih =>
    rw [List.infix_cons_iff, not_or] at hbefore
    rw [List.cons_append, cutAt?_cons (not_prefix_append h hbefore.1 after), ih hbefore.2]
    rfl

end Text

/-- Where a directory behind SSH is, and the key that opens it if it needs one. -/
structure SshAddress where
  user : String
  host : String
  path : String
  key : Option String
  deriving DecidableEq

namespace SshAddress

/-- The key behind its mark. -/
def keySuffix (a : SshAddress) : String :=
  match a.key with
  | some key => "?identity_file=" ++ key
  | none => ""

def text (a : SshAddress) : String :=
  "ssh://" ++ a.user ++ "@" ++ a.host ++ ":" ++ a.path ++ a.keySuffix

/-- Cuts a path with a key behind it at the first mark of a key. -/
def splitKey (cs : List Char) : List Char × Option String :=
  match Text.cutAt? "?identity_file=".toList cs with
  | some (path, key) => (path, some (String.ofList key))
  | none => (cs, none)

/-- Cuts an address at the first `@`, at the first `:/` after it, and at the first mark of a key
after that. The slash of `:/` belongs to the path. -/
def read? (address : String) : Option SshAddress := do
  let rest ← address.toList.dropPrefix? "ssh://".toList
  let (user, rest) ← Text.cutAt? "@".toList rest
  let (host, rest) ← Text.cutAt? ":/".toList rest
  let (path, key) := splitKey ('/' :: rest)
  return ⟨String.ofList user, String.ofList host, String.ofList path, key⟩

/-- No part of the address holds the mark at which it is cut from the rest. -/
structure IsSeparable (a : SshAddress) : Prop where
  user : '@' ∉ a.user.toList
  host : ¬ ":/".toList <:+: a.host.toList
  path : ¬ "?identity_file=".toList <:+: a.path.toList

lemma startsOnce_userMark : Text.StartsOnce "@".toList := by
  rw [String.toList_ofList]
  simp [Text.StartsOnce]

lemma startsOnce_hostMark : Text.StartsOnce ":/".toList := by
  rw [String.toList_ofList]
  simp [Text.StartsOnce]

lemma startsOnce_keyMark : Text.StartsOnce "?identity_file=".toList := by
  rw [String.toList_ofList]
  simp [Text.StartsOnce]

lemma splitKey_append {a : SshAddress} (h : a.IsSeparable) :
    splitKey (a.path.toList ++ a.keySuffix.toList) = (a.path.toList, a.key) := by
  unfold splitKey keySuffix
  cases a.key with
  | none => simp only [String.toList_empty, List.append_nil, Text.cutAt?_eq_none h.path]
  | some key =>
    simp only [String.toList_append, Text.cutAt?_append startsOnce_keyMark h.path,
      String.ofList_toList]

/-- The parts of an address are read back from its text. -/
lemma read?_text {a : SshAddress} (hroot : "/".toList <+: a.path.toList) (h : a.IsSeparable) :
    read? a.text = some a := by
  obtain ⟨path, hpath⟩ := hroot
  have hcolon : ":".toList ++ a.path.toList = ":/".toList ++ path := by
    rw [← hpath]
    repeat rw [String.toList_ofList]
    rfl
  have hslash : '/' :: (path ++ a.keySuffix.toList) = a.path.toList ++ a.keySuffix.toList := by
    rw [← hpath, String.toList_ofList]
    rfl
  have htext : a.text.toList = "ssh://".toList ++ (a.user.toList ++ ("@".toList ++
      (a.host.toList ++ (":/".toList ++ (path ++ a.keySuffix.toList))))) := by
    rw [← List.append_assoc ":/".toList, ← hcolon, text]
    simp only [String.toList_append, List.append_assoc]
  have hscheme : ∀ cs, ("ssh://".toList ++ cs).dropPrefix? "ssh://".toList = some cs := fun cs =>
    List.dropPrefix?_eq_some_iff.2 ⟨_, rfl, beq_self_eq_true _⟩
  have huser : ¬ "@".toList <:+: a.user.toList := by
    rw [String.toList_ofList]
    exact fun hpart => h.user (hpart.subset List.mem_cons_self)
  have hcutUser := Text.cutAt?_append startsOnce_userMark huser
  have hcutHost := Text.cutAt?_append startsOnce_hostMark h.host
  unfold read?
  rw [htext, hscheme]
  simp only [Option.bind_eq_bind, Option.bind_some, hcutUser, hcutHost, hslash, splitKey_append h,
    String.ofList_toList]
  rfl

end SshAddress

namespace Endpoint

/-- The address is made of the endpoint's own user, host and path, and of its key if this is set and
not blank. -/
structure HasAddress (e : Endpoint) (a : SshAddress) : Prop where
  user : e.user = some a.user
  host : e.host = some a.host
  path : e.path = a.path
  key : ∀ key, a.key = some key ↔ e.privateKey = some key ∧ Text.isBlank key = false

/-- A well-formed endpoint behind SSH needs no stand-in for its user or its host. -/
lemma exists_hasAddress {e : Endpoint} (hkind : e.kind = .ssh) (hfaults : e.faults = []) :
    ∃ a, e.HasAddress a ∧ "/".toList <+: a.path.toList ∧ e.argument = a.text := by
  obtain ⟨hroot, ⟨host, hhost, hhostBlank⟩, user, huser, huserBlank⟩ :=
    (e.faults_eq_nil_iff.1 hfaults).ssh hkind
  refine ⟨⟨user, host, e.path, Text.given e.privateKey⟩,
    ⟨huser, hhost, rfl, Text.given_eq_some_iff e.privateKey⟩, hroot, ?_⟩
  have hgivenUser : Text.given e.user = some user :=
    (Text.given_eq_some_iff e.user user).2 ⟨huser, huserBlank⟩
  have hgivenHost : Text.given e.host = some host :=
    (Text.given_eq_some_iff e.host host).2 ⟨hhost, hhostBlank⟩
  unfold argument
  rw [hkind, hgivenUser, hgivenHost]
  rfl

lemma HasAddress.unique {e : Endpoint} {a b : SshAddress} (ha : e.HasAddress a)
    (hb : e.HasAddress b) : a = b := by
  have huser : a.user = b.user := Option.some_inj.1 (ha.user.symm.trans hb.user)
  have hhost : a.host = b.host := Option.some_inj.1 (ha.host.symm.trans hb.host)
  have hpath : a.path = b.path := ha.path.symm.trans hb.path
  have hkey : a.key = b.key := Option.ext fun key => (ha.key key).trans (hb.key key).symm
  cases a
  cases b
  rw [SshAddress.mk.injEq]
  exact ⟨huser, hhost, hpath, hkey⟩

/-- The argument of an endpoint with a separable address is read back as this address. -/
lemma HasAddress.read?_argument {e : Endpoint} {a : SshAddress} (h : e.HasAddress a)
    (hkind : e.kind = .ssh) (hfaults : e.faults = []) (hseparable : a.IsSeparable) :
    SshAddress.read? e.argument = some a := by
  obtain ⟨b, hb, hroot, hargument⟩ := exists_hasAddress hkind hfaults
  rw [h.unique hb] at hseparable ⊢
  rw [hargument, SshAddress.read?_text hroot hseparable]

/-- The argument for a well-formed endpoint behind SSH is the text of its address. Where no part of
the address holds the mark of a cut, the address is read back from the argument, so endpoints with
equal arguments have equal addresses. -/
theorem argument_hasAddress {e : Endpoint} (hkind : e.kind = .ssh) (hfaults : e.faults = []) :
    ∃ a, e.HasAddress a ∧ e.argument = a.text ∧
      (a.IsSeparable → SshAddress.read? e.argument = some a ∧
        ∀ (e' : Endpoint) (a' : SshAddress), e'.kind = .ssh → e'.faults = [] → e'.HasAddress a' →
          a'.IsSeparable → e'.argument = e.argument → a' = a) := by
  obtain ⟨a, haddress, -, hargument⟩ := exists_hasAddress hkind hfaults
  refine ⟨a, haddress, hargument, fun hseparable => ?_⟩
  have hread := haddress.read?_argument hkind hfaults hseparable
  refine ⟨hread, fun e' a' hkind' hfaults' haddress' hseparable' heq => ?_⟩
  have hread' := haddress'.read?_argument hkind' hfaults' hseparable'
  rw [heq, hread, Option.some.injEq] at hread'
  exact hread'.symm

/-- An endpoint whose host ends in a colon, whose path ends in the beginning of the mark of a key,
and whose key holds this mark. -/
def colonEndpoint : Endpoint where
  kind := .ssh
  path := "/srv/?identity_file"
  host := some "fe80::1:"
  user := some "bob"
  privateKey := some "/k?identity_file=@:/"

/-- Its parts are read back all the same. -/
theorem argument_hasAddress_colonEndpoint :
    colonEndpoint.kind = .ssh ∧ colonEndpoint.faults = [] ∧
      colonEndpoint.argument =
        "ssh://bob@fe80::1::/srv/?identity_file?identity_file=/k?identity_file=@:/" ∧
      SshAddress.read? colonEndpoint.argument =
        some ⟨"bob", "fe80::1:", "/srv/?identity_file", some "/k?identity_file=@:/"⟩ := by
  have hfaults : colonEndpoint.faults = [] := by decide
  have haddress : colonEndpoint.HasAddress
      ⟨"bob", "fe80::1:", "/srv/?identity_file", some "/k?identity_file=@:/"⟩ :=
    ⟨rfl, rfl, rfl, fun key => ⟨fun h => ⟨h, by rw [← Option.some.inj h]; decide⟩, fun h => h.1⟩⟩
  obtain ⟨a, ha, -, hread⟩ := argument_hasAddress (e := colonEndpoint) rfl hfaults
  rw [ha.unique haddress] at hread
  refine ⟨rfl, hfaults, by decide, (hread ⟨?_, ?_, ?_⟩).1⟩
  all_goals
    repeat rw [String.toList_ofList]
    decide

end Endpoint

end SyncScript
