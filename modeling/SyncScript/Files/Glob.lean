import SyncScript.Files.Disk

/-!
# Glob patterns

A pattern is matched against the names in a directory, one part between slashes at a time. `*`
and `?` also match a dot in first place, `[...]` is a set of characters and `[!...]` its
complement, and `**`, which must be a whole part, goes down through all directories.
-/

namespace SyncScript

inductive GlobToken where
  | literal (c : Char)
  | anyChar
  | anyText
  | anyDirectories
  | oneOf (negated : Bool) (ranges : List (Char × Char))
  deriving DecidableEq

namespace Glob

/-- The characters between the brackets of a set, as ranges. -/
def ranges : List Char → List (Char × Char)
  | a :: '-' :: b :: cs => (a, b) :: ranges cs
  | a :: cs => (a, a) :: ranges cs
  | [] => []

mutual

/-- The tokens of a pattern, `none` when it is not well formed. -/
def tokens? (afterSlash : Bool) : List Char → Option (List GlobToken)
  | [] => some []
  | '?' :: cs => (.anyChar :: ·) <$> tokens? false cs
  | '*' :: '*' :: [] => if afterSlash then some [.anyDirectories] else none
  | '*' :: '*' :: '/' :: cs =>
    if afterSlash then (.anyDirectories :: ·) <$> tokens? true cs else none
  | '*' :: '*' :: _ => none
  | '*' :: cs => (.anyText :: ·) <$> tokens? false cs
  | '[' :: '!' :: c :: cs => setTokens? true [c] cs
  | '[' :: c :: cs => if c = '!' then none else setTokens? false [c] cs
  | '[' :: [] => none
  | c :: cs => (.literal c :: ·) <$> tokens? (c == '/') cs

/-- The tokens from inside a set, whose characters so far are given in reverse order. -/
def setTokens? (negated : Bool) (members : List Char) : List Char → Option (List GlobToken)
  | [] => none
  | ']' :: cs => (.oneOf negated (ranges members.reverse) :: ·) <$> tokens? false cs
  | c :: cs => setTokens? negated (c :: members) cs

end

/-- Whether some end of a text has a property. -/
def someTail (p : List Char → Bool) : List Char → Bool
  | [] => p []
  | c :: cs => p (c :: cs) || someTail p cs

def tokenMatches (c : Char) : GlobToken → Bool
  | .literal d => c == d
  | .oneOf negated ranges => (ranges.any fun r => r.1 ≤ c && c ≤ r.2) != negated
  | .anyChar | .anyText | .anyDirectories => true

/-- Whether a name matches a pattern. -/
def nameMatches : List GlobToken → List Char → Bool
  | [], cs => cs.isEmpty
  | .anyText :: ts, cs | .anyDirectories :: ts, cs => someTail (nameMatches ts) cs
  | _ :: _, [] => false
  | t :: ts, c :: cs => tokenMatches c t && nameMatches ts cs

/-- The text of a pattern without wildcards. -/
def literal? (ts : List GlobToken) : Option String :=
  String.ofList <$> ts.mapM fun
    | .literal c => some c
    | _ => none

/-- A part of a pattern that goes through directories. -/
def goesDown (ts : List GlobToken) : Bool :=
  ts.contains .anyDirectories

variable {m : Type → Type} [Monad m]

/-- A path that the last part of a pattern has led to. -/
def result (disk : Disk m) (onlyDirectories : Bool) (p : Path) : m (List Path) := do
  if onlyDirectories && ! (← disk.isDirectory p) then return [] else return [p]

mutual

/-- The paths that the parts of a pattern lead to from a directory. -/
def expand (disk : Disk m) (onlyDirectories : Bool) :
    Nat → List (List GlobToken) → Path → m (List Path)
  | 0, _, _ => return []
  | _, [], p => result disk onlyDirectories p
  | depth + 1, ts :: rest, scope => do
    let here := scope.same ⟨"."⟩
    match literal? ts with
    | some name =>
      let next := if here then ⟨name⟩ else scope.join name
      let there ← if name = "." || name = ".." then disk.isDirectory scope else disk.holds next
      if there then expand disk onlyDirectories depth rest next else return []
    | none =>
      if ! (← disk.isDirectory scope) then return []
      let dots := if ts.head? = some (.literal '.') then
        ["..", "."].filter fun name => nameMatches ts name.toList else []
      let above ← dots.mapM fun name => expand disk onlyDirectories depth rest (scope.join name)
      let names := (← disk.names scope).mergeSort fun a b => ! (decide (b < a))
      let below ← names.mapM fun name =>
        visit disk onlyDirectories depth ts rest name (if here then ⟨name⟩ else scope.join name)
      return above.flatten ++ below.flatten

/-- The paths that the parts of a pattern lead to by way of one entry of a directory. -/
def visit (disk : Disk m) (onlyDirectories : Bool) :
    Nat → List GlobToken → List (List GlobToken) → String → Path → m (List Path)
  | 0, _, _, _, _ => return []
  | depth + 1, ts, rest, name, p => do
    if ! goesDown ts then
      if nameMatches ts name.toList then expand disk onlyDirectories depth rest p else return []
    else
      let rest := rest.dropWhile goesDown
      let matched ← match rest with
        | [] => if ← disk.isDirectory p then pure [p] else pure []
        | next :: rest =>
          if nameMatches next name.toList then expand disk onlyDirectories depth rest p
          else pure []
      let below ← if ← disk.isDirectory p then expand disk onlyDirectories depth (ts :: rest) p
        else pure []
      return matched ++ below

end

/-- The parts of a pattern between slashes. A slash at the end opens no further part. -/
def parts (cs : List Char) : List (List Char) :=
  let parts := Text.splitAtEach '/' cs
  if parts.getLast? = some [] then parts.dropLast else parts

/-- No path that a system opens is longer than this many bytes, so none is deeper. -/
def maxDepth : Nat := 4096

/-- The existing paths that match a pattern, in alphabetical order of each directory. A pattern
that is not well formed matches nothing. -/
def paths (disk : Disk m) (pattern : String) : m (List Path) := do
  let cs := pattern.toList
  let (scope, relative) := match cs with
    | '/' :: cs => ("/", cs)
    | cs => (".", cs)
  match tokens? true cs, (parts relative).mapM (tokens? true) with
  | some _, some (first :: rest) =>
    expand disk (cs.getLast? = some '/') (maxDepth + rest.length) (first :: rest) ⟨scope⟩
  | _, _ => return []

end Glob

end SyncScript
