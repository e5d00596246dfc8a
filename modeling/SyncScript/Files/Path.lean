import SyncScript.Text.Basic

/-!
# Paths

A path is a text. It splits at slashes into components, where empty parts and inner dots do not
count; two paths are the same when their components are. Taking the parent looks at the text
alone, so the parent of `a/..` is `a`.
-/

namespace SyncScript

structure Path where
  text : String
  deriving DecidableEq, Inhabited

/-- A component of a path. -/
inductive Component where
  | root
  | current
  | parent
  | name (name : List Char)
  deriving DecidableEq

namespace Path

/-- The part of a text that stands for the place a path starts from, and the parts after it. -/
def split : List Char → List Char × List (List Char)
  | '/' :: cs => (['/'], Text.splitAtEach '/' cs)
  | ['.'] => (['.'], [])
  | '.' :: '/' :: cs => (['.'], Text.splitAtEach '/' ('/' :: cs))
  | cs => ([], Text.splitAtEach '/' cs)

/-- A part between slashes that leads nowhere. -/
def isIdle (part : List Char) : Bool :=
  part == [] || part == ['.']

/-- Puts parts after the start of a path, with slashes between them. -/
def assemble (start : List Char) (parts : List (List Char)) : Path :=
  ⟨String.ofList (start ++ ['/'].intercalate parts)⟩

def isAbsolute (p : Path) : Bool :=
  Text.beginsWith p.text "/"

def components (p : Path) : List Component :=
  let (start, parts) := split p.text.toList
  let first := if start = ['/'] then [.root] else if start = ['.'] then [.current] else []
  first ++ (parts.filter (! isIdle ·)).map fun part =>
    if part = ['.', '.'] then .parent else .name part

/-- Two paths with equal components. -/
def same (p q : Path) : Bool :=
  p.components == q.components

/-- The parents of a path whose parts, in reverse order, are given. -/
def parentsFrom (start : List Char) : List (List Char) → List Path
  | [] => if start = ['.'] then [⟨""⟩] else []
  | part :: parts =>
    if isIdle part then parentsFrom start parts
    else assemble start (parts.dropWhile isIdle).reverse :: parentsFrom start parts

/-- The parents of a path, from the nearest to the farthest. -/
def parents (p : Path) : List Path :=
  let (start, parts) := split p.text.toList
  parentsFrom start parts.reverse

def parent? (p : Path) : Option Path :=
  p.parents.head?

/-- A path followed by a relative path; an absolute one takes its place. -/
def join (p : Path) (rest : String) : Path :=
  if Text.beginsWith rest "/" then ⟨rest⟩
  else if p.text.isEmpty || p.text.toList.getLast? == some '/' then ⟨p.text ++ rest⟩
  else ⟨p.text ++ "/" ++ rest⟩

/-- The last component, when it is a name. -/
def fileName? (p : Path) : Option (List Char) :=
  match p.components.getLast? with
  | some (.name n) => some n
  | _ => none

/-- What follows the last dot of the file name, unless the dot comes first. -/
def extension? (p : Path) : Option String := do
  let n ← p.fileName?
  let after := (n.reverse.takeWhile (· != '.')).reverse
  let before := n.length - after.length
  if before ≤ 1 then none else some (String.ofList after)

end Path

namespace Component

def text : Component → String
  | .root => "/"
  | .current => "."
  | .parent => ".."
  | .name n => String.ofList n

/-- The way from the directory with the second components to the path with the first. Equal
components are passed over as long as nothing has been put down. -/
def between (started : Bool) : List Component → List Component → Option (List Component)
  | [], [] => some []
  | a :: as, [] => some (a :: as)
  | [], _ :: bs => (between true [] bs).map (.parent :: ·)
  | a :: as, b :: bs =>
    if ! started && a = b then between false as bs
    else if b = .current then (between true as bs).map (a :: ·)
    else if b = .parent then none
    else some (List.replicate (bs.length + 1) .parent ++ a :: as)

end Component

/-- A path as seen from a directory; a relative path is left as it is. -/
def Path.relativeTo (p directory : Path) : Path :=
  if p.isAbsolute != directory.isAbsolute then p
  else
    match Component.between false p.components directory.components with
    | some steps => steps.foldl (fun path step => path.join step.text) ⟨""⟩
    | none => p

end SyncScript
