import SyncScript.Files.Disk

/-!
# File trees

A tree of files in memory. A path is walked part by part, and every part but the last must lead to
a directory; `..` goes to the directory above.
-/

namespace SyncScript

/-- The names on the way down from the root. -/
abbrev Location := List String

inductive FileEntry where
  | file (content : ByteArray)
  | directory

def FileEntry.kind : FileEntry → FileKind
  | .file _ => .file
  | .directory => .directory

structure FileTree where
  entries : List (Location × FileEntry)

namespace FileTree

def get? (t : FileTree) (l : Location) : Option FileEntry :=
  if l = [] then some .directory else t.entries.lookup l

def kindOf? (t : FileTree) (l : Location) : Option FileKind :=
  (t.get? l).map FileEntry.kind

/-- The tree with an entry in place of what was at its location. -/
def put (t : FileTree) (l : Location) (e : FileEntry) : FileTree :=
  ⟨(l, e) :: t.entries.filter (·.1 != l)⟩

/-- The tree with a directory at a location and at all above it. -/
def addDirectories (t : FileTree) (l : Location) : FileTree :=
  ((List.range l.length).map fun n => l.take (n + 1)).foldl
    (fun t d => if (t.get? d).isSome then t else t.put d .directory) t

/-- The tree with an entry added, and the directories that lead to it. -/
def add (t : FileTree) (l : Location) (e : FileEntry) : FileTree :=
  (t.addDirectories l.dropLast).put l e

/-- Where the parts of a path lead from a location. -/
def walk (t : FileTree) (l : Location) : List (List Char) → Except FileError Location
  | [] => .ok l
  | part :: parts =>
    if t.kindOf? l ≠ some .directory then .error .notDirectory
    else if Path.isIdle part then t.walk l parts
    else if part = ['.', '.'] then t.walk l.dropLast parts
    else
      let next := l ++ [String.ofList part]
      if (t.get? next).isSome then t.walk next parts else .error .notFound

/-- The location a path begins at, and the parts of the path. -/
def start (directory : Location) (p : Path) : Location × List (List Char) :=
  match p.text.toList with
  | '/' :: cs => ([], Text.splitAtEach '/' cs)
  | cs => (directory, Text.splitAtEach '/' cs)

/-- The location of what a path leads to. -/
def locate (t : FileTree) (directory : Location) (p : Path) : Except FileError Location :=
  if p.text.isEmpty then .error .notFound
  else if p.text.toList.contains '\x00' then .error .nulInName
  else
    let (l, parts) := start directory p
    t.walk l parts

def kindAt? (t : FileTree) (directory : Location) (p : Path) : Option FileKind :=
  match t.locate directory p with
  | .ok l => t.kindOf? l
  | .error _ => none

def readTextAt (t : FileTree) (directory : Location) (p : Path) : Except FileError String := do
  let l ← t.locate directory p
  match t.get? l with
  | some (.file content) =>
    match String.fromUTF8? content with
    | some text => .ok text
    | none => .error .notText
  | some .directory => .error .isDirectory
  | none => .error .notFound

/-- The names directly under a location. -/
def namesUnder (t : FileTree) (l : Location) : List String :=
  t.entries.filterMap fun (k, _) => if k.dropLast = l then k.getLast? else none

def namesAt (t : FileTree) (directory : Location) (p : Path) : List String :=
  match t.locate directory p with
  | .ok l => if t.kindOf? l = some .directory then t.namesUnder l else []
  | .error _ => []

/-- The tree after a text is written to a path. The directory of the file must be there, and a
path that ends in a slash names no file. -/
def writeAt (t : FileTree) (directory : Location) (p : Path) (text : String) :
    Except FileError FileTree :=
  let content := FileEntry.file text.toUTF8
  let (l, parts) := start directory p
  match t.locate directory p with
  | .ok l => if t.kindOf? l = some .directory then .error .isDirectory else .ok (t.put l content)
  | .error cause =>
    if p.text.isEmpty || cause = .nulInName then .error cause
    else
      match (parts.reverse.dropWhile (· == [])) with
      | [] => .error cause
      | name :: above => do
        let l ← t.walk l above.reverse
        if t.kindOf? l ≠ some .directory then .error .notDirectory
        else if Path.isIdle name || name = ['.', '.'] then .error cause
        else if parts.getLast? = some [] then .error .isDirectory
        else .ok (t.put (l ++ [String.ofList name]) content)

/-- A tree as a disk, seen from a directory. -/
def disk (t : FileTree) (directory : Location) : Disk Id where
  workingDirectory := ⟨"/" ++ "/".intercalate directory⟩
  kind? := t.kindAt? directory
  readText := t.readTextAt directory
  names := t.namesAt directory

end FileTree

end SyncScript
