import SyncScript.Document.Basic

/-!
# TOML tables

Tables grow by headers and by dotted keys, and may not be defined twice. A table that was only
passed through on the way to another is implicit, and one made by a dotted key can only be
extended by dotted keys beside it.
-/

namespace SyncScript.Toml

inductive Node where
  | value (d : Document)
  | table (implicit dotted : Bool) (entries : List (String × Node))
  | tables (items : List (List (String × Node)))
  deriving Inhabited

/-- A table with what is known about how it came to be. -/
structure Table where
  implicit : Bool := false
  dotted : Bool := false
  entries : List (String × Node) := []

namespace Table

def node (t : Table) : Node :=
  .table t.implicit t.dotted t.entries

def get? (t : Table) (key : String) : Option Node :=
  t.entries.lookup key

def add (t : Table) (key : String) (n : Node) : Table :=
  { t with entries := t.entries ++ [(key, n)] }

def remove (t : Table) (key : String) : Table :=
  { t with entries := t.entries.filter (·.1 != key) }

/-- Puts a node in the place of the one under the same key. -/
def replace (t : Table) (key : String) (n : Node) : Table :=
  { t with entries := t.entries.map fun e => if e.1 == key then (key, n) else e }

/-- Changes the table at the end of a path, making the tables on the way that are not there. -/
def change (dotted : Bool) (f : Table → Option Table) : List String → Table → Option Table
  | [], t => f t
  | key :: path, t =>
    match t.get? key with
    | none => do
      let child ← change dotted f path { implicit := true, dotted }
      return t.add key child.node
    | some (.value _) => none
    | some (.table implicit wasDotted entries) => do
      if dotted && ! implicit then none
      let child ← change dotted f path { implicit, dotted := wasDotted, entries }
      return t.replace key child.node
    | some (.tables items) => do
      let last ← items.getLast?
      let child ← change dotted f path { entries := last }
      return t.replace key (.tables (items.dropLast ++ [child.entries]))

/-- Adds a value under a dotted key. -/
def define (t : Table) (path : List String) (key : String) (value : Document) : Option Table :=
  change true (fun t =>
    if t.dotted = path.isEmpty || (t.get? key).isSome then none
    else some (t.add key (.value value))) path t

/-- Adds the table under a header. A table that was only passed through may still get its header,
and then counts as added now. -/
def defineTable (t : Table) (path : List String) (key : String) (fill : Table → Option Table) :
    Option Table :=
  change false (fun t =>
    match t.get? key with
    | none => do
      let child ← fill {}
      return t.add key child.node
    | some (.table true false entries) => do
      let child ← fill { entries }
      return (t.remove key).add key child.node
    | some _ => none) path t

/-- Adds a table to the list of tables under a header. -/
def appendTable (t : Table) (path : List String) (key : String) (fill : Table → Option Table) :
    Option Table :=
  change false (fun t =>
    match t.get? key with
    | none => do
      let child ← fill {}
      return t.add key (.tables [child.entries])
    | some (.tables items) => do
      let child ← fill {}
      return t.replace key (.tables (items ++ [child.entries]))
    | some _ => none) path t

end Table

mutual

def Node.document : Node → Document
  | .value d => d
  | .table _ _ entries => .mapping (entriesDocument entries)
  | .tables items => .sequence (itemsDocument items)

def entriesDocument : List (String × Node) → List (Document × Document)
  | [] => []
  | (key, n) :: entries => (.text key, n.document) :: entriesDocument entries

def itemsDocument : List (List (String × Node)) → List Document
  | [] => []
  | entries :: items => .mapping (entriesDocument entries) :: itemsDocument items

end

end SyncScript.Toml
