import SyncScript.Document.Toml.Value

/-!
# TOML texts

A text is a sequence of lines: blanks, comments, keys with values, and headers that say to which
table the keys after them belong.
-/

namespace SyncScript.Toml

open Scanner

/-- The end of a line: blanks, perhaps a comment, and then a line end or the end of the text. -/
def lineEnd : Scanner Unit := do
  blanks
  let _ ← comment?
  if (← peek?).isSome then newline

inductive Line where
  | empty
  | pair (path : List String) (key : String) (value : Document)
  | header (isList : Bool) (path : List String) (key : String)

/-- The rest of a header, after its opening bracket. -/
def header (isList : Bool) (closing : String) : Scanner Line := do
  let (path, key) ← dottedKey
  expect closing
  lineEnd
  return .header isList path key

def line : Scanner Line := do
  blanks
  match ← peek? with
  | some '#' | some '\n' | some '\r' | none =>
    lineEnd
    return .empty
  | some '[' =>
    if ← accept "[[" then header true "]]"
    else
      expect "["
      header false "]"
  | some _ =>
    let ((path, key), d) ← keyValue (value maxNesting)
    lineEnd
    return .pair path key d

def allLines : Scanner (List Line) :=
  repeated do
    if (← get).isEmpty then return none else return some (← line)

/-- The keys before the first header. -/
def pairsOf : List Line → List (List String × String × Document)
  | .pair path key d :: lines => (path, key, d) :: pairsOf lines
  | .empty :: lines => pairsOf lines
  | .header .. :: _ | [] => []

def fill (pairs : List (List String × String × Document)) (t : Table) : Option Table :=
  pairs.foldlM (fun t (path, key, d) => t.define path key d) t

/-- Adds the tables under all headers, each with the keys up to the next header. -/
def addTables : List Line → Table → Option Table
  | [], t => some t
  | .header isList path key :: lines, t => do
    let pairs := pairsOf lines
    let t ←
      if isList then t.appendTable path key (fill pairs) else t.defineTable path key (fill pairs)
    addTables lines t
  | _ :: lines, t => addTables lines t

/-- The document of a text, `none` when the text is not well formed. A byte order mark in first
place is passed over. -/
def parse? (text : String) : Option Document := do
  let cs := match text.toList with
    | '\ufeff' :: cs => cs
    | cs => cs
  let (lines, _) ← allLines cs
  let root ← fill (pairsOf lines) {}
  let t ← addTables lines root
  return .mapping (entriesDocument t.entries)

end SyncScript.Toml
