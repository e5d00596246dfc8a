import SyncScript.Document.Yaml.Lexer
import SyncScript.Text.Scanner

/-!
# YAML nodes

The tree of nodes that a list of tokens stands for. Anchors are numbered, and a reference names an
anchor by its number. A reference to a name that has no anchor before it is an error.
-/

namespace SyncScript.Yaml

inductive Node where
  | scalar (text : String) (isPlain : Bool)
  | sequence (items : List Node)
  | mapping (entries : List (Node × Node))
  | tagged (tag : String) (node : Node)
  | anchored (number : Nat) (node : Node)
  | reference (number : Nat)
  deriving Inhabited

/-- What stands where no node is written. -/
def Node.empty : Node :=
  .scalar "" true

def Node.withTag (tag : Option String) (n : Node) : Node :=
  match tag with
  | some tag => .tagged tag n
  | none => n

/-- The tokens that are left, the tag handles with what they stand for, and the names of the anchors
so far with their numbers. -/
structure Parser where
  rest : List Token
  handles : List (String × String) := []
  anchors : List (String × Nat) := []

abbrev Parsing (α : Type) := StateT Parser Option α

namespace Parsing

variable {α : Type}

def peek? : Parsing (Option Token) := do
  return (← get).rest.head?

def advance : Parsing Unit :=
  modify fun s => { s with rest := s.rest.drop 1 }

/-- Takes a token if it comes next. -/
def accept (t : Token) : Parsing Bool := do
  if (← peek?) = some t then
    advance
    return true
  else return false

def expect (t : Token) : Parsing Unit := do
  if ! (← accept t) then failure

/-- Whether one of some tokens comes next. -/
def sees (ts : List Token) : Parsing Bool := do
  return (← peek?).any ts.contains

/-- Repeats a parser until it says to stop. Every round must take a token. -/
def repeated (p : Parsing (Option α)) : Parsing (List α) := do
  Scanner.rounds p ((← get).rest.length + 1)

end Parsing

open Parsing

/-- A node, unless one of some tokens says that none is written. -/
def nodeUnless (ends : List Token) (node : Parsing Node) : Parsing Node := do
  if ← sees ends then return .empty else node

/-- The items of a sequence in a block. -/
def blockItems (node : Parsing Node) : Parsing Node := do
  let items ← repeated do
    if ← accept .blockEntry then
      return some (← nodeUnless [.blockEntry, .blockEnd] node)
    else
      expect .blockEnd
      return none
  return .sequence items

/-- The items of a sequence that is not indented further than the mapping around it. -/
def flushItems (node : Parsing Node) : Parsing Node := do
  let items ← repeated do
    if ← accept .blockEntry then
      return some (← nodeUnless [.blockEntry, .key, .value, .blockEnd] node)
    else return none
  return .sequence items

/-- The entries of a mapping in a block. -/
def blockEntries (node : Parsing Node) : Parsing Node := do
  let part := nodeUnless [.key, .value, .blockEnd] node
  let entries ← repeated do
    if ← accept .key then
      let key ← part
      let value ← if ← accept .value then part else pure .empty
      return some (key, value)
    else
      expect .blockEnd
      return none
  return .mapping entries

/-- Parts between commas up to a closing token. A comma may stand after the last part. -/
def flowParts {α : Type} (closing : Token) (part : Parsing α) : Parsing (List α) := do
  if ← accept closing then return []
  let first ← part
  let rest ← repeated do
    if ← accept closing then return none
    expect .flowEntry
    if ← sees [closing] then return some none
    return some (some (← part))
  return first :: rest.filterMap id

/-- A pair in a sequence. Where no key is written, the token in its place is passed over. -/
def flowPair (node : Parsing Node) : Parsing Node := do
  let key ← if ← sees [.value, .flowEntry, .flowSequenceEnd] then
      advance
      pure .empty
    else node
  let value ←
    if ← accept .value then nodeUnless [.flowEntry, .flowSequenceEnd] node else pure .empty
  return .mapping [(key, value)]

def flowItems (node : Parsing Node) : Parsing Node := do
  let items ← flowParts .flowSequenceEnd do
    if ← accept .key then flowPair node else node
  return .sequence items

def flowEntries (node : Parsing Node) : Parsing Node := do
  let entries ← flowParts .flowMappingEnd do
    if ← accept .key then
      let key ← nodeUnless [.value, .flowEntry, .flowMappingEnd] node
      let value ←
        if ← accept .value then nodeUnless [.flowEntry, .flowMappingEnd] node else pure .empty
      return (key, value)
    else return (← node, .empty)
  return .mapping entries

/-- The tag that a handle and the name after it stand for. -/
def resolveTag (handle suffix : String) : Parsing String := do
  if handle.isEmpty then return suffix
  match (← get).handles.lookup handle with
  | some start => return start ++ suffix
  | none => failure

/-- An anchor and a tag, in any order and each at most once. -/
def properties : Parsing (Option String × Option String) := do
  let anchor? : Parsing (Option String) := do
    match ← peek? with
    | some (.anchor name) =>
      advance
      return some name
    | _ => return none
  let before ← anchor?
  let tag ← match ← peek? with
    | some (.tag handle suffix) =>
      advance
      some <$> resolveTag handle suffix
    | _ => pure none
  let after ← if before.isNone && tag.isSome then anchor? else pure none
  return (before <|> after, tag)

/-- Gives an anchor its number: how many names there are so far. -/
def numberAnchor (name : String) : Parsing Nat := do
  let s ← get
  let number := s.anchors.length
  let others := s.anchors.filter (·.1 != name)
  set { s with anchors := (name, number) :: others }
  return number

/-- What a node consists of, without its properties. Block collections may stand only in blocks,
and items without indentation only in a block mapping. -/
def content (block inMapping : Bool) (hasProperties : Bool)
    (node : (block inMapping : Bool) → Parsing Node) : Parsing Node := do
  match ← peek? with
  | some (.scalar text isPlain) =>
    advance
    return .scalar text isPlain
  | some .flowSequenceStart =>
    advance
    flowItems (node false false)
  | some .flowMappingStart =>
    advance
    flowEntries (node false false)
  | t =>
    if t = some .blockEntry && inMapping then flushItems (node true false)
    else if t = some .blockSequenceStart && block then
      advance
      blockItems (node true false)
    else if t = some .blockMappingStart && block then
      advance
      blockEntries (node true true)
    else if hasProperties then return .empty
    else failure

/-- Whether a scalar is written next. -/
def seesScalar : Parsing Bool := do
  match ← peek? with
  | some (.scalar ..) => return true
  | _ => return false

/-- A node with at most so many levels of nesting. The tag of a written scalar counts as none when
it is a mark alone. -/
def node : Nat → (block inMapping : Bool) → Parsing Node
  | 0, _, _ => failure
  | depth + 1, block, inMapping => do
    match ← peek? with
    | some (.reference name) =>
      advance
      match (← get).anchors.lookup name with
      | some number => return .reference number
      | none => failure
    | _ =>
      let (anchor, tag) ← properties
      let number ← anchor.mapM numberAnchor
      let isBare := tag = some "!" && (← seesScalar)
      let n ← content block inMapping (anchor.isSome || tag.isSome) (node depth)
      let n := if isBare then n else n.withTag tag
      return match number with
        | some number => .anchored number n
        | none => n

/-- The handles that need no directive. -/
def defaultHandles : List (String × String) :=
  [("!", "!"), ("!!", "tag:yaml.org,2002:")]

/-- The directives before a document: at most one version, and each handle once. -/
def directives : Parsing Unit := do
  let found ← repeated do
    match ← peek? with
    | some (.versionDirective major minor) =>
      advance
      if major ≠ 1 || (minor ≠ 1 && minor ≠ 2) then failure
      return some none
    | some (.tagDirective handle start) =>
      advance
      return some (some (handle, start))
    | _ => return none
  let handles := found.filterMap id
  if 1 < found.countP Option.isNone || ! (handles.map Prod.fst).Nodup then failure
  modify fun s => { s with handles := handles ++ defaultHandles }

def isDirective : Token → Bool
  | .versionDirective .. | .tagDirective .. => true
  | _ => false

/-- The one document of a text. It may follow directives and a mark, and after it only marks for
its end may stand. -/
def document : Parsing Node := do
  let depth := (← get).rest.length + 1
  let n ← match ← peek? with
    | none => pure .empty
    | some t =>
      if isDirective t || t = .documentStart then
        directives
        expect .documentStart
        if (← peek?).all fun t => isDirective t || [.documentStart, .documentEnd].contains t then
          pure .empty
        else node depth true false
      else
        directives
        node depth true false
  let _ ← repeated do
    if ← accept .documentEnd then return some () else return none
  if (← peek?).isSome then failure
  return n

/-- The node that all tokens of a text stand for. -/
def Node.ofTokens? (tokens : List Token) : Option Node := do
  let (n, _) ← document { rest := tokens }
  return n

end SyncScript.Yaml
