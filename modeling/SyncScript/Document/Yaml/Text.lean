import SyncScript.Document.Yaml.Node
import SyncScript.Document.Yaml.Tokens

/-!
# YAML texts

The document of a text. Each reference is replaced by the node with its anchor.
-/

namespace SyncScript.Yaml

mutual

/-- The anchors in a node with their nodes, in the order of the text. -/
def Node.anchors : Node → List (Nat × Node)
  | .scalar .. | .reference _ => []
  | .sequence items => itemsAnchors items
  | .mapping entries => entriesAnchors entries
  | .tagged _ n => n.anchors
  | .anchored number n => (number, n) :: n.anchors

def itemsAnchors : List Node → List (Nat × Node)
  | [] => []
  | n :: items => n.anchors ++ itemsAnchors items

def entriesAnchors : List (Node × Node) → List (Nat × Node)
  | [] => []
  | (k, v) :: entries => k.anchors ++ v.anchors ++ entriesAnchors entries

end

mutual

/-- A node as a document, with the documents that the references stand for. -/
def Node.document (referred : Nat → Document) : Node → Document
  | .scalar text isPlain => if isPlain then .plain text else .text text
  | .sequence items => .sequence (itemsDocument referred items)
  | .mapping entries => .mapping (entriesDocument referred entries)
  | .tagged tag n => .tagged tag (n.document referred)
  | .anchored _ n => n.document referred
  | .reference number => referred number

def itemsDocument (referred : Nat → Document) : List Node → List Document
  | [] => []
  | n :: items => n.document referred :: itemsDocument referred items

def entriesDocument (referred : Nat → Document) : List (Node × Node) → List (Document × Document)
  | [] => []
  | (k, v) :: entries =>
    (k.document referred, v.document referred) :: entriesDocument referred entries

end

/-- What a number refers to: the last node with it. Among references inside each other there are at
most as many as there are anchors, unless one of them stands in its own anchor; this one is left
open. -/
def referred (anchors : List (Nat × Node)) : Nat → Nat → Document
  | 0, _ => .openReference
  | depth + 1, number =>
    match anchors.reverse.lookup number with
    | some n => n.document (referred anchors depth)
    | none => .openReference

/-- The document of a text, `none` when the text is not well formed. -/
def parse? (text : String) : Option Document := do
  let n ← Node.ofTokens? (← tokens? text)
  return n.document (referred n.anchors n.anchors.length)

end SyncScript.Yaml
