import SyncScript.Document.Basic

/-!
# Documents in JSON

Output in JSON is indented by two spaces, keeps the order of entries, and writes every character
as itself that need not be escaped.
-/

namespace SyncScript.Json

/-- A number of four digits to the base 16. -/
def hexFour (n : Nat) : List Char :=
  let digits := Text.hexDigits n
  List.replicate (4 - digits.length) '0' ++ digits

def escapeChar (c : Char) : List Char :=
  match c with
  | '"' => ['\\', '"']
  | '\\' => ['\\', '\\']
  | '\n' => ['\\', 'n']
  | '\r' => ['\\', 'r']
  | '\t' => ['\\', 't']
  | '\x08' => ['\\', 'b']
  | '\x0c' => ['\\', 'f']
  | c => if c.toNat < 32 then '\\' :: 'u' :: hexFour c.toNat else [c]

def textLiteral (s : String) : String :=
  String.ofList ('"' :: s.toList.flatMap escapeChar ++ ['"'])

/-- A line end and the indentation of the next line. -/
def newline (depth : Nat) : String :=
  String.ofList ('\n' :: List.replicate (2 * depth) ' ')

/-- The parts of a list or an object between its brackets, one on a line. -/
def block (opening closing : String) (depth : Nat) (parts : List String) : String :=
  if parts.isEmpty then opening ++ closing
  else opening ++ ",".intercalate (parts.map (newline (depth + 1) ++ ·)) ++ newline depth ++ closing

mutual

/-- A document as indented JSON, at a depth of nesting. -/
def pretty (depth : Nat) : Document → String
  | .bool b => toString b
  | .integer n => toString n
  | .fraction x => x.shown
  | .text s | .plain s => textLiteral s
  | .sequence items => block "[" "]" depth (prettyItems (depth + 1) items)
  | .mapping entries => block "\x7b" "\x7d" depth (prettyEntries (depth + 1) entries)
  | .tagged _ value => pretty depth value
  | .null | .date => "null"

def prettyItems (depth : Nat) : List Document → List String
  | [] => []
  | d :: ds => pretty depth d :: prettyItems depth ds

def prettyEntries (depth : Nat) : List (Document × Document) → List String
  | [] => []
  | (key, value) :: entries =>
    (pretty depth key ++ ": " ++ pretty depth value) :: prettyEntries depth entries

end

end SyncScript.Json
