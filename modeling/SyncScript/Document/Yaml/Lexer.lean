import SyncScript.Document.Basic

/-!
# Reading YAML character by character

The lexer knows where it is in the text, how deep the lines are indented, and where a key could
have begun that is only recognised by the colon after it. Indentation and such keys put tokens
into the stream that no character stands for.
-/

namespace SyncScript.Yaml

inductive Token where
  | versionDirective (major minor : Nat)
  | tagDirective (handle start : String)
  | documentStart
  | documentEnd
  | blockSequenceStart
  | blockMappingStart
  | blockEnd
  | flowSequenceStart
  | flowSequenceEnd
  | flowMappingStart
  | flowMappingEnd
  | blockEntry
  | flowEntry
  | key
  | value
  | anchor (name : String)
  | reference (name : String)
  | tag (handle suffix : String)
  | scalar (text : String) (isPlain : Bool)
  deriving DecidableEq

/-- The beginning of something that is a key if a colon follows it on the same line. -/
structure PossibleKey where
  required : Bool
  tokenNumber : Nat
  index : Nat
  line : Nat
  column : Nat

structure Lexer where
  rest : List Char
  index : Nat := 0
  line : Nat := 0
  column : Nat := 0
  tokens : Array Token := #[]
  /-- How many flow collections are open. -/
  flowLevel : Nat := 0
  /-- The column of the innermost block collection, -1 outside of all. -/
  indent : Int := -1
  outerIndents : List Int := []
  keyAllowed : Bool := true
  /-- For each open flow collection and for the block around them, where a key may have begun. -/
  possibleKeys : List (Option PossibleKey) := [none]

abbrev Lexing (α : Type) := StateT Lexer Option α

def isBlank (c : Char) : Bool :=
  c == ' ' || c == '\t'

def isBreak (c : Char) : Bool :=
  c == '\n' || c == '\r' || c == '\u0085' || c == '\u2028' || c == '\u2029'

/-- The characters a text may hold. -/
def isAllowed (c : Char) : Bool :=
  let n := c.toNat
  n == 9 || n == 10 || n == 13 || (0x20 ≤ n && n ≤ 0x7E) || n == 0x85 ||
    (0xA0 ≤ n && n ≤ 0xFFFD) || 0x10000 ≤ n

def isNameChar (c : Char) : Bool :=
  c.isAlphanum || c == '_' || c == '-'

/-- Whether a text begins with a blank or a line break, or is at its end. -/
def atGap : List Char → Bool
  | [] => true
  | c :: _ => isBlank c || isBreak c

def atBreak : List Char → Bool
  | [] => true
  | c :: _ => isBreak c

/-- Whether a text begins with a mark for the start or the end of a document. -/
def atDocumentMark (cs : List Char) : Bool :=
  (['-', '-', '-'].isPrefixOf cs || ['.', '.', '.'].isPrefixOf cs) && atGap (cs.drop 3)

namespace Lexing

def rest : Lexing (List Char) := do
  return (← get).rest

def peek? : Lexing (Option Char) := do
  return (← get).rest.head?

/-- Takes a number of characters on the same line. -/
def skip (n : Nat := 1) : Lexing Unit :=
  modify fun s => { s with rest := s.rest.drop n, index := s.index + n, column := s.column + n }

/-- Takes a line break, and gives the form in which a text keeps it. -/
def takeBreak : Lexing (List Char) := do
  let (kept, length) := match ← rest with
    | '\r' :: '\n' :: _ => (['\n'], 2)
    | '\u2028' :: _ => (['\u2028'], 1)
    | '\u2029' :: _ => (['\u2029'], 1)
    | c :: _ => if isBreak c then (['\n'], 1) else ([], 0)
    | [] => ([], 0)
  if 0 < length then
    modify fun s => { s with
      rest := s.rest.drop length, index := s.index + length, column := 0, line := s.line + 1 }
  return kept

def skipWhile (p : Char → Bool) : Lexing (List Char) := do
  let cs := (← rest).takeWhile p
  skip cs.length
  return cs

/-- Repeats a step on some data until it says to stop, for at most so many rounds. -/
def rounds {α : Type} (step : α → Lexing (α × Bool)) : Nat → α → Lexing α
  | 0, _ => failure
  | n + 1, a => do
    let (a, more) ← step a
    if more then rounds step n a else return a

/-- Repeats a step until it says to stop. All rounds but the last must take a character. -/
def repeating {α : Type} (step : α → Lexing (α × Bool)) (a : α) : Lexing α := do
  rounds step ((← rest).length + 2) a

def emit (t : Token) : Lexing Unit :=
  modify fun s => { s with tokens := s.tokens.push t }

/-- Puts a token before the one with a number. -/
def emitAt (number : Nat) (t : Token) : Lexing Unit :=
  modify fun s => { s with
    tokens := (s.tokens.extract 0 number).push t ++ s.tokens.extract number s.tokens.size }

/-- Closes the block collections that are indented further than a column. -/
def closeBlocks (column : Int) : Lexing Unit :=
  modify fun s =>
    if s.flowLevel ≠ 0 then s
    else
      let opened := s.indent :: s.outerIndents
      let closing := opened.takeWhile (column < ·)
      match opened.drop closing.length with
      | [] => s
      | indent :: outer => { s with
          indent, outerIndents := outer,
          tokens := s.tokens ++ (closing.map fun _ => Token.blockEnd).toArray }

/-- Opens a block collection at a column, unless one is open there. -/
def openBlock (column : Nat) (number : Nat) (t : Token) : Lexing Unit := do
  let s ← get
  if s.flowLevel = 0 && s.indent < column then
    set { s with indent := column, outerIndents := s.indent :: s.outerIndents }
    emitAt number t

/-- Forgets the possible key of the innermost level; a key that had to be one is an error. -/
def dropKey : Lexing Unit := do
  let s ← get
  match s.possibleKeys with
  | some key :: keys =>
    if key.required then failure else set { s with possibleKeys := none :: keys }
  | _ => return ()

/-- Notes that a key may begin here. -/
def noteKey : Lexing Unit := do
  let s ← get
  if s.keyAllowed then
    dropKey
    let key : PossibleKey := ⟨s.flowLevel = 0 && s.indent == s.column, s.tokens.size, s.index,
      s.line, s.column⟩
    modify fun s => { s with possibleKeys := some key :: s.possibleKeys.drop 1 }

/-- Keys end on the line they begin on and are at most 1024 characters long. -/
def expireKeys : Lexing Unit := do
  let s ← get
  let isOld (key : PossibleKey) : Bool := key.line < s.line || s.index > key.index + 1024
  if s.possibleKeys.any fun k => k.any fun key => isOld key && key.required then failure
  set { s with possibleKeys := s.possibleKeys.map (Option.filter (! isOld ·)) }

def allowKey (b : Bool) : Lexing Unit :=
  modify fun s => { s with keyAllowed := b }

end Lexing

end SyncScript.Yaml
