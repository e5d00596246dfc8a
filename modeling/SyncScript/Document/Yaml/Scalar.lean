import SyncScript.Document.Scalar
import SyncScript.Document.Yaml.Lexer

/-!
# YAML scalars

Scalars without quotes and in quotes may go over several lines: one line break between two lines
of text is a space, and of more than one break the first is dropped. Block scalars keep their
lines or fold them in the same way.
-/

namespace SyncScript.Yaml

open Lexing

/-- A text that is being read, with the blanks and breaks that follow it so far. -/
structure Folding where
  text : List Char := []
  blanks : List Char := []
  broken : Bool := false
  firstBreak : List Char := []
  breaks : List Char := []

namespace Folding

/-- Adds the blanks and breaks to the text, folding the breaks. -/
def join (f : Folding) : Folding :=
  let gap :=
    if ! f.broken then f.blanks
    else if f.firstBreak = ['\n'] then if f.breaks.isEmpty then [' '] else f.breaks
    else f.firstBreak ++ f.breaks
  { text := f.text ++ gap }

def push (f : Folding) (cs : List Char) : Folding :=
  { f with text := f.text ++ cs }

end Folding

/-- Takes blanks and breaks after a text. With a least column, tabs before it are an error. -/
def takeGap (least? : Option Int) (f : Folding) : Lexing Folding :=
  repeating (fun (f : Folding) => do
    match ← peek? with
    | some c =>
      if isBlank c then
        let column : Int := (← get).column
        if f.broken && c == '\t' && least?.any (column < ·) then failure
        skip
        return (if f.broken then f else { f with blanks := f.blanks ++ [c] }, true)
      else if isBreak c then
        let kept ← takeBreak
        return (if f.broken then { f with breaks := f.breaks ++ kept }
          else { f with blanks := [], broken := true, firstBreak := kept }, true)
      else return (f, false)
    | none => return (f, false)) f

def isFlowMark (c : Char) : Bool :=
  ",[]\x7b\x7d".toList.contains c

/-- Takes the characters of a scalar without quotes up to a gap or a mark that ends it. -/
def plainWord (f : Folding) : Lexing (Folding × Bool) := do
  let inFlow := (← get).flowLevel ≠ 0
  match ← rest with
  | [] => return (f, false)
  | c :: cs =>
    if isBlank c || isBreak c then return (f, false)
    else if inFlow && c == ':' && cs.head?.any (fun d => isFlowMark d || d == '?') then failure
    else if (c == ':' && atGap cs) || (inFlow && isFlowMark c) then return (f, false)
    else
      skip
      return ((if f.broken || ! f.blanks.isEmpty then f.join else f).push [c], true)

/-- A scalar without quotes. A key may begin after it only if a line break does. -/
def plainScalar : Lexing Token := do
  let least := (← get).indent + 1
  let f ← repeating (fun (f : Folding) => do
    let s ← get
    if (s.column = 0 && atDocumentMark s.rest) || s.rest.head? = some '#' then return (f, false)
    let f ← repeating plainWord f
    if ! (← rest).head?.any (fun c => isBlank c || isBreak c) then return (f, false)
    let f ← takeGap (some least) f
    let s ← get
    return (f, s.flowLevel ≠ 0 || decide (least ≤ (s.column : Int)))) {}
  if f.broken then allowKey true
  return .scalar (String.ofList f.text) true

/-- The character with a number in hexadecimal digits. -/
def numbered (digits : Nat) : Lexing (List Char) := do
  let cs := (← rest).take digits
  match Scalar.natural? 16 cs with
  | some n =>
    if cs.length = digits && n.isValidChar then
      skip digits
      return [Char.ofNat n]
    else failure
  | none => failure

/-- What an escape stands for, after its backslash. -/
def escaped : Lexing (List Char) := do
  match ← peek? with
  | none => failure
  | some c =>
    skip
    match c with
    | '0' => return ['\x00']
    | 'a' => return ['\x07']
    | 'b' => return ['\x08']
    | 't' | '\t' => return ['\t']
    | 'n' => return ['\n']
    | 'v' => return ['\x0b']
    | 'f' => return ['\x0c']
    | 'r' => return ['\r']
    | 'e' => return ['\x1b']
    | ' ' | '"' | '/' | '\\' => return [c]
    | 'N' => return ['\u0085']
    | '_' => return ['\u00a0']
    | 'L' => return ['\u2028']
    | 'P' => return ['\u2029']
    | 'x' => numbered 2
    | 'u' => numbered 4
    | 'U' => numbered 8
    | _ => failure

/-- Takes the characters of a scalar in quotes up to a gap or the closing quote. -/
def quotedWord (quote : Char) (f : Folding) : Lexing (Folding × Bool) := do
  match ← rest with
  | [] => return (f, false)
  | c :: cs =>
    if isBlank c || isBreak c then return (f, false)
    else if c == quote then
      if quote == '\'' && cs.head? = some quote then
        skip 2
        return (f.push [quote], true)
      else return (f, false)
    else if quote == '"' && c == '\\' then
      skip
      if cs.head?.any isBreak then
        let _ ← takeBreak
        return ({ f with broken := true }, false)
      else return (f.push (← escaped), true)
    else
      skip
      return (f.push [c], true)

/-- A scalar in quotes, from its opening quote on. -/
def quotedScalar (quote : Char) : Lexing Token := do
  skip
  let f ← repeating (fun (f : Folding) => do
    let s ← get
    if s.column = 0 && atDocumentMark s.rest then failure
    if s.rest.isEmpty then failure
    let f ← repeating (quotedWord quote) f
    if (← peek?) = some quote then return (f, false)
    return ((← takeGap none f).join, true)) {}
  skip
  return .scalar (String.ofList f.text) false

/-- How a block scalar ends: without its last break, with it, or with all breaks after it. -/
inductive Chomping where
  | strip
  | clip
  | keep
  deriving DecidableEq

def chomping? : Lexing (Option Chomping) := do
  match ← peek? with
  | some '+' =>
    skip
    return some .keep
  | some '-' =>
    skip
    return some .strip
  | _ => return none

/-- The indentation of a block scalar beyond the block around it; 0 when it is not given. -/
def indentation : Lexing Nat := do
  match ← peek? with
  | some c =>
    if c == '0' then failure
    else if c.isDigit then
      skip
      return c.toNat - '0'.toNat
    else return 0
  | none => return 0

/-- Takes blanks and a comment up to the end of the line, and the break there. -/
def endLine : Lexing Unit := do
  let _ ← skipWhile isBlank
  if (← peek?) = some '#' then
    let _ ← skipWhile (! isBreak ·)
  if ! atBreak (← rest) then failure
  let _ ← takeBreak

/-- Takes the indentation and the empty lines before a line of a block scalar, and gives the
breaks and the furthest column reached. An indentation of 0 is not known yet. -/
def blockBreaks (indent : Nat) : Lexing (List Char × Nat) :=
  repeating (fun ((breaks, furthest) : List Char × Nat) => do
    let column := (← get).column
    let spaces := ((← rest).takeWhile (· == ' ')).length
    skip (if indent = 0 then spaces else min spaces (indent - column))
    let column := (← get).column
    let furthest := max furthest column
    match ← peek? with
    | some c =>
      if (indent = 0 || column < indent) && c == '\t' then failure
      else if isBreak c then return ((breaks ++ (← takeBreak), furthest), true)
      else return ((breaks, furthest), false)
    | none => return ((breaks, furthest), false)) ([], 0)

/-- A block scalar whose lines are being read. -/
structure BlockLines where
  text : List Char := []
  firstBreak : List Char := []
  breaks : List Char
  afterBlank : Bool := false

/-- Takes one line of a block scalar, and the indentation and breaks after it. -/
def blockLine (folded : Bool) (indent : Nat) (b : BlockLines) : Lexing (BlockLines × Bool) := do
  let s ← get
  if s.column ≠ indent || s.rest.isEmpty then return (b, false)
  let startsBlank := s.rest.head?.any isBlank
  let gap :=
    if folded && b.firstBreak = ['\n'] && ! b.afterBlank && ! startsBlank then
      if b.breaks.isEmpty then [' '] else b.breaks
    else b.firstBreak ++ b.breaks
  let line ← skipWhile (! isBreak ·)
  let firstBreak ← takeBreak
  let (breaks, _) ← blockBreaks indent
  return ({ text := b.text ++ gap ++ line, firstBreak, breaks, afterBlank := startsBlank }, true)

/-- A block scalar, from its mark on. -/
def blockScalar (folded : Bool) : Lexing Token := do
  skip
  let before? ← chomping?
  let increment ← indentation
  let chomping? ← match before? with
    | some chomping => pure (some chomping)
    | none => if increment = 0 then pure none else chomping?
  endLine
  let outer := (← get).indent
  let given := if increment = 0 then 0 else outer.toNat + increment
  let (breaks, furthest) ← blockBreaks given
  let indent := if given = 0 then max (max furthest (outer + 1).toNat) 1 else given
  let b ← repeating (blockLine folded indent) { breaks }
  let text := match chomping?.getD .clip with
    | .strip => b.text
    | .clip => b.text ++ b.firstBreak
    | .keep => b.text ++ b.firstBreak ++ b.breaks
  return .scalar (String.ofList text) false

end SyncScript.Yaml
