import SyncScript.Document.Yaml.Scalar

/-!
# YAML tokens

The tokens of a text, up to its end. Which token comes next is decided by one or two characters,
the column and whether a flow collection is open.
-/

namespace SyncScript.Yaml

open Lexing

/-- Takes blanks, comments and breaks. Tabs do not count as blanks where a key may begin. -/
def toNextToken : Lexing Unit :=
  repeating (fun () => do
    let s ← get
    if s.column = 0 && s.rest.head? = some '\ufeff' then skip
    let tabs := s.flowLevel ≠ 0 || ! s.keyAllowed
    let _ ← skipWhile fun c => c == ' ' || (tabs && c == '\t')
    if (← peek?) = some '#' then
      let _ ← skipWhile (! isBreak ·)
    if (← rest).head?.any isBreak then
      let _ ← takeBreak
      if s.flowLevel = 0 then allowKey true
      return ((), true)
    else return ((), false)) ()

def isUriChar (inner : Bool) (c : Char) : Bool :=
  isNameChar c || ";/?:@&=+$.!~*'()%".toList.contains c || (inner && ",[]".toList.contains c)

/-- The bytes of a text in which `%` stands before the digits of a byte. -/
def unescapedBytes : List Char → Option (List UInt8)
  | [] => some []
  | '%' :: a :: b :: cs => do
    let n ← Scalar.natural? 16 [a, b]
    return n.toUInt8 :: (← unescapedBytes cs)
  | '%' :: _ => none
  | c :: cs => do
    return (String.ofList [c]).toUTF8.toList ++ (← unescapedBytes cs)

/-- Characters of a tag, with the escapes in them resolved. -/
def uri (inner : Bool) : Lexing String := do
  let cs ← skipWhile (isUriChar inner)
  match (unescapedBytes cs).bind fun bytes => String.fromUTF8? ⟨bytes.toArray⟩ with
  | some s => return s
  | none => failure

/-- An exclamation mark and a name, perhaps with a second mark. -/
def handle : Lexing String := do
  if (← peek?) ≠ some '!' then failure
  skip
  let name ← skipWhile isNameChar
  if (← peek?) = some '!' then
    skip
    return String.ofList ('!' :: name ++ ['!'])
  else return String.ofList ('!' :: name)

def tagToken : Lexing Token := do
  let (h, suffix) ←
    if ['!', '<'].isPrefixOf (← rest) then do
      skip 2
      let suffix ← uri true
      if (← peek?) ≠ some '>' || suffix.isEmpty then failure
      skip
      pure ("", suffix)
    else do
      let h ← handle
      let suffix ← uri false
      if 1 < h.length && h.toList.getLast? = some '!' then
        if suffix.isEmpty then failure
        pure (h, suffix)
      else
        let name := String.ofList (h.toList.drop 1) ++ suffix
        pure (if name.isEmpty then ("", "!") else ("!", name))
  let s ← get
  if ! atGap s.rest && ! (s.flowLevel ≠ 0 && s.rest.head? = some ',') then failure
  return .tag h suffix

/-- The name of an anchor or a reference, after its mark. -/
def anchorName : Lexing String := do
  skip
  let name ← skipWhile isNameChar
  let cs ← rest
  if name.isEmpty || ! (atGap cs || cs.head?.any ("?:,]\x7d%@\x60".toList.contains ·)) then failure
  return String.ofList name

def versionNumber : Lexing Nat := do
  let digits ← skipWhile Char.isDigit
  if 9 < digits.length then failure
  match Scalar.natural? 10 digits with
  | some n => return n
  | none => failure

def directive : Lexing Token := do
  skip
  let name ← skipWhile isNameChar
  if ! atGap (← rest) then failure
  let token ← match String.ofList name with
    | "YAML" =>
      let _ ← skipWhile isBlank
      let major ← versionNumber
      if (← peek?) ≠ some '.' then failure
      skip
      pure (.versionDirective major (← versionNumber))
    | "TAG" =>
      let _ ← skipWhile isBlank
      let h ← handle
      if h ≠ "!" && h.toList.getLast? ≠ some '!' then failure
      let gap ← skipWhile isBlank
      if gap.isEmpty then failure
      let start ← uri true
      if start.isEmpty || ! atGap (← rest) then failure
      pure (.tagDirective h start)
    | _ => failure
  endLine
  return token

/-- A mark of one character that opens a flow collection. -/
def openFlow (t : Token) : Lexing Unit := do
  noteKey
  modify fun s => { s with flowLevel := s.flowLevel + 1, possibleKeys := none :: s.possibleKeys }
  allowKey true
  skip
  emit t

def closeFlow (t : Token) : Lexing Unit := do
  dropKey
  modify fun s =>
    if s.flowLevel = 0 then s
    else { s with flowLevel := s.flowLevel - 1, possibleKeys := s.possibleKeys.drop 1 }
  allowKey false
  skip
  emit t

def flowEntry : Lexing Unit := do
  dropKey
  allowKey true
  skip
  emit .flowEntry

/-- In a block, opens a collection at this column; only where a key may begin. -/
def openHere (t : Token) : Lexing Unit := do
  let s ← get
  if s.flowLevel = 0 then
    if ! s.keyAllowed then failure
    openBlock s.column s.tokens.size t

def blockEntry : Lexing Unit := do
  openHere .blockSequenceStart
  dropKey
  allowKey true
  skip
  emit .blockEntry

def explicitKey : Lexing Unit := do
  openHere .blockMappingStart
  dropKey
  allowKey ((← get).flowLevel = 0)
  skip
  emit .key

/-- A colon makes a key of what is before it, if a key may have begun there. -/
def valueMark : Lexing Unit := do
  let s ← get
  match s.possibleKeys with
  | some key :: keys =>
    emitAt key.tokenNumber .key
    openBlock key.column key.tokenNumber .blockMappingStart
    modify fun s => { s with possibleKeys := none :: keys, keyAllowed := false }
  | _ =>
    openHere .blockMappingStart
    allowKey (s.flowLevel = 0)
  skip
  emit .value

def documentMark (t : Token) : Lexing Unit := do
  closeBlocks (-1)
  dropKey
  allowKey false
  skip 3
  emit t

/-- A token that a key may consist of. -/
def keyPart (read : Lexing Token) : Lexing Unit := do
  noteKey
  allowKey false
  emit (← read)

def block (folded : Bool) : Lexing Unit := do
  dropKey
  allowKey true
  emit (← blockScalar folded)

/-- Whether a scalar without quotes may begin here. -/
def startsPlain (inFlow : Bool) : List Char → Bool
  | [] => false
  | c :: cs =>
    ! (isBlank c || isBreak c || "-?:,[]\x7b\x7d#&*!|>'\"%@\x60".toList.contains c) ||
      (c == '-' && ! cs.head?.any isBlank) ||
      (! inFlow && (c == '?' || c == ':') && ! atGap cs)

/-- Takes the next token; says no at the end of the text. -/
def nextToken : Lexing Bool := do
  toNextToken
  expireKeys
  let column := (← get).column
  closeBlocks column
  let s ← get
  let inFlow := s.flowLevel ≠ 0
  let taking (l : Lexing Unit) : Lexing Bool := do
    l
    return true
  match s.rest with
  | [] =>
    closeBlocks (-1)
    dropKey
    return false
  | c :: cs =>
    if column = 0 && c == '%' then taking do
      closeBlocks (-1)
      dropKey
      allowKey false
      emit (← directive)
    else if column = 0 && atDocumentMark s.rest then
      taking (documentMark (if c == '-' then .documentStart else .documentEnd))
    else if c == '[' then taking (openFlow .flowSequenceStart)
    else if c == '\x7b' then taking (openFlow .flowMappingStart)
    else if c == ']' then taking (closeFlow .flowSequenceEnd)
    else if c == '\x7d' then taking (closeFlow .flowMappingEnd)
    else if c == ',' then taking flowEntry
    else if c == '-' && atGap cs then taking blockEntry
    else if c == '?' && (inFlow || atGap cs) then taking explicitKey
    else if c == ':' && (inFlow || atGap cs) then taking valueMark
    else if c == '*' then taking (keyPart (.reference <$> anchorName))
    else if c == '&' then taking (keyPart (.anchor <$> anchorName))
    else if c == '!' then taking (keyPart tagToken)
    else if (c == '|' || c == '>') && ! inFlow then taking (block (c == '>'))
    else if c == '\'' || c == '"' then taking (keyPart (quotedScalar c))
    else if startsPlain inFlow s.rest then taking (keyPart plainScalar)
    else failure

/-- The tokens of a text, `none` where no token can begin. -/
def tokens? (text : String) : Option (List Token) := do
  let cs := text.toList
  if ! cs.all isAllowed then none
  let ((), s) ← repeating (fun () => do return ((), ← nextToken)) () { rest := cs }
  return s.tokens.toList

end SyncScript.Yaml
