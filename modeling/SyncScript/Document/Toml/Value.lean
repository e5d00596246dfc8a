import SyncScript.Document.Scalar
import SyncScript.Document.Toml.Table
import SyncScript.Text.Scanner

/-!
# TOML values

Strings in four forms, numbers, dates, arrays and inline tables, as version 1.0 of the language
has them. An inline table stands on one line and has no comma at its end.
-/

namespace SyncScript.Toml

open Scanner

/-- A space or a tab. -/
def isBlank (c : Char) : Bool :=
  c == ' ' || c == '\t'

/-- What may stand in a comment: anything but controls, the tab excepted. -/
def isPrintable (c : Char) : Bool :=
  c == '\t' || (0x20 ≤ c.toNat && c.toNat != 0x7F)

def blanks : Scanner Unit := do
  let _ ← many isBlank

def newline : Scanner Unit := do
  let _ ← accept "\r"
  expect "\n"

def comment? : Scanner Bool := do
  if ← accept "#" then
    let _ ← many isPrintable
    return true
  else return false

/-- Blanks, line ends and comments, each comment on a line that ends. -/
def gap : Scanner Unit := do
  let _ ← repeated do
    blanks
    match ← peek? with
    | some '#' =>
      let _ ← comment?
      newline
      return some ()
    | some '\n' | some '\r' =>
      newline
      return some ()
    | _ => return none

/-- The character with a number in hexadecimal digits. -/
def numbered (digits : Nat) : Scanner Char := do
  let cs ← exactly digits fun c => (Scalar.digitValue? 16 c).isSome
  match Scalar.natural? 16 cs with
  | some n => if n.isValidChar then return Char.ofNat n else failure
  | none => failure

/-- The character that an escape stands for, after its backslash. -/
def escaped : Scanner Char := do
  match ← one fun _ => true with
  | 'b' => return '\x08'
  | 't' => return '\t'
  | 'n' => return '\n'
  | 'f' => return '\x0c'
  | 'r' => return '\r'
  | '"' => return '"'
  | '\\' => return '\\'
  | 'u' => numbered 4
  | 'U' => numbered 8
  | _ => failure

/-- The rest of a string on one line, up to its quote. -/
def shortText (quote : Char) (escapes : Bool) : Scanner String := do
  let cs ← repeated do
    let c ← one isPrintable
    if c == quote then return none
    else if c == '\\' && escapes then return some (← escaped)
    else return some c
  return String.ofList cs

/-- A backslash at the end of a line takes away the line end and all blanks after it. -/
def continuation : Scanner Unit := do
  blanks
  newline
  let _ ← many fun c => isBlank c || c == '\n' || c == '\r'

/-- The rest of a string over several lines, up to three quotes. One or two quotes may stand
directly before these. -/
def longText (quote : Char) (escapes : Bool) : Scanner String := do
  let _ ← attempt newline
  let parts ← repeated do
    let quotes ← many (· == quote)
    if 5 < quotes.length then failure
    else if 3 ≤ quotes.length then
      set (quotes.drop (quotes.length - 3) ++ (← get))
      if quotes.length = 3 then
        expect (String.ofList quotes)
        return none
      else return some (quotes.drop 3)
    else if ! quotes.isEmpty then return some quotes
    else
      match ← peek? with
      | some '\n' | some '\r' =>
        newline
        return some ['\n']
      | _ =>
        let c ← one isPrintable
        if c == '\\' && escapes then
          if (← attempt continuation).isSome then return some []
          else return some [← escaped]
        else return some [c]
  return String.ofList parts.flatten

/-- A string in one of the four forms. -/
def textValue : Scanner String := do
  if ← accept "\"\"\"" then longText '"' true
  else if ← accept "'''" then longText '\'' false
  else if ← accept "\"" then shortText '"' true
  else
    expect "'"
    shortText '\'' false

def isNumberOf (low high : Nat) (cs : List Char) : Bool :=
  match Scalar.natural? 10 cs with
  | some n => low ≤ n && n ≤ high
  | none => false

def pair (low high : Nat) : Scanner Unit := do
  require (isNumberOf low high (← exactly 2 Char.isDigit))

def timeOfDay : Scanner Unit := do
  pair 0 23
  expect ":"
  pair 0 59
  expect ":"
  pair 0 60
  if ← accept "." then
    let _ ← many1 Char.isDigit

def offset : Scanner Unit := do
  match ← one fun c => "Zz+-".toList.contains c with
  | 'Z' | 'z' => return ()
  | _ =>
    pair 0 23
    expect ":"
    pair 0 59

def isLeapYear (year : Nat) : Bool :=
  year % 4 == 0 && (year % 100 != 0 || year % 400 == 0)

def daysInMonth (year month : Nat) : Nat :=
  if month = 2 then if isLeapYear year then 29 else 28
  else if [4, 6, 9, 11].contains month then 30
  else 31

/-- A calendar date, perhaps with a time of day and the distance from universal time. -/
def calendarDate : Scanner Unit := do
  let year ← exactly 4 Char.isDigit
  expect "-"
  let month ← exactly 2 Char.isDigit
  expect "-"
  let day ← exactly 2 Char.isDigit
  let number cs := (Scalar.natural? 10 cs).getD 0
  require (isNumberOf 1 12 month)
  require (isNumberOf 1 (daysInMonth (number year) (number month)) day)
  let _ ← attempt do
    let _ ← one fun c => c == 'T' || c == 't' || c == ' '
    timeOfDay
    let _ ← attempt offset

def date : Scanner Document := do
  if (← attempt calendarDate).isNone then timeOfDay
  return .date

/-- Digits with underscores between them. -/
def digits (isDigit : Char → Bool) : Scanner (List Char) := do
  let first ← one isDigit
  let rest ← repeated do
    match ← get with
    | '_' :: _ =>
      expect "_"
      return some (← one isDigit)
    | c :: _ => if isDigit c then return some (← one isDigit) else return none
    | [] => return none
  return first :: rest

def sign : Scanner Bool := do
  if ← accept "-" then return true
  let _ ← accept "+"
  return false

/-- Decimal digits without a leading zero. -/
def wholeDigits : Scanner (List Char) := do
  if ← accept "0" then return ['0'] else digits Char.isDigit

def integerValue (n : Int) : Scanner Document := do
  require (fitsSigned 64 n)
  return .integer n

/-- Digits after the mark of a base. -/
def markedInteger (base : Nat) : Scanner Document := do
  let cs ← digits fun c => (Scalar.digitValue? base c).isSome
  integerValue (Int.ofNat ((Scalar.natural? base cs).getD 0))

/-- A number without a mark, with a fraction if a point or an exponent follows its digits. -/
def decimalNumber : Scanner Document := do
  let negative ← sign
  if ← accept "inf" then return .fraction (.infinite negative)
  if ← accept "nan" then return .fraction .notANumber
  let whole ← wholeDigits
  let places ← if ← accept "." then some <$> digits Char.isDigit else pure none
  let hasExponent ← if ← accept "e" then pure true else accept "E"
  let power ← if hasExponent then
      let down ← sign
      let n := ((Scalar.natural? 10 (← digits Char.isDigit)).getD 0 : Int)
      pure (if down then -n else n)
    else pure 0
  let all := (Scalar.natural? 10 (whole ++ places.getD [])).getD 0
  if places.isNone && ! hasExponent then
    integerValue (if negative then - (all : Int) else all)
  else
    let exponent := power - (places.getD []).length
    match Decimal.nearest all exponent with
    | some _ => return .fraction (.finite ⟨negative, all, exponent⟩)
    | none =>
      require negative
      return .fraction (.infinite true)

def number : Scanner Document := do
  match ← attempt date with
  | some d => return d
  | none =>
    if ← accept "0x" then markedInteger 16
    else if ← accept "0o" then markedInteger 8
    else if ← accept "0b" then markedInteger 2
    else decimalNumber

def isBareKeyChar (c : Char) : Bool :=
  c.isAlphanum || c == '_' || c == '-'

def simpleKey : Scanner String := do
  if ← accept "\"" then shortText '"' true
  else if ← accept "'" then shortText '\'' false
  else return String.ofList (← many1 isBareKeyChar)

/-- The most parts of a dotted key, and the deepest nesting of values. -/
def maxNesting : Nat := 79

/-- Keys joined by dots, the last one apart from those before it. -/
def dottedKey : Scanner (List String × String) := do
  blanks
  let first ← simpleKey
  blanks
  let rest ← repeated do
    if ← accept "." then
      blanks
      let key ← simpleKey
      blanks
      return some key
    else return none
  require (rest.length < maxNesting)
  return ((first :: rest).dropLast, rest.getLastD first)

/-- A key and its value, with a scanner for the value. -/
def keyValue (value : Scanner Document) : Scanner ((List String × String) × Document) := do
  let key ← dottedKey
  expect "="
  blanks
  let d ← value
  blanks
  return (key, d)

/-- The rest of an array, after its bracket. -/
def arrayItems (value : Scanner Document) : Scanner Document := do
  gap
  if ← accept "]" then return .sequence []
  let first ← value
  gap
  let rest ← repeated do
    if ← accept "]" then return none
    expect ","
    gap
    if (← peek?) = some ']' then return some []
    let d ← value
    gap
    return some [d]
  return .sequence (first :: rest.flatten)

/-- The rest of an inline table, after its brace. -/
def inlineTable (value : Scanner Document) : Scanner Document := do
  blanks
  if ← accept "\x7d" then return .mapping []
  let first ← keyValue value
  let rest ← repeated do
    if ← accept "\x7d" then return none
    expect ","
    return some (← keyValue value)
  let table? := (first :: rest).foldlM (fun (t : Table) ((path, key), d) => t.define path key d) {}
  match table? with
  | some t => return .mapping (entriesDocument t.entries)
  | none => failure

/-- A value, with scanners for what follows an opening bracket and an opening brace. -/
def valueWith (list table : Scanner Document) : Scanner Document := do
  match ← peek? with
  | some '"' | some '\'' => return .text (← textValue)
  | some 't' =>
    expect "true"
    return .bool true
  | some 'f' =>
    expect "false"
    return .bool false
  | some '[' =>
    expect "["
    list
  | some '\x7b' =>
    expect "\x7b"
    table
  | _ => number

/-- A value with at most so many levels of nesting. -/
def value : Nat → Scanner Document
  | 0 => valueWith failure failure
  | depth + 1 => valueWith (arrayItems (value depth)) (inlineTable (value depth))

end SyncScript.Toml
