import SyncScript.Document.Basic
import SyncScript.Text.Basic

/-!
# Plain scalars

A scalar without quotes is a null, a boolean, a number or a text by its spelling alone. Numbers
are decimal, or have one of the marks `0x`, `0o` and `0b`; digits after a leading zero make no
number.
-/

namespace SyncScript.Scalar

def isNull (s : String) : Bool :=
  ["null", "Null", "NULL", "~"].contains s

def bool? (s : String) : Option Bool :=
  if ["true", "True", "TRUE"].contains s then some true
  else if ["false", "False", "FALSE"].contains s then some false
  else none

def digitValue? (base : Nat) (c : Char) : Option Nat :=
  let value :=
    if c.isDigit then some (c.toNat - '0'.toNat)
    else if c.isAlpha then some (c.toLower.toNat - 'a'.toNat + 10)
    else none
  value.filter (· < base)

/-- A number without a sign, written in digits alone. -/
def natural? (base : Nat) (cs : List Char) : Option Nat :=
  if cs.isEmpty then none
  else cs.foldlM (fun n c => (digitValue? base c).map (n * base + ·)) 0

/-- A number whose digits follow the mark of their base. -/
def marked? : List Char → Option Nat
  | '0' :: 'x' :: cs => natural? 16 cs
  | '0' :: 'o' :: cs => natural? 8 cs
  | '0' :: 'b' :: cs => natural? 2 cs
  | _ => none

/-- Digits that begin with a zero and are more than one, with or without a sign. -/
def isPadded (cs : List Char) : Bool :=
  let digits := match cs with
    | '-' :: rest | '+' :: rest => rest
    | cs => cs
  match digits with
  | '0' :: c :: rest => (c :: rest).all Char.isDigit
  | _ => false

/-- Integers have at most 128 bits. -/
def integer? (cs : List Char) : Option Int :=
  let unsigned (digits : List Char) : Option Int :=
    (marked? digits <|> if isPadded cs then none else natural? 10 digits).map Int.ofNat
  let value := match cs with
    | '-' :: digits => (unsigned digits).map (- ·)
    | '+' :: digits => unsigned digits
    | digits => unsigned digits
  value.filter (fits 128)

/-- Digits with a point among them or beside them, and perhaps an exponent. -/
def decimal? (negative : Bool) (cs : List Char) : Option Decimal :=
  let whole := cs.takeWhile Char.isDigit
  let (places, rest) := match cs.dropWhile Char.isDigit with
    | '.' :: rest => (rest.takeWhile Char.isDigit, rest.dropWhile Char.isDigit)
    | rest => ([], rest)
  let exponent? : Option Int := match rest with
    | [] => some 0
    | e :: power =>
      if e != 'e' && e != 'E' then none
      else match power with
        | '-' :: digits => (natural? 10 digits).map fun n => - (n : Int)
        | '+' :: digits => (natural? 10 digits).map Int.ofNat
        | digits => (natural? 10 digits).map Int.ofNat
  match natural? 10 (whole ++ places), exponent? with
  | some digits, some exponent => some ⟨negative, digits, exponent - places.length⟩
  | _, _ => none

def fraction? (s : String) : Option Fraction :=
  if [".nan", ".NaN", ".NAN"].contains s then some .notANumber
  else if [".inf", ".Inf", ".INF", "+.inf", "+.Inf", "+.INF"].contains s then some (.infinite false)
  else if ["-.inf", "-.Inf", "-.INF"].contains s then some (.infinite true)
  else
    let value := match s.toList with
      | '-' :: digits => decimal? true digits
      | '+' :: digits => decimal? false digits
      | digits => decimal? false digits
    (value.filter fun d => (Decimal.nearest d.digits d.exponent).isSome).map .finite

/-- What a plain scalar is by its spelling. -/
def resolve (s : String) : Found :=
  if s.isEmpty || isNull s then .null
  else if let some b := bool? s then .bool b
  else if let some n := integer? s.toList then .integer n
  else if isPadded s.toList then .text s
  else if let some x := fraction? s then .fraction x
  else .text s

/-- What the tags that every document may use begin with. -/
def standardTag : String :=
  "tag:yaml.org,2002:"

/-- The types that tags give to scalars, and their names in messages. -/
inductive TaggedType where
  | null
  | bool
  | integer
  | fraction
  | text
  deriving DecidableEq

def TaggedType.ofTag (tag : String) : TaggedType :=
  if tag = standardTag ++ "null" then .null
  else if tag = standardTag ++ "bool" then .bool
  else if tag = standardTag ++ "int" then .integer
  else if tag = standardTag ++ "float" then .fraction
  else .text

def TaggedType.name : TaggedType → String
  | .null => "null"
  | .bool => "a boolean"
  | .integer => "an integer"
  | .fraction => "a float"
  | .text => "a string"

/-- A scalar as a value of a type, `none` when it is not spelled like one. -/
def TaggedType.value? (type : TaggedType) (s : String) : Option Found :=
  match type with
  | .null => if isNull s then some .null else none
  | .bool => (bool? s).map .bool
  | .integer => (integer? s.toList).map .integer
  | .fraction => (fraction? s).map .fraction
  | .text => some (.text s)

/-- Whether a tag names an alternative, not a type. -/
def isOwnTag (tag : String) : Bool :=
  Text.beginsWith tag "!"

end SyncScript.Scalar
