import SyncScript.Document.Scalar

/-!
# Reading documents

A schema lists the fields of a record and how each is read. Reading goes through a document in
its own order and stops at the first value that does not fit, so the fault that is reported is the
first one that a reader of the text would meet.
-/

namespace SyncScript

/-- The markup languages that documents are written in. They differ in how records and alternatives
may be written and in the wording of faults. -/
inductive Markup where
  | json
  | toml
  | yaml
  deriving DecidableEq

inductive ReadFault where
  | missingField (name : String)
  | repeatedField (name : String)
  | unknownVariant (given : String) (known : List String)
  | invalidType (found : Found) (wanted : String)
  | invalidValue (given wanted : String)
  | notSingleKey
  | entryCount (isEmpty : Bool)
  | neitherTextNorTable
  | notEmpty (kind : String)
  | notTable (found : String)
  | wrongLength (given : Nat) (wanted : String)
  deriving DecidableEq

/-- One step from a value to a value inside it. -/
inductive Step where
  | field (name : String)
  | index (i : Nat)
  deriving DecidableEq

structure ReadError where
  place : List Step
  fault : ReadFault
  deriving DecidableEq

namespace ReadFault

/-- A list of names in a message, each between backticks. -/
def quotedNames (names : List String) : String :=
  ", ".intercalate (names.map fun n => "`" ++ n ++ "`")

def message (null : String) : ReadFault → String
  | missingField name => "missing field `" ++ name ++ "`"
  | repeatedField name => "duplicate field `" ++ name ++ "`"
  | unknownVariant given known =>
    "unknown variant `" ++ given ++ "`, expected one of " ++ quotedNames known
  | invalidType found wanted => "invalid type: " ++ found.name null ++ ", expected " ++ wanted
  | invalidValue given wanted =>
    "invalid value: string " ++ Text.quoted given ++ ", expected " ++ wanted
  | notSingleKey => "invalid value: map, expected map with a single key"
  | entryCount true => "wanted exactly 1 element, found 0 elements"
  | entryCount false => "wanted exactly 1 element, more than 1 element"
  | neitherTextNorTable => "wanted string or table"
  | notEmpty kind => "expected empty " ++ kind
  | notTable found => "expected table, found " ++ found
  | wrongLength given wanted => "invalid length " ++ toString given ++ ", expected " ++ wanted

end ReadFault

namespace ReadError

/-- The place of an error as a path: names joined by dots, positions in brackets. -/
def placeText (place : List Step) : String :=
  place.foldl (fun path step =>
    match step with
    | .field name => if path.isEmpty then name else path ++ "." ++ name
    | .index i => path ++ "[" ++ toString i ++ "]") ""

/-- The text of an error. Only YAML says where it is. -/
def message (markup : Markup) (e : ReadError) : String :=
  match markup with
  | .json | .toml => e.fault.message "null"
  | .yaml =>
    let text := e.fault.message "unit value"
    if e.place.isEmpty then text else placeText e.place ++ ": " ++ text

end ReadError

abbrev Reading (α : Type) := Except ReadError α

namespace Reading

def fail {α : Type} (fault : ReadFault) : Reading α :=
  .error ⟨[], fault⟩

/-- Places the errors of a reader one step further in. -/
def inside {α : Type} (step : Step) (r : Reading α) : Reading α :=
  match r with
  | .ok a => .ok a
  | .error e => .error ⟨step :: e.place, e.fault⟩

end Reading

namespace Document

/-- What a document is where something else is wanted. -/
def found : Document → Found
  | null => .null
  | bool b => .bool b
  | integer n => .integer n
  | fraction x => .fraction x
  | text s => .text s
  | plain s => Scalar.resolve s
  | date | mapping _ => .mapping
  | sequence _ => .sequence
  | tagged tag (plain s) =>
    if Scalar.isOwnTag tag then Scalar.resolve s
    else ((Scalar.TaggedType.ofTag tag).value? s).getD (.text s)
  | tagged tag (text s) =>
    if Scalar.isOwnTag tag then .text s else ((Scalar.TaggedType.ofTag tag).value? s).getD (.text s)
  | tagged _ value => value.found

/-- A scalar that is not of the type its tag says, with this type. -/
def mistagged? : Document → Option (String × Scalar.TaggedType)
  | tagged tag (plain s) | tagged tag (text s) =>
    let type := Scalar.TaggedType.ofTag tag
    if (type.value? s).isSome then none else some (s, type)
  | _ => none

def mismatch {α : Type} (d : Document) (wanted : String) : Reading α :=
  match d.mistagged? with
  | some (s, type) => Reading.fail (.invalidValue s type.name)
  | none => Reading.fail (.invalidType d.found wanted)

/-- The text of a scalar that is written as a text or without quotes. -/
def text? : Document → Option String
  | text s | plain s => some s
  | tagged _ value => value.text?
  | _ => none

def readText (d : Document) : Reading String :=
  match d.text? with
  | some s => .ok s
  | none => d.mismatch "a string"

def readBool (d : Document) : Reading Bool :=
  match d with
  | bool b => .ok b
  | plain s | tagged _ (plain s) =>
    match Scalar.bool? s with
    | some b => .ok b
    | none => d.mismatch "a boolean"
  | d => d.mismatch "a boolean"

/-- Whether an optional value is left unset. -/
def isUnset : Document → Bool
  | null => true
  | plain s => s.isEmpty || Scalar.isNull s
  | tagged tag (plain s) => Scalar.TaggedType.ofTag tag = .null && Scalar.isNull s
  | _ => false

/-- Whether a scalar is tagged as a null without being one. -/
def isFalseNull : Document → Bool
  | tagged tag (plain s) => Scalar.TaggedType.ofTag tag = .null && ! Scalar.isNull s
  | _ => false

/-- Reads an optional value. -/
def readOption {α : Type} (read : Document → Reading α) (d : Document) : Reading (Option α) :=
  if d.isUnset then .ok none
  else if d.isFalseNull then d.mismatch "null"
  else some <$> read d

/-- Reads the items of a sequence with their positions. -/
def readItems {α : Type} (read : Document → Reading α) (start : Nat) :
    List Document → Reading (List α)
  | [] => .ok []
  | d :: ds => do
    let a ← Reading.inside (.index start) (read d)
    let rest ← readItems read (start + 1) ds
    return a :: rest

/-- Reads a sequence. A plain null stands for the empty one. -/
def readList {α : Type} (read : Document → Reading α) (d : Document) : Reading (List α) :=
  match d with
  | sequence items | tagged _ (sequence items) => readItems read 0 items
  | plain s | tagged _ (plain s) =>
    if s.isEmpty || Scalar.isNull s then .ok [] else d.mismatch "a sequence"
  | d => d.mismatch "a sequence"

/-- The entry with name `name` in a list of alternatives. -/
def readVariant {α : Type} (variants : List (String × α)) (name : String) : Reading α :=
  match variants.lookup name with
  | some a => .ok a
  | none => Reading.fail (.unknownVariant name (variants.map Prod.fst))

/-- What TOML calls the kind of a value that is not a table. -/
def tomlKind : Document → String
  | bool _ => "boolean"
  | integer _ => "integer"
  | fraction _ => "float"
  | date => "datetime"
  | _ => "string"

/-- Accepts only a value that says nothing. -/
def readNothing (markup : Markup) (d : Document) : Reading Unit :=
  match markup with
  | .json | .yaml => if d.isUnset then .ok () else d.mismatch "unit"
  | .toml =>
    match d with
    | sequence items => if items.isEmpty then .ok () else Reading.fail (.notEmpty "array")
    | mapping entries => if entries.isEmpty then .ok () else Reading.fail (.notEmpty "table")
    | d => Reading.fail (.notTable d.tomlKind)

/-- An alternative with the value beside its name. -/
def readVariantWith {α : Type} (markup : Markup) (variants : List (String × α)) (name : String)
    (value : Document) : Reading α := do
  let a ← readVariant variants name
  readNothing markup value
  return a

/-- Reads one of several named alternatives. JSON and TOML allow a mapping from the name to
nothing in place of the name, YAML a tag. -/
def readEnum {α : Type} (markup : Markup) (variants : List (String × α)) (d : Document) :
    Reading α :=
  match markup, d with
  | .json, text s | .toml, text s => readVariant variants s
  | .json, mapping [(text name, value)] => readVariantWith .json variants name value
  | .json, mapping _ => Reading.fail .notSingleKey
  | .json, d => d.mismatch "string or map"
  | .toml, mapping [(text name, value)] => readVariantWith .toml variants name value
  | .toml, mapping entries => Reading.fail (.entryCount entries.isEmpty)
  | .toml, _ => Reading.fail .neitherTextNorTable
  | .yaml, tagged tag value =>
    match tag.toList, value.text? with
    | '!' :: name, _ =>
      readVariantWith .yaml variants (if name.isEmpty then tag else String.ofList name) value
    | _, some s => readVariant variants s
    | _, none => value.mismatch "a YAML tag starting with '!'"
  | .yaml, d =>
    match d.text? with
    | some s => readVariant variants s
    | none => d.mismatch "a YAML tag starting with '!'"

end Document

/-- A field of a record: how its value changes the record that is being read. -/
structure Field (α : Type) where
  name : String
  required : Bool := false
  read : Document → α → Reading α

/-- A kind of record, by its name in messages and its fields in positional order. -/
structure Schema (α : Type) where
  name : String
  fields : List (Field α)

namespace Schema

variable {α : Type}

def field? (s : Schema α) (name : String) : Option (Field α) :=
  s.fields.find? (·.name == name)

/-- Reads one entry of a mapping. Names that are not fields are passed over. -/
def readEntry (s : Schema α) (a : α) (entry : Document × Document) : Reading α :=
  match entry.1.text? with
  | none => entry.1.mismatch "field identifier"
  | some name =>
    match s.field? name with
    | some field => Reading.inside (.field name) (field.read entry.2 a)
    | none => .ok a

/-- The names of the entries that are fields of the record. -/
def givenNames (s : Schema α) (entries : List (Document × Document)) : List String :=
  (entries.filterMap (·.1.text?)).filter fun name => (s.field? name).isSome

/-- The first name that stands in a list twice. -/
def firstRepeated : List String → Option String
  | [] => none
  | name :: names => if names.contains name then some name else firstRepeated names

/-- Reads a record from the entries of a mapping. Required fields are looked for at the end. -/
def readEntries (s : Schema α) (initial : α) (entries : List (Document × Document)) :
    Reading α := do
  let a ← entries.foldlM s.readEntry initial
  let given := s.givenNames entries
  match firstRepeated given, s.fields.find? fun f => f.required && ! given.contains f.name with
  | some name, _ => Reading.fail (.repeatedField name)
  | none, some field => Reading.fail (.missingField field.name)
  | none, none => return a

/-- Reads values for fields in positional order, from field number `start` on. -/
def readPositions (s : Schema α) (start : Nat) :
    List (Field α) → List Document → α → Reading α
  | [], _, a => .ok a
  | field :: _, [], a =>
    if field.required then
      Reading.fail
        (.wrongLength start (s.name ++ " with " ++ toString s.fields.length ++ " elements"))
    else .ok a
  | field :: fields, d :: ds, a => do
    let a ← Reading.inside (.index start) (field.read d a)
    readPositions s (start + 1) fields ds a

/-- Reads a record. JSON and TOML allow a sequence of the values in place of a mapping, and only
JSON minds values beyond the last field. -/
def read (s : Schema α) (markup : Markup) (initial : α) (d : Document) : Reading α :=
  match d with
  | .mapping entries => s.readEntries initial entries
  | .date => s.readEntries initial []
  | .tagged _ (.mapping entries) => s.readEntries initial entries
  | .plain value | .tagged _ (.plain value) =>
    if value.isEmpty then s.readEntries initial [] else d.mismatch s.name
  | .sequence items =>
    match markup with
    | .yaml => d.mismatch s.name
    | .toml => s.readPositions 0 s.fields items initial
    | .json => do
      let a ← s.readPositions 0 s.fields items initial
      if s.fields.length < items.length then
        Reading.fail (.wrongLength items.length "fewer elements in array")
      else return a
  | d => d.mismatch s.name

end Schema

end SyncScript
