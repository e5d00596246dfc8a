import SyncScript.Document.Decimal
import SyncScript.Text.Quoted

/-!
# Documents

The tree that a text in any of the markup languages for plans stands for. Mappings keep the order of
their entries, which decides the fault that is reported first.
-/

namespace SyncScript

inductive Document where
  | null
  | bool (value : Bool)
  | integer (value : Int)
  | fraction (value : Fraction)
  | text (value : String)
  /-- A scalar without quotes whose type depends on what is wanted of it. -/
  | plain (value : String)
  /-- A calendar date or a time of day. -/
  | date
  | sequence (items : List Document)
  | mapping (entries : List (Document × Document))
  | tagged (tag : String) (value : Document)
  deriving Inhabited

/-- What a reader finds where it wants something else. -/
inductive Found where
  | null
  | bool (value : Bool)
  | integer (value : Int)
  | fraction (value : Fraction)
  | text (value : String)
  | sequence
  | mapping
  deriving DecidableEq

/-- What stands in place of a value that would hold itself. No text has an empty tag. -/
def Document.openReference : Document :=
  .tagged "" (.mapping [])

/-- Whether a number of bits is enough for an integer when one of them is its sign. -/
def fitsSigned (bits : Nat) (n : Int) : Bool :=
  let limit : Int := Nat.pow 2 (bits - 1)
  decide (-limit ≤ n) && n < limit

def fitsUnsigned (bits : Nat) (n : Int) : Bool :=
  let limit : Int := Nat.pow 2 bits
  0 ≤ n && n < limit

/-- Whether a number of bits is enough for an integer, with a sign or without. -/
def fits (bits : Nat) (n : Int) : Bool :=
  fitsSigned bits n || fitsUnsigned bits n

namespace Found

/-- Integers beyond 64 bits are shown with the width that holds them. -/
def integerName (n : Int) : String :=
  let shown := "integer `" ++ toString n ++ "`"
  if fits 64 n then shown
  else if n < 0 then shown ++ " as i128"
  else shown ++ " as u128"

/-- A found value in a message, with the word of its markup for null. -/
def name (null : String) : Found → String
  | .null => null
  | .bool b => "boolean `" ++ toString b ++ "`"
  | .integer n => integerName n
  | .fraction x => "floating point `" ++ x.shown ++ "`"
  | .text s => "string " ++ Text.quoted s
  | .sequence => "sequence"
  | .mapping => "map"

end Found

end SyncScript
