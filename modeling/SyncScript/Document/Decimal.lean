/-!
# Decimal numbers

Documents write fractions in decimal. They are kept as written; to show one, it is rounded to the
nearest number with a 53-bit significand and printed with the fewest digits that read back as
that number. All arithmetic is exact.
-/

namespace SyncScript

/-- The number `digits * 10 ^ exponent`, with a sign. -/
structure Decimal where
  negative : Bool
  digits : Nat
  exponent : Int
  deriving DecidableEq

/-- A number as a document writes it. -/
inductive Fraction where
  | finite (value : Decimal)
  | infinite (negative : Bool)
  | notANumber
  deriving DecidableEq

/-- The number `significand * 2 ^ exponent`. -/
structure Binary where
  significand : Nat
  exponent : Int

namespace Decimal

def digitCount (n : Nat) : Nat :=
  (Nat.toDigits 10 n).length

/-- The number after the largest significand. -/
def significandLimit : Nat :=
  Nat.pow 2 53

/-- The quotient of two numbers, rounded to the nearest integer and to the even one on a tie. -/
def roundedQuotient (num den : Nat) : Nat :=
  let q := num / den
  let twice := 2 * (num % den)
  if twice < den then q
  else if den < twice then q + 1
  else if q % 2 = 0 then q else q + 1

/-- A fraction of two naturals times a power of a base, as a fraction of two naturals. -/
def scaled (num den base : Nat) (power : Int) : Nat × Nat :=
  (num * Nat.pow base power.toNat, den * Nat.pow base (-power).toNat)

/-- The nearest binary number, `none` when it is beyond the largest one. -/
def nearest (digits : Nat) (exponent : Int) : Option Binary :=
  let magnitude := (digitCount digits : Int) + exponent
  if digits = 0 ∨ magnitude < -330 then some ⟨0, -1074⟩
  else if 310 < magnitude then none
  else
    let (num, den) := scaled digits 1 10 exponent
    let low := max ((num.log2 : Int) - den.log2 - 53) (-1074)
    let (n, d) := scaled num den 2 (-low)
    let q := if significandLimit ≤ n / d then low + 1 else low
    let (n, d) := scaled num den 2 (-q)
    let s := roundedQuotient n d
    let (s, q) := if s = significandLimit then (s / 2, q + 1) else (s, q)
    if 971 < q then none else some ⟨s, q⟩

/-- Whether `digits * 10 ^ place` rounds to `b`, for a `b` that is not zero. -/
def readsBack (b : Binary) (digits : Nat) (place : Int) : Bool :=
  match nearest digits place with
  | some c => c.significand == b.significand && c.exponent == b.exponent
  | none => false

/-- The neighbours of `b` on the grid of `10 ^ place`, the nearer one first. -/
def neighbours (b : Binary) (place : Int) : List Nat :=
  let (n, d) := scaled b.significand 1 2 b.exponent
  let (n, d) := scaled n d 10 (-place)
  if 2 * (n % d) ≤ d then [n / d, n / d + 1] else [n / d + 1, n / d]

/-- The fewest digits that read back as `b`, from the grid of `10 ^ place` on to finer ones. -/
def shortestFrom (b : Binary) (place : Int) : Nat → Nat × Int
  | 0 => (b.significand, 0)
  | fuel + 1 =>
    match (neighbours b place).find? (readsBack b · place) with
    | some digits => (digits, place)
    | none => shortestFrom b (place - 1) fuel

/-- The fewest digits that read back as `b`; 17 digits always do. -/
def shortest (b : Binary) : Nat × Int :=
  let (n, d) := scaled b.significand 1 2 b.exponent
  let top : Int := digitCount n - digitCount d
  shortestFrom b (top + 1) 20

/-- Digits and a power of ten in positional notation, always with a point. -/
def positional (digits : Nat) (place : Int) : String :=
  let ds := Nat.toDigits 10 digits
  if 0 ≤ place then
    let zeros := if digits = 0 then 0 else place.toNat
    String.ofList (ds ++ List.replicate zeros '0') ++ ".0"
  else
    let after := (-place).toNat
    let ds := List.replicate (after + 1 - ds.length) '0' ++ ds
    let whole := ds.take (ds.length - after)
    let rest := (ds.drop (ds.length - after)).reverse.dropWhile (· == '0')
    String.ofList (whole ++ '.' :: if rest.isEmpty then ['0'] else rest.reverse)

end Decimal

/-- A fraction as messages show it. -/
def Fraction.shown : Fraction → String
  | .finite value =>
    let sign := if value.negative then "-" else ""
    match Decimal.nearest value.digits value.exponent with
    | none => sign ++ "inf"
    | some ⟨0, _⟩ => sign ++ "0.0"
    | some b =>
      let (digits, place) := Decimal.shortest b
      sign ++ Decimal.positional digits place
  | .infinite negative => if negative then "-inf" else "inf"
  | .notANumber => "NaN"

end SyncScript
