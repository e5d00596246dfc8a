import SyncScript.Text.Basic

/-!
# Scanners

A scanner takes a value from the front of a text and leaves the rest, or fails. Repetition is
bounded by a number of rounds, for which the length of the text is always enough.
-/

namespace SyncScript

abbrev Scanner (α : Type) := StateT (List Char) Option α

namespace Scanner

variable {α β : Type}

def peek? : Scanner (Option Char) := do
  return (← get).head?

/-- Whether a text comes next. -/
def sees (s : String) : Scanner Bool := do
  return s.toList.isPrefixOf (← get)

/-- Takes a text. -/
def expect (s : String) : Scanner Unit := do
  if ← sees s then set ((← get).drop s.length) else failure

/-- Takes a text if it comes next. -/
def accept (s : String) : Scanner Bool := do
  if ← sees s then
    set ((← get).drop s.length)
    return true
  else return false

/-- Takes a character with a property. -/
def one (p : Char → Bool) : Scanner Char := do
  match ← get with
  | c :: cs =>
    if p c then
      set cs
      return c
    else failure
  | [] => failure

/-- Takes as many characters with a property as there are. -/
def many (p : Char → Bool) : Scanner (List Char) := do
  let cs ← get
  set (cs.dropWhile p)
  return cs.takeWhile p

def many1 (p : Char → Bool) : Scanner (List Char) := do
  let cs ← many p
  if cs.isEmpty then failure else return cs

/-- Takes a number of characters with a property. -/
def exactly (n : Nat) (p : Char → Bool) : Scanner (List Char) := do
  let cs := (← get).take n
  if cs.length = n && cs.all p then
    set ((← get).drop n)
    return cs
  else failure

/-- Fails unless a condition holds. -/
def require (b : Bool) : Scanner Unit :=
  if b then return () else failure

/-- What a scanner takes, or nothing if it fails. -/
def attempt (p : Scanner α) : Scanner (Option α) := fun cs =>
  match p cs with
  | some (a, rest) => some (some a, rest)
  | none => some (none, cs)

/-- Repeats a step that says itself when to stop, for at most so many rounds. -/
def rounds {σ : Type} (p : StateT σ Option (Option α)) : Nat → StateT σ Option (List α)
  | 0 => failure
  | n + 1 => do
    match ← p with
    | none => return []
    | some a => return a :: (← rounds p n)

/-- Repeats a scanner until it says to stop. Every round must take at least one character. -/
def repeated (p : Scanner (Option α)) : Scanner (List α) := do
  rounds p ((← get).length + 1)

end Scanner

end SyncScript
