import SyncScript.Text.Basic

/-!
# Arguments

The arguments of a command are options with a value, flags, and paths. A value stands in the same
argument after `=` or in the next one. In the second case the option stays open until something
else is taken, and only then are its faults reported; an unknown argument is reported before them.
-/

namespace SyncScript

/-- Why a command line is not accepted, or asks for nothing but the version. -/
inductive Refusal where
  | versionAsked
  | nothingGiven
  | unknownArgument
  | unknownCommand
  | pathsMissing
  | givenTwice
  | valueUnneeded
  | valueMissing
  | valueInvalid
  deriving DecidableEq

/-- What the arguments of a command may be. -/
structure Usage where
  options : List String
  flags : List String := []
  takesPaths : Bool := false
  /-- Whether an option may have a value. -/
  admits : String → String → Bool := fun _ _ => true

/-- An option whose value may still follow. -/
structure OpenOption where
  name : String
  value : Option String := none

/-- The arguments that have been taken. -/
structure Given where
  values : List (String × String) := []
  flags : List String := []
  paths : List String := []
  open? : Option OpenOption := none

namespace Given

def value? (g : Given) (name : String) : Option String :=
  g.values.lookup name

def flag (g : Given) (name : String) : Bool :=
  g.flags.contains name

/-- Closes the open option: it needs an admissible value and may not be given twice. -/
def settle (usage : Usage) (g : Given) : Except Refusal Given :=
  match g.open? with
  | none => .ok g
  | some ⟨_, none⟩ => .error .valueMissing
  | some ⟨name, some value⟩ =>
    if (g.value? name).isSome then .error .givenTwice
    else if ! usage.admits name value then .error .valueInvalid
    else .ok { g with values := g.values ++ [(name, value)], open? := none }

def addOption (usage : Usage) (g : Given) (name : String) (value : Option String) :
    Except Refusal Given := do
  let g := { ← g.settle usage with open? := some ⟨name, value⟩ }
  if value.isSome then g.settle usage else return g

def addFlag (usage : Usage) (g : Given) (name : String) (value : Option String) :
    Except Refusal Given := do
  if value.isSome then throw .valueUnneeded
  let g ← g.settle usage
  if g.flag name then throw .givenTwice
  return { g with flags := name :: g.flags }

def addPath (usage : Usage) (g : Given) (path : String) : Except Refusal Given := do
  if ! usage.takesPaths then throw .unknownArgument
  let g ← g.settle usage
  return { g with paths := g.paths ++ [path] }

/-- Takes an argument that begins with two hyphens, of which the name and the value are given. -/
def addNamed (usage : Usage) (g : Given) (name : String) (value : Option String) :
    Except Refusal Given :=
  if usage.options.contains name then g.addOption usage name value
  else if usage.flags.contains name then g.addFlag usage name value
  else .error .unknownArgument

/-- Takes an argument that has no hyphen before it, as a value if one is missing. -/
def addPlain (usage : Usage) (g : Given) (argument : String) : Except Refusal Given :=
  match g.open? with
  | some ⟨name, none⟩ => .ok { g with open? := some ⟨name, some argument⟩ }
  | _ => g.addPath usage argument

end Given

/-- The parts of a text before and after its first `=`. -/
def splitAtEquals (cs : List Char) : String × Option String :=
  let name := cs.takeWhile (· != '=')
  (String.ofList name,
    if cs.contains '=' then some (String.ofList (cs.drop (name.length + 1))) else none)

namespace Usage

/-- Takes arguments one after another. After `--` all of them are paths. -/
def take (usage : Usage) (g : Given) : List String → Except Refusal Given
  | [] => g.settle usage
  | argument :: rest =>
    match argument.toList with
    | ['-', '-'] => do
      let g ← rest.foldlM (Given.addPath usage) g
      g.settle usage
    | '-' :: '-' :: cs => do
      let (name, value) := splitAtEquals cs
      usage.take (← g.addNamed usage name value) rest
    | '-' :: _ :: _ => .error .unknownArgument
    | _ => do
      usage.take (← g.addPlain usage argument) rest

/-- The arguments of a command; one that takes paths needs at least one. -/
def read (usage : Usage) (arguments : List String) : Except Refusal Given := do
  let g ← usage.take {} arguments
  if usage.takesPaths && g.paths.isEmpty then throw .pathsMissing
  return g

end Usage

end SyncScript
