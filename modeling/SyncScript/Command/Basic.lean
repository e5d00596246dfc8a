import SyncScript.Command.Arguments
import SyncScript.PlanFile.Settings

/-!
# Commands

The commands of the program and how they are read from a command line. The four commands that need
a plan share the options that choose it.
-/

namespace SyncScript

inductive Command where
  | version
  | compile (choices : Choices) (write : Option String) (strict : Bool)
  | validate (choices : Choices)
  | preview (choices : Choices)
  | lint (arguments : List String) (output : Option String)
  deriving DecidableEq

def programVersion : String :=
  "0.1.0"

namespace Refusal

def message : Refusal → String
  | versionAsked => "repull " ++ programVersion ++ "\n"
  | nothingGiven => "\n"
  | unknownArgument => "error: unexpected argument found\n"
  | unknownCommand => "error: unrecognized subcommand\n"
  | pathsMissing => "error: one or more required arguments were not provided\n"
  | givenTwice =>
    "error: an argument cannot be used with one or more of the other specified arguments\n"
  | valueUnneeded => "error: unexpected value for an argument found\n"
  | valueMissing => "error: one of the values isn't valid for an argument\n"
  | valueInvalid => "error: invalid value for one of the arguments\n"

def exitCode (r : Refusal) : Nat :=
  if r = versionAsked then 0 else 2

end Refusal

namespace Choices

/-- The options that choose a plan, with more options and flags of a single command. -/
def usage (options flags : List String) : Usage where
  options := ["repo-root", "plan", "output", "package-manager"] ++ options
  flags := "dry-run" :: flags
  admits name value := name != "package-manager" || (PackageManager.ofId? value).isSome

def ofGiven (g : Given) : Choices where
  repoRoot := g.value? "repo-root"
  plan := g.value? "plan"
  output := g.value? "output"
  dryRun := if g.flag "dry-run" then some true else none
  packageManager := (g.value? "package-manager").bind PackageManager.ofId?

end Choices

namespace Command

def ofName? (name : String) (arguments : List String) : Option (Except Refusal Command) :=
  match name with
  | "version" => some do
    let _ ← Usage.read { options := [] } arguments
    return .version
  | "compile" => some do
    let g ← (Choices.usage ["write"] ["strict"]).read arguments
    return .compile (.ofGiven g) (g.value? "write") (g.flag "strict")
  | "validate" => some do
    return .validate (.ofGiven (← (Choices.usage [] []).read arguments))
  | "preview" => some do
    return .preview (.ofGiven (← (Choices.usage [] []).read arguments))
  | "lint" => some do
    let g ← Usage.read { options := ["output"], takesPaths := true } arguments
    return .lint g.paths (g.value? "output")
  | _ => none

/-- What the first argument means when it is no command. -/
def refusalOf (first : String) (rest : List String) : Refusal :=
  match first.toList with
  | ['-', '-'] =>
    match rest with
    | [] => .nothingGiven
    | name :: _ => if (ofName? name []).isSome then .unknownArgument else .unknownCommand
  | '-' :: '-' :: cs =>
    let (name, value) := splitAtEquals cs
    if name ≠ "version" then .unknownArgument
    else if value.isSome then .valueUnneeded
    else .versionAsked
  | '-' :: c :: _ => if c = 'V' then .versionAsked else .unknownArgument
  | _ => .unknownCommand

/-- The command of a command line, which begins after the name of the program. -/
def ofArguments : List String → Except Refusal Command
  | [] => .error .nothingGiven
  | first :: rest => (ofName? first rest).getD (.error (refusalOf first rest))

end Command

end SyncScript
