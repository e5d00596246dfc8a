import SyncScript.Command.Run

/-!
# The program

Answers the questions of the commands from the files of the machine, prints what a command says and
writes the file it asks for.
-/

namespace SyncScript

/-- An error of the machine with its number, as messages show it. -/
def numberedError (details : String) (code : UInt32) : FileError :=
  .other (details ++ " (os error " ++ toString code ++ ")")

def fileError : IO.Error → FileError
  | .noFileOrDirectory .. => .notFound
  | .inappropriateType _ code details =>
    if code = 20 then .notDirectory else if code = 21 then .isDirectory
    else numberedError details code
  | .permissionDenied _ code details | .invalidArgument _ code details |
    .resourceExhausted _ code details => numberedError details code
  | e => .other (toString e)

/-- Does something with a path of the machine, unless no file can have the path. -/
def onPath {α : Type} (p : Path) (act : String → IO α) : IO (Except FileError α) := do
  if p.text.isEmpty then return .error .notFound
  if p.text.toList.contains '\x00' then return .error .nulInName
  try
    return .ok (← act p.text)
  catch e =>
    return .error (fileError e)

def machineKind (p : Path) : IO (Option FileKind) := do
  let kind ← onPath p fun text => do
    let data ← ((← IO.currentDir) / text).metadata
    return match data.type with
      | .dir => FileKind.directory
      | .file => FileKind.file
      | _ => FileKind.special
  return kind.toOption

def readMachineText (p : Path) : IO (Except FileError String) := do
  match ← onPath p fun text => IO.FS.readBinFile text with
  | .error cause => return .error cause
  | .ok bytes =>
    match String.fromUTF8? bytes with
    | some text => return .ok text
    | none => return .error .notText

def machineNames (p : Path) : IO (List String) := do
  let names ← onPath p fun text => do
    let entries ← ((← IO.currentDir) / text).readDir
    return entries.toList.map fun entry => entry.fileName
  return names.toOption.getD []

def machineDisk : Disk IO where
  workingDirectory := do
    return ⟨(← IO.currentDir).toString⟩
  kind? := machineKind
  readText := readMachineText
  names := machineNames

/-- The outcome of an ending, after the file it asks for is written. -/
def performEnding : Ending → IO Outcome
  | .finished outcome => return outcome
  | .unresolved e => return .unresolved e.message
  | .writing path text outcome => do
    return outcome (← onPath path fun file => IO.FS.writeBinFile file text.toUTF8)

def runProgram (arguments : List String) : IO UInt32 := do
  let color := (← IO.getEnv "NO_COLOR").isNone
  let ending ← Command.runArguments machineDisk color arguments
  let outcome ← performEnding ending
  IO.print outcome.printed.out
  IO.eprint outcome.printed.err
  return outcome.exitCode.toUInt32

end SyncScript

def main (arguments : List String) : IO UInt32 :=
  SyncScript.runProgram arguments
