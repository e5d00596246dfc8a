import SyncScript.Files.Path

/-!
# Disks

The questions that the program asks about files. They are answered in a monad: by a tree in
memory without effects, or by the file system of the machine.
-/

namespace SyncScript

inductive FileKind where
  | file
  | directory
  /-- Neither of both, such as a device. -/
  | special
  deriving DecidableEq

/-- Why a file cannot be read or written. -/
inductive FileError where
  | notFound
  | notDirectory
  | isDirectory
  | notText
  | nulInName
  | other (message : String)
  deriving DecidableEq

def FileError.message : FileError → String
  | .notFound => "No such file or directory (os error 2)"
  | .notDirectory => "Not a directory (os error 20)"
  | .isDirectory => "Is a directory (os error 21)"
  | .notText => "stream did not contain valid UTF-8"
  | .nulInName => "file name contained an unexpected NUL byte"
  | .other message => message

structure Disk (m : Type → Type) where
  /-- The directory that relative paths start from, as an absolute path. -/
  workingDirectory : m Path
  /-- What a path leads to, if it leads anywhere. -/
  kind? : Path → m (Option FileKind)
  readText : Path → m (Except FileError String)
  /-- The names in a directory, in any order. -/
  names : Path → m (List String)

namespace Disk

variable {m : Type → Type} [Monad m]

def holds (disk : Disk m) (p : Path) : m Bool :=
  Option.isSome <$> disk.kind? p

def isFile (disk : Disk m) (p : Path) : m Bool :=
  (· == some .file) <$> disk.kind? p

def isDirectory (disk : Disk m) (p : Path) : m Bool :=
  (· == some .directory) <$> disk.kind? p

end Disk

end SyncScript
