import SyncScript.Text.Basic

/-!
# Endpoints

One side of a sync: a local directory, a directory behind SSH, or a Git repository. An endpoint
carries every setting, and those that do not belong to its kind have no effect.
-/

namespace SyncScript

inductive EndpointKind where
  | localDir
  | ssh
  | git
  deriving DecidableEq

def EndpointKind.all : List EndpointKind :=
  [.localDir, .ssh, .git]

def EndpointKind.id : EndpointKind → String
  | .localDir => "local"
  | .ssh => "ssh"
  | .git => "git"

structure Endpoint where
  kind : EndpointKind := .localDir
  path : String := ""
  host : Option String := none
  user : Option String := none
  privateKey : Option String := none
  branch : Option String := none
  useGithubCli : Bool := false
  /-- The user's own choice; unset leaves it to `suggestsSudo`. -/
  forceSudo : Option Bool := none
  deriving DecidableEq, Inhabited

/-- The directories whose content belongs to users. -/
def userOwnedRoots : List String :=
  ["/home", "/Users", "/tmp"]

/-- A local path outside the directories of users is taken to need `sudo`. The directories are
compared by whole components, so `/homework` is outside `/home`. -/
def suggestsSudo (path : String) : Bool :=
  let p := Text.trimmed path
  ! p.isEmpty && ! userOwnedRoots.any fun root => p == root || Text.beginsWith p (root ++ "/")

namespace Endpoint

/-- Whether commands that write to the endpoint run under `sudo`. -/
def wantsSudo (e : Endpoint) : Bool :=
  match e.forceSudo with
  | some choice => choice
  | none => e.kind == .localDir && suggestsSudo e.path

def usesGithubCli (e : Endpoint) : Bool :=
  e.kind == .git && e.useGithubCli

/-- The branch of a Git endpoint, without spaces around it. -/
def gitBranch (e : Endpoint) : Option String :=
  if e.kind = .git then (Text.given e.branch).map Text.trimmed else none

/-- The endpoint as a word of the sync command. -/
def argument (e : Endpoint) : String :=
  match e.kind with
  | .ssh =>
    let user := (Text.given e.user).getD "user"
    let host := (Text.given e.host).getD "host"
    let key := match Text.given e.privateKey with
      | some key => "?identity_file=" ++ key
      | none => ""
    "ssh://" ++ user ++ "@" ++ host ++ ":" ++ e.path ++ key
  | .localDir | .git => e.path

end Endpoint

end SyncScript
