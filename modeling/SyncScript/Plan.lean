import SyncScript.Endpoint
import SyncScript.PackageList
import SyncScript.PackageManager
import SyncScript.Text.Quoted

/-!
# Plans

A plan names the two sides of a sync, how to provision the machine that runs it, and how to call
the sync program. The faults of a plan are the rules it breaks; a plan without faults can be
turned into a script.
-/

namespace SyncScript

structure System where
  packageManager : PackageManager := .apt
  installTools : Bool := false
  configureFirewall : Bool := false
  installDependencies : Bool := false
  pythonPackages : PackageList := .empty
  deriving DecidableEq, Inhabited

structure SyncOptions where
  dryRun : Bool := false
  /-- The command that the flags of the sync are appended to. -/
  executable : String := "python3 sync.py"
  deriving DecidableEq, Inhabited

structure Plan where
  source : Endpoint
  target : Endpoint
  system : System := {}
  sync : SyncOptions := {}
  deriving DecidableEq, Inhabited

inductive EndpointFault where
  | pathMissing
  | localPathRelative
  | sshHostMissing
  | sshUserMissing
  | remotePathRelative
  | gitSchemeUnknown
  | gitSeparatorMissing
  deriving DecidableEq

/-- The ways in which the address of a Git repository may begin. -/
def gitSchemes : List String :=
  ["https://", "http://", "git@", "ssh://", "git://"]

def EndpointFault.reason : EndpointFault → String
  | .pathMissing => "Path is required."
  | .localPathRelative => "Local path must be absolute (start with '/')."
  | .sshHostMissing => "SSH host is required."
  | .sshUserMissing => "SSH user is required."
  | .remotePathRelative => "Remote path must be absolute (start with '/')."
  | .gitSchemeUnknown => "Git URL must start with one of " ++ ", ".intercalate gitSchemes ++ "."
  | .gitSeparatorMissing =>
    "SSH Git URL is missing the ':' separator (expected git@host:owner/repo)."

def EndpointFault.message (label : String) (fault : EndpointFault) : String :=
  label ++ ": " ++ fault.reason

/-- The rules an endpoint breaks. Without a path there is nothing else to say. -/
def Endpoint.faults (e : Endpoint) : List EndpointFault :=
  if Text.isBlank e.path then [.pathMissing]
  else
    match e.kind with
    | .localDir => if Text.beginsWith e.path "/" then [] else [.localPathRelative]
    | .ssh =>
      (if (Text.given e.host).isNone then [.sshHostMissing] else []) ++
      (if (Text.given e.user).isNone then [.sshUserMissing] else []) ++
      (if Text.beginsWith e.path "/" then [] else [.remotePathRelative])
    | .git =>
      (if gitSchemes.any (Text.beginsWith e.path) then [] else [.gitSchemeUnknown]) ++
      (if Text.beginsWith e.path "git@" && ! e.path.toList.contains ':' then
        [.gitSeparatorMissing] else [])

/-- Package names are written one on a line, so none may hold a space or a control character. -/
def isPackageFault (name : String) : Bool :=
  name.toList.any fun c => Text.isSpace c || Text.isControl c

def packageMessage (label name : String) : String :=
  label ++ ": Python package " ++ Text.quoted name ++
    " must not contain whitespace or control characters."

def PackageList.faults (l : PackageList) : List String :=
  l.names.filter isPackageFault

inductive PlanFault where
  | source (fault : EndpointFault)
  | target (fault : EndpointFault)
  | package (name : String)
  deriving DecidableEq

def PlanFault.message : PlanFault → String
  | .source fault => fault.message "Source"
  | .target fault => fault.message "Target"
  | .package name => packageMessage "System" name

/-- The faults of the source, then of the target, then of the packages in list order. -/
def Plan.faults (p : Plan) : List PlanFault :=
  p.source.faults.map .source ++ p.target.faults.map .target ++
    p.system.pythonPackages.faults.map .package

end SyncScript
