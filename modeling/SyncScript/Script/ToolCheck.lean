import SyncScript.PackageManager

/-!
# The tool check

Shell functions that a script defines once and calls for every tool it needs: `check_tool` installs
a tool that is missing or older than required.
-/

namespace SyncScript

/-- The lines that define a shell function. -/
def shellFunction (name : String) (body : List String) : List String :=
  [name ++ "() \x7b"] ++ body.map ("    " ++ ·) ++ ["\x7d"]

/-- The branch of a loop over version components that ends the comparison with a status. -/
def componentBranch (relation status : String) : List String := [
  "    if (( 10#$\x7bhave[i]:-0\x7d " ++ relation ++ " 10#$\x7bwant[i]:-0\x7d )); then",
  "        return " ++ status,
  "    fi"]

/-- `version_lt a b` succeeds when the dotted version `a` is older than `b`. -/
def versionFunction : List String :=
  shellFunction "version_lt" <| [
    "local IFS=.",
    "local -a have=($1)",
    "local -a want=($2)",
    "local i",
    "for i in \"$\x7b!want[@]\x7d\"; do"] ++
    componentBranch "<" "0" ++ componentBranch ">" "1" ++ [
    "done",
    "return 1"]

def firstVersion (call : String) : String :=
  call ++ " 2>&1 | grep -oE '[0-9]+(\\.[0-9]+)+' | head -n 1 ;;"

/-- `tool_version` prints the version that an installed tool reports. -/
def toolVersionFunction : List String :=
  shellFunction "tool_version" [
    "case \"$1\" in",
    "    git) " ++ firstVersion "git --version",
    "    gh) " ++ firstVersion "gh --version",
    "    ssh) " ++ firstVersion "ssh -V",
    "    *) " ++ firstVersion "\"$1\" --version",
    "esac"]

/-- `check_tool` sees to it that a command is there, in a given version if one is named. -/
def checkToolFunction (pm : PackageManager) : List String :=
  shellFunction "check_tool" [
    "local cmd=\"$1\"",
    "local pkg=\"$2\"",
    "local min_version=\"$\x7b3:-\x7d\"",
    "local current",
    "if ! command -v \"$cmd\" >/dev/null 2>&1; then",
    "    echo \"[repull] $cmd not found, installing $pkg\"",
    "    " ++ pm.installCommand ++ " \"$pkg\"",
    "    return 0",
    "fi",
    "if [ -z \"$min_version\" ]; then",
    "    echo \"[repull] $cmd is installed\"",
    "    return 0",
    "fi",
    "current=\"$(tool_version \"$cmd\")\"",
    "if version_lt \"$current\" \"$min_version\"; then",
    "    echo \"[repull] warning: $cmd $current is older than $min_version, upgrading $pkg\" >&2",
    "    " ++ pm.installCommand ++ " \"$pkg\"",
    "else",
    "    echo \"[repull] $cmd $current satisfies >= $min_version\"",
    "fi"]

/-- The definitions of the tool check, for one package manager. -/
def toolCheckLines (pm : PackageManager) : List String :=
  ["# --- Tool check helper ---"] ++ versionFunction ++ [""] ++ toolVersionFunction ++ [""] ++
    checkToolFunction pm

/-- A tool that a script makes sure of, and the package that brings it. -/
structure ToolRequirement where
  command : String
  package : String
  minVersion : Option String := none
  deriving DecidableEq

/-- The call of `check_tool` for a tool. -/
def ToolRequirement.check (r : ToolRequirement) : String :=
  "check_tool " ++ r.command ++ " " ++ r.package ++
    match r.minVersion with
    | some version => " " ++ version
    | none => ""

end SyncScript
