import SyncScript.Plan
import SyncScript.Script.ToolCheck
import SyncScript.Shell.DoubleQuote
import SyncScript.Shell.HereDoc

/-!
# The parts of a script

What each part of a script does for a plan: the tools it installs, the firewall it sets up, the
Python packages it installs, and the sync command it ends with.
-/

namespace SyncScript

/-- Lines as one text, without a line end after the last. -/
def unlines (lines : List String) : String :=
  "\n".intercalate lines

namespace Plan

/-- The tools a plan needs, in the order in which they are checked. -/
def requirements (p : Plan) : List ToolRequirement :=
  let pm := p.system.packageManager
  [⟨"git", "git", some "2.25.0"⟩, ⟨"curl", "curl", none⟩, ⟨"python3", "python3", none⟩] ++
    (if p.source.usesGithubCli then [⟨"gh", "gh", some "2.0.0"⟩] else []) ++
    [⟨"ssh", pm.sshPackage, some "7.6"⟩] ++
    (if p.system.installDependencies then [⟨"pip3", pm.pipPackage, none⟩] else [])

def toolLines (p : Plan) : List String :=
  ("# --- Tool installation (" ++ p.system.packageManager.id ++ ") ---") ::
    p.requirements.map ToolRequirement.check

def firewallLines (p : Plan) : List String :=
  let pm := p.system.packageManager
  ("# --- Firewall configuration (" ++ pm.firewall.id ++ ") ---") ::
    match pm.firewall with
    | .ufw => [
      ToolRequirement.check ⟨"ufw", "ufw", none⟩,
      "sudo ufw allow ssh",
      "sudo ufw allow 80/tcp",
      "sudo ufw allow 443/tcp",
      "sudo ufw --force enable"]
    | .firewalld => [
      ToolRequirement.check ⟨"firewall-cmd", "firewalld", none⟩,
      "sudo systemctl enable firewalld",
      "sudo systemctl start firewalld",
      "sudo firewall-cmd --permanent --add-service=ssh",
      "sudo firewall-cmd --permanent --add-service=http",
      "sudo firewall-cmd --permanent --add-service=https",
      "sudo firewall-cmd --reload"]
    | .unsupported => [
      "# No automatic firewall support for " ++ pm.id ++
        "; configure the firewall manually (allow ssh, 80/tcp, 443/tcp)."]

/-- Writes the package names to a requirements file and installs from it; without names the file
is taken as it is. -/
def dependencyLines (p : Plan) : List String :=
  let packages := p.system.pythonPackages
  ["# --- Python dependencies ---"] ++
    (if packages.isEmpty then ["# No packages listed; using the existing requirements.txt."]
      else Shell.writeLines "requirements.txt" packages.names) ++
    ["pip3 install -r requirements.txt"]

/-- The command that runs the sync. Its flags stand in a fixed order. -/
def syncCommand (p : Plan) : String :=
  (if p.target.wantsSudo then "sudo " else "") ++ Text.trimmed p.sync.executable ++
    " --source " ++ Shell.doubleQuoted p.source.argument ++
    " --target " ++ Shell.doubleQuoted p.target.argument ++
    (if p.source.usesGithubCli then " --use-gh" else "") ++
    (match p.source.gitBranch with
      | some branch => " --branch " ++ Shell.doubleQuoted branch
      | none => "") ++
    (if p.sync.dryRun then " --dry-run" else "")

end Plan

end SyncScript
