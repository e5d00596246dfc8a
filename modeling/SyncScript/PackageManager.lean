import SyncScript.Text.Basic

/-!
# Package managers

The supported system package managers, and what each one calls the things that a script installs.
-/

namespace SyncScript

inductive PackageManager where
  | apt
  | dnf
  | yum
  | pacman
  | zypper
  | brew
  deriving DecidableEq

/-- The firewall a script can set up with the tools of a package manager. -/
inductive FirewallFamily where
  | ufw
  | firewalld
  | unsupported
  deriving DecidableEq

def FirewallFamily.id : FirewallFamily → String
  | .ufw => "ufw"
  | .firewalld => "firewalld"
  | .unsupported => "unsupported"

namespace PackageManager

def all : List PackageManager :=
  [.apt, .dnf, .yum, .pacman, .zypper, .brew]

def id : PackageManager → String
  | .apt => "apt"
  | .dnf => "dnf"
  | .yum => "yum"
  | .pacman => "pacman"
  | .zypper => "zypper"
  | .brew => "brew"

/-- The manager a user means: spaces around the name and the case of its letters do not count. -/
def ofId? (name : String) : Option PackageManager :=
  all.find? fun pm => pm.id == Text.lowerAscii (Text.trimmed name)

/-- The command that installs the packages named after it. -/
def installCommand : PackageManager → String
  | .apt => "sudo apt-get install -y"
  | .pacman => "sudo pacman -Syu --noconfirm"
  | .dnf => "sudo dnf install -y"
  | .yum => "sudo yum install -y"
  | .zypper => "sudo zypper install -y"
  | .brew => "brew install"

def firewall : PackageManager → FirewallFamily
  | .apt | .pacman => .ufw
  | .dnf | .yum | .zypper => .firewalld
  | .brew => .unsupported

/-- The package that holds the `ssh` client. -/
def sshPackage (pm : PackageManager) : String :=
  match pm.firewall with
  | .ufw => "openssh-client"
  | .firewalld | .unsupported => "openssh"

/-- The package that holds `pip3`. -/
def pipPackage : PackageManager → String
  | .pacman => "python-pip"
  | _ => "python3-pip"

end PackageManager

end SyncScript
