import SyncScript.Script.Sections

/-!
# Scripts

A plan without faults compiles to a script: sections in a fixed order, one blank line between
them. A section whose setting is off is a comment that says so.
-/

namespace SyncScript

inductive SectionKind where
  | shebang
  | helper
  | tools
  | firewall
  | dependencies
  | sync
  deriving DecidableEq

def SectionKind.all : List SectionKind :=
  [.shebang, .helper, .tools, .firewall, .dependencies, .sync]

def SectionKind.id : SectionKind → String
  | .shebang => "shebang"
  | .helper => "helper"
  | .tools => "tools"
  | .firewall => "firewall"
  | .dependencies => "dependencies"
  | .sync => "sync"

structure Section where
  kind : SectionKind
  /-- False when the body only says that the section was skipped. -/
  populated : Bool
  body : String
  deriving DecidableEq

structure Script where
  sections : List Section
  deriving DecidableEq

namespace Script

def section? (s : Script) (kind : SectionKind) : Option Section :=
  s.sections.find? (·.kind == kind)

def syncCommand (s : Script) : String :=
  ((s.section? .sync).map Section.body).getD ""

/-- The sections with a blank line between them, and a line end after the last. -/
def text (s : Script) : String :=
  "\n\n".intercalate (s.sections.map Section.body) ++ "\n"

end Script

namespace Plan

/-- A section that is on or off, with the comment that stands for it when it is off. -/
def toggled (kind : SectionKind) (on : Bool) (lines : List String) (skipped : String) : Section :=
  if on then ⟨kind, true, unlines lines⟩ else ⟨kind, false, skipped⟩

/-- The comments that stand for sections that are off. -/
def toolsSkipped : String :=
  "# Tool installation skipped (install_tools is off)."

def firewallSkipped : String :=
  "# Firewall configuration skipped (configure_firewall is off)."

def dependenciesSkipped : String :=
  "# Dependency installation skipped (install_dependencies is off); nothing is installed."

def sections (p : Plan) : List Section :=
  let s := p.system
  [⟨.shebang, true, "#!/bin/bash"⟩] ++
    (if s.installTools || s.configureFirewall then
      [⟨.helper, true, unlines (toolCheckLines s.packageManager)⟩] else []) ++
    [toggled .tools s.installTools p.toolLines toolsSkipped,
      toggled .firewall s.configureFirewall p.firewallLines firewallSkipped,
      toggled .dependencies s.installDependencies p.dependencyLines dependenciesSkipped,
      ⟨.sync, true, p.syncCommand⟩]

end Plan

/-- The refusal of a plan with faults. -/
structure CompileError where
  faults : List PlanFault
  deriving DecidableEq

/-- The number of faults, and each fault on a line of its own. -/
def CompileError.message (e : CompileError) : String :=
  "plan has " ++ toString e.faults.length ++ " invalid setting(s):\n  - " ++
    "\n  - ".intercalate (e.faults.map PlanFault.message)

/-- The script of a plan, unless the plan has faults. -/
def compile (p : Plan) : Except CompileError Script :=
  if p.faults.isEmpty then .ok ⟨p.sections⟩ else .error ⟨p.faults⟩

end SyncScript
