import SyncScript.Document.Reading
import SyncScript.Plan

/-!
# Plans as documents

How the records of a plan are read from a document, and how a plan is written as one. Fields that
are not given keep their defaults; a plan file may also name the form of the output.
-/

namespace SyncScript

open Document

/-- A field whose value is read on its own and then put into the record. -/
def Field.of {α β : Type} (name : String) (read : Document → Reading β) (put : α → β → α)
    (required : Bool := false) : Field α :=
  ⟨name, required, fun d a => put a <$> read d⟩

def EndpointKind.variants : List (String × EndpointKind) :=
  EndpointKind.all.map fun kind => (kind.id, kind)

def PackageManager.variants : List (String × PackageManager) :=
  PackageManager.all.map fun pm => (pm.id, pm)

namespace Endpoint

def schema (m : Markup) : Schema Endpoint where
  name := "struct EndpointConfig"
  fields := [
    .of "kind" (readEnum m EndpointKind.variants) fun e v => { e with kind := v },
    .of "path" readText fun e v => { e with path := v },
    .of "host" (readOption readText) fun e v => { e with host := v },
    .of "user" (readOption readText) fun e v => { e with user := v },
    .of "private_key_path" (readOption readText) fun e v => { e with privateKey := v },
    .of "branch" (readOption readText) fun e v => { e with branch := v },
    .of "use_github_cli" readBool fun e v => { e with useGithubCli := v },
    .of "force_sudo" (readOption readBool) fun e v => { e with forceSudo := v }]

def ofDocument (m : Markup) (d : Document) : Reading Endpoint :=
  (schema m).read m {} d

end Endpoint

def PackageList.ofDocument (d : Document) : Reading PackageList :=
  PackageList.ofList <$> readList readText d

namespace System

def schema (m : Markup) : Schema System where
  name := "struct SystemConfig"
  fields := [
    .of "package_manager" (readEnum m PackageManager.variants)
      fun s v => { s with packageManager := v },
    .of "install_tools" readBool fun s v => { s with installTools := v },
    .of "configure_firewall" readBool fun s v => { s with configureFirewall := v },
    .of "install_dependencies" readBool fun s v => { s with installDependencies := v },
    .of "python_packages" PackageList.ofDocument fun s v => { s with pythonPackages := v }]

def ofDocument (m : Markup) (d : Document) : Reading System :=
  (schema m).read m {} d

end System

namespace SyncOptions

def schema : Schema SyncOptions where
  name := "struct SyncOptions"
  fields := [
    .of "dry_run" readBool fun o v => { o with dryRun := v },
    .of "executable" readText fun o v => { o with executable := v }]

def ofDocument (m : Markup) (d : Document) : Reading SyncOptions :=
  schema.read m {} d

end SyncOptions

namespace Plan

def schema (m : Markup) : Schema Plan where
  name := "struct Plan"
  fields := [
    .of "source" (Endpoint.ofDocument m) (fun p v => { p with source := v }) true,
    .of "target" (Endpoint.ofDocument m) (fun p v => { p with target := v }) true,
    .of "system" (System.ofDocument m) fun p v => { p with system := v },
    .of "sync" (SyncOptions.ofDocument m) fun p v => { p with sync := v }]

def ofDocument (m : Markup) (d : Document) : Reading Plan :=
  (schema m).read m { source := {}, target := {} } d

end Plan

/-- What a plan file holds. -/
structure PlanFile where
  plan : Plan
  /-- The form of the output, when the file names one. -/
  output : Option String := none
  deriving DecidableEq

namespace PlanFile

def schema (m : Markup) : Schema PlanFile where
  name := "struct PlanFile"
  fields := [
    .of "output" (readOption readText) fun file v => { file with output := v },
    .of "source" (Endpoint.ofDocument m) (fun file v => { file with plan.source := v }) true,
    .of "target" (Endpoint.ofDocument m) (fun file v => { file with plan.target := v }) true,
    .of "system" (System.ofDocument m) fun file v => { file with plan.system := v },
    .of "sync" (SyncOptions.ofDocument m) fun file v => { file with plan.sync := v }]

def ofDocument (m : Markup) (d : Document) : Reading PlanFile :=
  (schema m).read m { plan := { source := {}, target := {} } } d

end PlanFile

/-- A record from the values of its fields; a field without a value is left out. -/
def recordDocument (fields : List (String × Option Document)) : Document :=
  .mapping (fields.filterMap fun (name, value) => value.map (.text name, ·))

def Endpoint.toDocument (e : Endpoint) : Document :=
  recordDocument [
    ("kind", some (.text e.kind.id)),
    ("path", some (.text e.path)),
    ("host", e.host.map .text),
    ("user", e.user.map .text),
    ("private_key_path", e.privateKey.map .text),
    ("branch", e.branch.map .text),
    ("use_github_cli", some (.bool e.useGithubCli)),
    ("force_sudo", e.forceSudo.map .bool)]

def PackageList.toDocument (l : PackageList) : Document :=
  .sequence (l.names.map .text)

def System.toDocument (s : System) : Document :=
  recordDocument [
    ("package_manager", some (.text s.packageManager.id)),
    ("install_tools", some (.bool s.installTools)),
    ("configure_firewall", some (.bool s.configureFirewall)),
    ("install_dependencies", some (.bool s.installDependencies)),
    ("python_packages", some s.pythonPackages.toDocument)]

def SyncOptions.toDocument (o : SyncOptions) : Document :=
  recordDocument [
    ("dry_run", some (.bool o.dryRun)),
    ("executable", some (.text o.executable))]

def Plan.toDocument (p : Plan) : Document :=
  recordDocument [
    ("source", some p.source.toDocument),
    ("target", some p.target.toDocument),
    ("system", some p.system.toDocument),
    ("sync", some p.sync.toDocument)]

end SyncScript
