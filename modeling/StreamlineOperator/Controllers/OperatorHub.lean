/- source: src/src/controllers/operator_hub.rs
   digest: The hub's calls, each a sequence of lock-guarded scopes over the shared maps. -/

import StreamlineOperator.Foundation.Interleaving
import StreamlineOperator.Foundation.Text

set_option autoImplicit false
set_option relaxedAutoImplicit false

namespace StreamlineOperator.Controllers

open Foundation

/-- Name, version and description of the operators every release ships with. -/
def bundledOperators : List (String × String × String) := [
  ("postgresql", "5.0.0", "PostgreSQL operator for CDC source integration"),
  ("redis", "7.0.0", "Redis operator for cache-aside streaming patterns"),
  ("elasticsearch", "8.0.0", "Elasticsearch operator for search sink integration"),
  ("minio", "5.0.0", "MinIO operator for S3-compatible tiered storage"),
  ("prometheus", "0.70.0", "Prometheus operator for metrics collection")]

def defaultRegistryUrl : String := "https://hub.streamline.dev/operators"

def defaultMaxInstalled : Nat := 50

structure HubConfig where
  registryUrl : String := defaultRegistryUrl
  autoUpdate : Bool := false
  maxInstalled : Nat := defaultMaxInstalled
  requireVerified : Bool := false
  deriving DecidableEq

inductive OperatorCategory where
  | database
  | cache
  | messageQueue
  | monitoring
  | storage
  | networking
  | security
  | custom (name : String)
  deriving DecidableEq

inductive IntegrationType where
  | source
  | sink
  | sidecar
  | standalone
  deriving DecidableEq

/-- The rating is an `f64` in the source; nothing is computed with it. -/
structure HubOperator where
  name : String
  version : String
  description : String
  category : OperatorCategory
  author : String
  verified : Bool
  downloads : UInt64
  rating : Rat
  crds : List String
  streamlineIntegration : IntegrationType
  minK8sVersion : String
  publishedAt : String
  deriving DecidableEq

inductive InstallStatus where
  | installing
  | running
  | failed (message : String)
  | upgrading
  | removing
  deriving DecidableEq

structure InstalledOperator where
  name : String
  version : String
  namespaceName : String
  status : InstallStatus
  installedAt : String
  lastReconcileAt : Option String
  deriving DecidableEq

abbrev InstalledMap := Std.ExtTreeMap String InstalledOperator

structure OperatorHub where
  operators : Std.ExtTreeMap String HubOperator
  installed : InstalledMap
  config : HubConfig

def bundledCategory (name : String) : OperatorCategory :=
  match name with
  | "postgresql" => .database
  | "redis" => .cache
  | "elasticsearch" => .storage
  | "minio" => .storage
  | "prometheus" => .monitoring
  | _ => .custom name

def bundledIntegration (name : String) : IntegrationType :=
  match name with
  | "postgresql" => .source
  | "redis" => .sidecar
  | "elasticsearch" => .sink
  | "minio" => .standalone
  | "prometheus" => .sidecar
  | _ => .standalone

def bundledOperator (name version description : String) : HubOperator where
  name := name
  version := version
  description := description
  category := bundledCategory name
  author := "streamline"
  verified := true
  downloads := 0
  rating := 0
  crds := [name ++ "s.streamline.dev"]
  streamlineIntegration := bundledIntegration name
  minK8sVersion := "1.26"
  publishedAt := "2025-01-01T00:00:00Z"

/-- A hub seeded with the bundled operators. -/
def OperatorHub.new (config : HubConfig) : OperatorHub where
  operators := bundledOperators.foldl (fun operators entry =>
    operators.insert entry.1 (bundledOperator entry.1 entry.2.1 entry.2.2)) ∅
  installed := ∅
  config := config

/-- The scopes of the hub's calls: what is done while one guard is held, or one
clock reading. -/
inductive HubScope where
  | readOperator (name : String)
  | readInstalled (name : String)
  | clock
  | insertInstalled (name : String) (operator : InstalledOperator)
  | removeInstalled (name : String)
  | upgradeInstalled (name latestVersion : String)

/-- `readInstalled` returns the number of entries and whether the name is one. -/
abbrev HubScope.Response : HubScope → Type
  | readOperator _ => Option HubOperator
  | readInstalled _ => Nat × Bool
  | clock => String
  | insertInstalled .. => Unit
  | removeInstalled _ => Option InstalledOperator
  | upgradeInstalled .. => Except String InstalledOperator

/-- What a scope answers and leaves, at a clock reading. -/
def HubScope.run (now : String) : (scope : HubScope) → OperatorHub → scope.Response × OperatorHub
  | readOperator name, hub => (hub.operators[name]?, hub)
  | readInstalled name, hub => ((hub.installed.size, hub.installed.contains name), hub)
  | clock, hub => (now, hub)
  | insertInstalled name operator, hub =>
    ((), { hub with installed := hub.installed.insert name operator })
  | removeInstalled name, hub =>
    (hub.installed[name]?, { hub with installed := hub.installed.erase name })
  | upgradeInstalled name latestVersion, hub =>
    match hub.installed[name]? with
    | some operator =>
      if operator.version = latestVersion then
        (.error ("operator '" ++ name ++ "' is already at latest version " ++ latestVersion), hub)
      else
        let operator := { operator with
          version := latestVersion, status := .running, lastReconcileAt := some now }
        (.ok operator, { hub with installed := hub.installed.insert name operator })
    | none => (.error ("operator '" ++ name ++ "' is not installed"), hub)

/-- A scope runs atomically, whatever the clock says. -/
def HubScope.serve (scope : HubScope) (hub : OperatorHub) (response : scope.Response)
    (hub' : OperatorHub) : Prop :=
  ∃ now, scope.run now hub = (response, hub')

abbrev HubProgram := Program HubScope HubScope.Response String

def scope (s : HubScope) : HubProgram s.Response := Program.send s

namespace OperatorHub

/-- Capacity and duplicates are checked under one guard, the map is written
under another. -/
def install (config : HubConfig) (name : String) : HubProgram InstalledOperator := do
  match ← scope (.readOperator name) with
  | none => .err ("operator '" ++ name ++ "' not found in hub")
  | some op =>
    if config.requireVerified && !op.verified then
      .err ("operator '" ++ name ++ "' is not verified")
    else
      let (len, contains) ← scope (.readInstalled name)
      if len ≥ config.maxInstalled then
        .err ("maximum installed operators (" ++ toString config.maxInstalled ++ ") reached")
      else if contains then .err ("operator '" ++ name ++ "' is already installed")
      else
        let now ← scope .clock
        let installedOp : InstalledOperator :=
          { name, version := op.version, namespaceName := "streamline-system", status := .running,
            installedAt := now, lastReconcileAt := none }
        scope (.insertInstalled name installedOp)
        return installedOp

def uninstall (name : String) : HubProgram Unit := do
  match ← scope (.removeInstalled name) with
  | some _ => return ()
  | none => .err ("operator '" ++ name ++ "' is not installed")

def upgrade (name : String) : HubProgram InstalledOperator := do
  match ← scope (.readOperator name) with
  | none => .err ("operator '" ++ name ++ "' not found in hub")
  | some op =>
    match ← scope (.upgradeInstalled name op.version) with
    | .ok installed => return installed
    | .error e => .err e

end OperatorHub

/-- The calls that change what is installed. -/
inductive HubCall where
  | install (name : String)
  | uninstall (name : String)
  | upgrade (name : String)
  deriving DecidableEq

/-- The program of a call, its value left out. -/
def HubCall.program (config : HubConfig) : HubCall → HubProgram Unit
  | install name => (OperatorHub.install config name).bind fun _ => .ok ()
  | uninstall name => OperatorHub.uninstall name
  | upgrade name => (OperatorHub.upgrade name).bind fun _ => .ok ()

end StreamlineOperator.Controllers
