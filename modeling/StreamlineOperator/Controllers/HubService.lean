/- source: src/src/controllers/operator_hub.rs
   digest: All calls of the hub: what each reads or changes, and what it answers. -/

import StreamlineOperator.Controllers.OperatorHub
import Mathlib.Data.List.Infix

set_option autoImplicit false
set_option relaxedAutoImplicit false

namespace StreamlineOperator.Controllers

open Foundation

/-- The scopes of all calls: those of the calls that change something, and the
listings. A hash map lists its entries in any order. -/
inductive HubAccess where
  | scope (s : HubScope)
  | listOperators
  | listInstalled
  | listBoth

/-- `listBoth` holds both guards: it looks names up in the one map and lists the
other. -/
abbrev HubAccess.Response : HubAccess → Type
  | scope s => s.Response
  | listOperators => List HubOperator
  | listInstalled => List InstalledOperator
  | listBoth => Std.ExtTreeMap String HubOperator × List (String × InstalledOperator)

def HubAccess.serve : (access : HubAccess) → OperatorHub → access.Response → OperatorHub → Prop
  | scope s, hub, response, hub' => s.serve hub response hub'
  | listOperators, hub, response, hub' =>
    response.Perm (hub.operators.toList.map Prod.snd) ∧ hub' = hub
  | listInstalled, hub, response, hub' =>
    response.Perm (hub.installed.toList.map Prod.snd) ∧ hub' = hub
  | listBoth, hub, response, hub' =>
    response.1 = hub.operators ∧ response.2.Perm hub.installed.toList ∧ hub' = hub

structure HubStats where
  availableCount : Nat
  installedCount : Nat
  updatesAvailable : Nat
  deriving DecidableEq

/-- What the calls of the hub return. -/
inductive HubReply where
  | available (operators : List HubOperator)
  | info (operator : Option HubOperator)
  | installed (operator : InstalledOperator)
  | uninstalled
  | upgraded (operator : InstalledOperator)
  | installedList (operators : List InstalledOperator)
  | updates (updates : List (String × String × String))
  | stats (stats : HubStats)
  deriving DecidableEq

abbrev HubService := Program HubAccess HubAccess.Response String

/-- A program of scopes as a program of the whole hub. -/
def HubService.ofScopes {α : Type} : HubProgram α → HubService α
  | .ok value => .ok value
  | .err error => .err error
  | .call s next => .call (.scope s) fun x => ofScopes (next x)

def access (a : HubAccess) : HubService a.Response := Program.send a

namespace OperatorHub

/-- The text has the query in it. -/
def containsText (text query : String) : Bool := decide (query.toList <:+: text.toList)

def listAvailable : HubService (List HubOperator) := access .listOperators

/-- `toLowercase` is the lower case of a text, of every alphabet. -/
def search (toLowercase : String → String) (query : String) : HubService (List HubOperator) := do
  let q := toLowercase query
  let ops ← access .listOperators
  return ops.filter fun op =>
    containsText (toLowercase op.name) q || containsText (toLowercase op.description) q

def getOperatorInfo (name : String) : HubService (Option HubOperator) :=
  access (.scope (.readOperator name))

def getInstalled : HubService (List InstalledOperator) := access .listInstalled

/-- Name, installed version and available version of what differs. -/
def updatesOf (ops : Std.ExtTreeMap String HubOperator)
    (inst : List (String × InstalledOperator)) : List (String × String × String) :=
  inst.filterMap fun (name, installed) =>
    match ops[name]? with
    | some available =>
      if available.version ≠ installed.version then
        some (name, installed.version, available.version)
      else none
    | none => none

def checkUpdates : HubService (List (String × String × String)) := do
  let (ops, inst) ← access .listBoth
  return updatesOf ops inst

/-- The updates are counted the way they are listed. -/
def stats : HubService HubStats := do
  let (ops, inst) ← access .listBoth
  let updatesAvailable := inst.countP fun (name, installed) =>
    match ops[name]? with
    | some available => decide (available.version ≠ installed.version)
    | none => false
  return { availableCount := ops.size, installedCount := inst.length, updatesAvailable }

end OperatorHub

/-- A call of the hub. -/
inductive HubRequest where
  | listAvailable
  | search (query : String)
  | getOperatorInfo (name : String)
  | install (name : String)
  | uninstall (name : String)
  | upgrade (name : String)
  | getInstalled
  | checkUpdates
  | stats
  deriving DecidableEq

open HubService (ofScopes) in
/-- The program of a call, with what it returns. -/
def HubRequest.program (toLowercase : String → String) (config : HubConfig) :
    HubRequest → HubService HubReply
  | listAvailable => OperatorHub.listAvailable.bind (.ok ∘ .available)
  | search query => (OperatorHub.search toLowercase query).bind (.ok ∘ .available)
  | getOperatorInfo name => (OperatorHub.getOperatorInfo name).bind (.ok ∘ .info)
  | install name => (ofScopes (OperatorHub.install config name)).bind (.ok ∘ .installed)
  | uninstall name => (ofScopes (OperatorHub.uninstall name)).bind fun _ => .ok .uninstalled
  | upgrade name => (ofScopes (OperatorHub.upgrade name)).bind (.ok ∘ .upgraded)
  | getInstalled => OperatorHub.getInstalled.bind (.ok ∘ .installedList)
  | checkUpdates => OperatorHub.checkUpdates.bind (.ok ∘ .updates)
  | stats => OperatorHub.stats.bind (.ok ∘ .stats)

end StreamlineOperator.Controllers
