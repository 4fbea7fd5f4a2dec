/- source: src/src/main.rs (leadership acquisition, lease renewal, shutdown), src/src/health.rs
   digest: Replicas with exact timers and one synchronized clock; only a call's latency is open. -/

import Mathlib.Data.Fintype.Defs
import StreamlineOperator.LeaderElection.Elector

set_option autoImplicit false
set_option relaxedAutoImplicit false

namespace StreamlineOperator.LeaderElection

open Foundation
open Kubernetes (KubeError)

/-- A call under way: before it takes effect at the server it has no answer, and
after that its answer is on the way back. -/
structure Call where
  request : LeaseRequest
  next : request.Response → LeaseProgram Bool
  answer : Option request.Response

/-- An operation waits for a call, or is done. -/
inductive Settled where
  | waits (call : Call)
  | done (result : Except KubeError Bool)

/-- Local computation is instantaneous: an operation goes on to its next call,
reading the clock as often as it likes. -/
def settle (now : MicroTime) : LeaseProgram Bool → Settled
  | .ok b => .done (.ok b)
  | .err e => .done (.error e)
  | .call .clock next => settle now (next now)
  | .call .get next => .waits ⟨.get, next, none⟩
  | .call (.create lease) next => .waits ⟨.create lease, next, none⟩
  | .call (.replace lease) next => .waits ⟨.replace lease, next, none⟩

namespace Call

/-- The call reaches the server. -/
def takeEffect (self : Call) (now : MicroTime) (store : LeaseStore) : Option (Call × LeaseStore) :=
  match self.answer with
  | some _ => none
  | none =>
    let (response, store') := self.request.answer now store
    some ({ self with answer := some response }, store')

/-- The answer reaches the caller. -/
def resume (self : Call) (now : MicroTime) : Option Settled :=
  self.answer.map fun response => settle now (self.next response)

/-- A write that is stored and not yet reported so. -/
def isStoredWrite (self : Call) : Bool :=
  match self with
  | ⟨.create _, _, some (.ok _)⟩ => true
  | ⟨.replace _, _, some (.ok _)⟩ => true
  | _ => false

end Call

/-- The main task: `acquire`, the `select!`, `release`. -/
inductive MainTask where
  | idle
  | acquiring (call : Call)
  | retrying (wake : MicroTime)
  | leading
  | releasing (call : Call)
  | exited

/-- The lease renewal task. -/
inductive RenewTask where
  | idle
  | sleeping (wake : MicroTime)
  | renewing (call : Call)
  | ended

/-- One process. `leader` is what `ReadinessState::is_leader` returns. -/
structure Replica where
  leader : Bool := false
  main : MainTask := .idle
  renewal : RenewTask := .idle

namespace Replica

/-- Where the loop of `acquire` goes on: leadership is recorded as soon as it
returns, and renewal starts. -/
def afterAcquire (self : Replica) (now : MicroTime) : Settled → Replica
  | .waits call => { self with main := .acquiring call }
  | .done (.ok true) =>
    { leader := true, main := .leading, renewal := .sleeping (now + renewInterval) }
  | .done _ => { self with main := .retrying (now + retryInterval) }

def attemptAcquire (self : Replica) (name : String) (now : MicroTime) : Replica :=
  self.afterAcquire now (settle now (LeaseOp.tryAcquire.program name))

def afterRelease (self : Replica) : Settled → Replica
  | .waits call => { self with main := .releasing call }
  | .done _ => { self with main := .exited }

/-- What follows the `select!`: leadership is dropped before the Lease is
released. -/
def shutDown (self : Replica) (name : String) (now : MicroTime) : Replica :=
  { self with leader := false }.afterRelease (settle now (LeaseOp.release.program name))

/-- Where the renewal loop goes on. Without the Lease it ends, which ends the
`select!` of the main task. -/
def afterRenew (self : Replica) (name : String) (now : MicroTime) : Settled → Replica
  | .waits call => { self with renewal := .renewing call }
  | .done (.ok true) => { self with renewal := .sleeping (now + renewInterval) }
  | .done _ =>
    let ended := { self with leader := false, renewal := .ended }
    match self.main with
    | .leading => ended.shutDown name now
    | _ => ended

def attemptRenew (self : Replica) (name : String) (now : MicroTime) : Replica :=
  self.afterRenew name now (settle now (LeaseOp.renew.program name))

/-- No timer of the process is due before `time`. -/
def awaits (self : Replica) (time : MicroTime) : Bool :=
  (match self.main with
    | .retrying wake => time ≤ wake
    | _ => true) &&
  match self.main, self.renewal with
  | .exited, _ => true
  | _, .sleeping wake => time ≤ wake
  | _, _ => true

/-- The process records leadership, or is bound to: a write of its `acquire` is
stored. -/
def countsOn (self : Replica) : Bool :=
  self.leader ||
    match self.main with
    | .acquiring call => call.isStoredWrite
    | _ => false

end Replica

/-- The two tasks of a replica that make calls. -/
inductive TaskId where
  | main
  | renewal
  deriving DecidableEq, Repr

/-- What can happen: time passes, a process starts or is told to stop, a call
takes effect or returns, a timer fires. -/
inductive Action (ι : Type) where
  | advance (time : MicroTime)
  | start (i : ι)
  | stop (i : ι)
  | takeEffect (i : ι) (task : TaskId)
  | answer (i : ι) (task : TaskId)
  | wake (i : ι) (task : TaskId)

structure Deployment (ι : Type) where
  now : MicroTime
  store : LeaseStore
  replica : ι → Replica

namespace Deployment

variable {ι : Type} [Fintype ι] [DecidableEq ι]

def initial (store : LeaseStore) (now : MicroTime) : Deployment ι := ⟨now, store, fun _ => {}⟩

def set (self : Deployment ι) (i : ι) (replica : Replica) : Deployment ι :=
  { self with replica := Function.update self.replica i replica }

/-- A call of a replica takes effect. -/
def takeEffect (self : Deployment ι) (i : ι) (task : TaskId) : Option (Deployment ι) :=
  let replica := self.replica i
  match task, replica.main, replica.renewal with
  | .main, .acquiring call, _ =>
    (call.takeEffect self.now self.store).map fun (call, store) =>
      { self.set i { replica with main := .acquiring call } with store }
  | .main, .releasing call, _ =>
    (call.takeEffect self.now self.store).map fun (call, store) =>
      { self.set i { replica with main := .releasing call } with store }
  | .renewal, _, .renewing call =>
    (call.takeEffect self.now self.store).map fun (call, store) =>
      { self.set i { replica with renewal := .renewing call } with store }
  | _, _, _ => none

/-- The answer of a call returns to its task; an exited process has none. -/
def answer (names : ι → String) (self : Deployment ι) (i : ι) (task : TaskId) :
    Option (Deployment ι) :=
  let replica := self.replica i
  match task, replica.main, replica.renewal with
  | .main, .acquiring call, _ =>
    (call.resume self.now).map fun settled => self.set i (replica.afterAcquire self.now settled)
  | .main, .releasing call, _ =>
    (call.resume self.now).map fun settled => self.set i (replica.afterRelease settled)
  | .renewal, .exited, _ => none
  | .renewal, _, .renewing call =>
    (call.resume self.now).map fun settled =>
      self.set i (replica.afterRenew (names i) self.now settled)
  | _, _, _ => none

/-- A timer fires, exactly when it is due. -/
def wake (names : ι → String) (self : Deployment ι) (i : ι) (task : TaskId) : Option (Deployment ι) :=
  let replica := self.replica i
  match task, replica.main, replica.renewal with
  | .main, .retrying wake, _ =>
    if self.now = wake then some (self.set i (replica.attemptAcquire (names i) self.now)) else none
  | .renewal, .exited, _ => none
  | .renewal, _, .sleeping wake =>
    if self.now = wake then some (self.set i (replica.attemptRenew (names i) self.now)) else none
  | _, _, _ => none

def step (names : ι → String) (self : Deployment ι) : Action ι → Option (Deployment ι)
  | .advance time =>
    if self.now < time ∧ ∀ i, (self.replica i).awaits time = true then
      some { self with now := time }
    else none
  | .start i =>
    match (self.replica i).main with
    | .idle => some (self.set i ((self.replica i).attemptAcquire (names i) self.now))
    | _ => none
  | .stop i =>
    match (self.replica i).main with
    | .leading => some (self.set i ((self.replica i).shutDown (names i) self.now))
    | _ => none
  | .takeEffect i task => self.takeEffect i task
  | .answer i task => answer names self i task
  | .wake i task => wake names self i task

/-- Runs whose steps all satisfy a condition on the state before them. -/
inductive RunWhere (condition : Deployment ι → Action ι → Prop) (names : ι → String)
    (w₀ : Deployment ι) : Deployment ι → Prop
  | refl : RunWhere condition names w₀ w₀
  | step {w w' : Deployment ι} {action : Action ι} : RunWhere condition names w₀ w →
      condition w action → step names w action = some w' → RunWhere condition names w₀ w'

/-- Let the actions happen in this order, each under the condition. -/
def runWhere (condition : Deployment ι → Action ι → Prop)
    [∀ w action, Decidable (condition w action)] (names : ι → String) :
    List (Action ι) → Deployment ι → Option (Deployment ι)
  | [], w => some w
  | action :: rest, w =>
    if condition w action then (step names w action).bind (runWhere condition names rest) else none

theorem runWhere_of_eq {condition : Deployment ι → Action ι → Prop}
    [∀ w action, Decidable (condition w action)] {names : ι → String} {actions : List (Action ι)}
    {w₀ w w' : Deployment ι} (hr : RunWhere condition names w₀ w)
    (h : runWhere condition names actions w = some w') : RunWhere condition names w₀ w' := by
  induction actions generalizing w with
  | nil =>
    obtain rfl := Option.some.inj h
    exact hr
  | cons action rest ih =>
    simp only [runWhere, Option.ite_none_right_eq_some, Option.bind_eq_some_iff] at h
    obtain ⟨hcondition, v, hstep, hrest⟩ := h
    exact ih (hr.step hcondition hstep) hrest

end Deployment

end StreamlineOperator.LeaderElection
