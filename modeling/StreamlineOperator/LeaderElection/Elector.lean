/- source: src/src/leader_election.rs
   digest: Acquiring, renewing and releasing the Lease, as sequences of calls. -/

import StreamlineOperator.LeaderElection.Lease

set_option autoImplicit false
set_option relaxedAutoImplicit false

namespace StreamlineOperator.LeaderElection

open Foundation
open Kubernetes (KubeError)

def leaseName : String := "streamline-operator-leader"

def leaseDurationSecs : Int32 := 15

/-- The interval between renewals, in microseconds. -/
def renewInterval : Int := 10000000

/-- The pause between two attempts to acquire, in microseconds. -/
def retryInterval : Int := 5000000

abbrev LeaseExchange := Exchange LeaseRequest LeaseRequest.Response

abbrev LeaseProgram := Program LeaseRequest LeaseRequest.Response KubeError

def send (request : LeaseRequest) : LeaseProgram request.Response := Program.send request

/-- Whole seconds elapsed, as `num_seconds` has them. -/
def elapsedSeconds (since now : MicroTime) : Int := (now - since).tdiv 1000000

/-- `is_expired`, at a reading of the clock. -/
def expiredAt (spec : Option LeaseSpec) (now : MicroTime) : Bool :=
  let durationSecs := ((spec.bind LeaseSpec.leaseDurationSeconds).getD leaseDurationSecs).toInt
  match spec.bind LeaseSpec.renewTime with
  | some t => elapsedSeconds t now > durationSecs
  | none => true

namespace LeaderElector

/-- The clock is read only where there is a renew time to compare it with. -/
def isExpired (spec : Option LeaseSpec) : LeaseProgram Bool :=
  match spec.bind LeaseSpec.renewTime with
  | some _ => do
    let now ← send .clock
    return expiredAt spec now
  | none => return true

/-- `Ok(_) => Ok(true)`, a conflict is `Ok(false)`, and any other error is one. -/
def orConflict (response : Except KubeError Unit) : LeaseProgram Bool :=
  match response with
  | .ok _ => return true
  | .error e => if e.code = some 409 then return false else .err e

def newLease (identity : String) (now : MicroTime) : Lease where
  name := some leaseName
  spec := some
    { holderIdentity := some identity
      leaseDurationSeconds := some leaseDurationSecs
      acquireTime := some now
      renewTime := some now
      leaseTransitions := some 0 }

def createLease (identity : String) (now : MicroTime) : LeaseProgram Bool := do
  orConflict (← send (.create (newLease identity now)))

def updatedLease (identity : String) (existing : Lease) (now : MicroTime) (takeover : Bool) :
    Lease :=
  let transitions := (existing.spec.bind LeaseSpec.leaseTransitions).getD 0
  { existing with
    spec := some
      { holderIdentity := some identity
        leaseDurationSeconds := some leaseDurationSecs
        acquireTime :=
          if takeover then some now else existing.spec.bind LeaseSpec.acquireTime
        renewTime := some now
        leaseTransitions := some (if takeover then transitions + 1 else transitions) } }

def updateLease (identity : String) (existing : Lease) (now : MicroTime) (takeover : Bool) :
    LeaseProgram Bool := do
  orConflict (← send (.replace (updatedLease identity existing now takeover)))

/-- Take over a Lease of another elector if it is expired. -/
def attemptTakeover (identity : String) (existing : Lease) (now : MicroTime) :
    LeaseProgram Bool := do
  if ← isExpired existing.spec then updateLease identity existing now true else return false

/-- What `tryAcquire` makes of the Lease it reads. -/
def tryAcquireFound (identity : String) (now : MicroTime) :
    Except KubeError Lease → LeaseProgram Bool
  | .ok existing =>
    if existing.holder = some identity then updateLease identity existing now false
    else attemptTakeover identity existing now
  | .error e => if e.code = some 404 then createLease identity now else .err e

def tryAcquire (identity : String) : LeaseProgram Bool := do
  let now ← send .clock
  tryAcquireFound identity now (← send .get)

/-- The loop of `acquire`, for a number of attempts: `false` means it is still
trying. What happens during the pauses is up to the interleaving. -/
def acquire (identity : String) : Nat → LeaseProgram Bool
  | 0 => return false
  | attempts + 1 => do
    match ← (tryAcquire identity).attempt with
    | .ok true => return true
    | _ => acquire identity attempts

def renewedLease (lease : Lease) (now : MicroTime) : Lease :=
  { lease with spec := lease.spec.map fun spec => { spec with renewTime := some now } }

/-- What `renew` makes of the Lease it reads. -/
def renewFound (identity : String) : Except KubeError Lease → LeaseProgram Bool
  | .error e => .err e
  | .ok lease =>
    if lease.holder ≠ some identity then return false
    else do
      let now ← send .clock
      orConflict (← send (.replace (renewedLease lease now)))

/-- Renew the Lease: `true` if still the leader, `false` if the Lease is lost. -/
def renew (identity : String) : LeaseProgram Bool := do
  renewFound identity (← send .get)

def releasedLease (lease : Lease) : Lease :=
  { lease with spec := lease.spec.map fun spec => { spec with holderIdentity := none } }

/-- What `release` makes of the Lease it reads. -/
def releaseFound (identity : String) : Except KubeError Lease → LeaseProgram Unit
  | .error _ => return ()
  | .ok lease =>
    if lease.holder ≠ some identity then return ()
    else do
      let _ ← send (.replace (releasedLease lease))
      return ()

/-- Clear the holder, if it is this elector. -/
def release (identity : String) : LeaseProgram Unit := do
  releaseFound identity (← send .get)

end LeaderElector

/-- The operations of an elector. -/
inductive LeaseOp where
  | tryAcquire
  | acquire (attempts : Nat)
  | renew
  | release
  deriving DecidableEq

/-- The program of an operation. A release returns nothing, here `false`. -/
def LeaseOp.program (identity : String) : LeaseOp → LeaseProgram Bool
  | tryAcquire => LeaderElector.tryAcquire identity
  | acquire attempts => LeaderElector.acquire identity attempts
  | renew => LeaderElector.renew identity
  | release => (LeaderElector.release identity).bind fun _ => .ok false

end StreamlineOperator.LeaderElection
