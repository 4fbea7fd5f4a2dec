/- source: src/src/leader_election.rs (release, try_acquire, is_expired, update_lease)
   digest: When a released Lease can be taken over at once. -/

import StreamlineOperator.Foundation.ServedRuns
import StreamlineOperator.LeaderElection.Elector

set_option autoImplicit false
set_option relaxedAutoImplicit false

namespace StreamlineOperator.LeaderElection

open Foundation
open Kubernetes (KubeError)

/-- The stored Lease, and what the clock will say when it is looked at. -/
structure TimedStore where
  store : LeaseStore
  readings : Nat → MicroTime

namespace LeaseRequest

/-- The readings still to come after a call. -/
def readingsAfter : LeaseRequest → (Nat → MicroTime) → Nat → MicroTime
  | clock, readings => fun n => readings (n + 1)
  | _, readings => readings

/-- The answer to a call that succeeds, or the next reading of the clock. -/
def answerInTime (request : LeaseRequest) (timed : TimedStore) : request.Response × TimedStore :=
  let answered := request.answer (timed.readings 0) timed.store
  (answered.1, ⟨answered.2, request.readingsAfter timed.readings⟩)

end LeaseRequest

namespace LeaseStore

def spec (self : LeaseStore) : Option LeaseSpec := self.lease.bind Lease.spec

/-- The transition counter, zero while there is none. -/
def transitions (self : LeaseStore) : Int32 := (self.spec.bind LeaseSpec.leaseTransitions).getD 0

end LeaseStore

/-- A run of the program in which every call is answered ends like this. -/
def Ends {α : Type} (program : LeaseProgram α) (timed : TimedStore) (res : Except KubeError α)
    (timed' : TimedStore) : Prop :=
  ∃ tr, Program.Runs program tr res ∧
    Served (fun request s x s' => request.answerInTime s = (x, s')) timed tr timed'

/-- After a release by the one elector, the next attempt of the other one
succeeds and counts as one transition. The attempt looks at the clock when it
starts and, as far as it has to, for the expiry; a release does not. -/
def HandsOver (identity successor : String) (timed : TimedStore) : Prop :=
  ∀ res released, Ends (LeaderElector.release identity) timed res released →
    ∀ res' taken, Ends (LeaderElector.tryAcquire successor) released res' taken →
      res = .ok () ∧ res' = .ok true ∧ taken.store.holder = some successor ∧
        taken.store.transitions.toInt = timed.store.transitions.toInt + 1

private theorem ends_iff {α : Type} {program : LeaseProgram α} {timed timed' : TimedStore}
    {res : Except KubeError α} :
    Ends program timed res timed' ↔
      program.eval LeaseRequest.answerInTime timed = (res, timed') :=
  Program.eval_eq_iff.symm

/-- There is one run of the two operations, and it can be computed. -/
theorem handsOver_iff_eval (identity successor : String) (timed : TimedStore) :
    HandsOver identity successor timed ↔
      let released := (LeaderElector.release identity).eval LeaseRequest.answerInTime timed
      let taken := (LeaderElector.tryAcquire successor).eval LeaseRequest.answerInTime released.2
      released.1 = .ok () ∧ taken.1 = .ok true ∧ taken.2.store.holder = some successor ∧
        taken.2.store.transitions.toInt = timed.store.transitions.toInt + 1 := by
  constructor
  · intro h
    exact h _ _ (ends_iff.mpr rfl) _ _ (ends_iff.mpr rfl)
  · intro h res released hreleased res' taken htaken
    rw [ends_iff] at hreleased htaken
    simp only [hreleased, htaken] at h
    exact h

section Calls

variable {timed : TimedStore} {lease stored : Lease}

private theorem answerInTime_get (h : timed.store.lease = some lease) :
    LeaseRequest.get.answerInTime timed = (.ok lease, timed) := by
  simp only [LeaseRequest.answerInTime, LeaseRequest.answer, LeaseRequest.readingsAfter, h]

private theorem answerInTime_replace (h : timed.store.lease = some stored)
    (hversion : stored.resourceVersion = lease.resourceVersion) :
    (LeaseRequest.replace lease).answerInTime timed =
      (.ok (), ⟨timed.store.put lease, timed.readings⟩) := by
  simp only [LeaseRequest.answerInTime, LeaseRequest.answer, LeaseRequest.readingsAfter, h,
    if_pos hversion]

theorem eval_release {identity : String} (h : timed.store.lease = some lease)
    (hholder : lease.holder = some identity) :
    (LeaderElector.release identity).eval LeaseRequest.answerInTime timed =
      (.ok (), ⟨timed.store.put (LeaderElector.releasedLease lease), timed.readings⟩) := by
  have hkept : lease.resourceVersion = (LeaderElector.releasedLease lease).resourceVersion := rfl
  simp only [LeaderElector.release, LeaderElector.releaseFound, send, Program.bind_eq,
    Program.send_bind, Program.pure_eq, Program.eval_call, answerInTime_get h, hholder, ne_eq,
    not_true, if_false, answerInTime_replace h hkept, Program.eval_ok]

private theorem answerInTime_clock :
    LeaseRequest.clock.answerInTime timed =
      (timed.readings 0, ⟨timed.store, fun n => timed.readings (n + 1)⟩) := rfl

theorem eval_tryAcquire {successor : String} (h : timed.store.lease = some lease)
    (hholder : lease.holder = none) :
    let ended := (LeaderElector.tryAcquire successor).eval LeaseRequest.answerInTime timed
    ended.1 = .ok (expiredAt lease.spec (timed.readings 1)) ∧
      ended.2.store = if expiredAt lease.spec (timed.readings 1) = true then
        timed.store.put (LeaderElector.updatedLease successor lease (timed.readings 0) true)
      else timed.store := by
  have hfound : ∀ readings, LeaseRequest.get.answerInTime ⟨timed.store, readings⟩ =
      (.ok lease, ⟨timed.store, readings⟩) := fun readings => answerInTime_get h
  have hreplaced : ∀ readings,
      (LeaseRequest.replace (LeaderElector.updatedLease successor lease (timed.readings 0)
        true)).answerInTime ⟨timed.store, readings⟩ =
        (.ok (), ⟨timed.store.put (LeaderElector.updatedLease successor lease (timed.readings 0)
          true), readings⟩) := fun readings => answerInTime_replace h rfl
  have hvacant : ¬ lease.holder = some successor := by simp [hholder]
  simp only [LeaderElector.tryAcquire, LeaderElector.tryAcquireFound, send, Program.bind_eq,
    Program.send_bind, Program.eval_call, answerInTime_clock, hfound, if_neg hvacant,
    LeaderElector.attemptTakeover, LeaderElector.isExpired]
  cases hrenew : lease.spec.bind LeaseSpec.renewTime with
  | none =>
    have hexpired : expiredAt lease.spec (timed.readings 1) = true := by
      simp only [expiredAt, hrenew]
    simp only [Program.pure_eq, Program.ok_bind, if_true, LeaderElector.updateLease, send,
      Program.bind_eq, Program.send_bind, Program.eval_call, hreplaced, LeaderElector.orConflict,
      Program.eval_ok, hexpired, and_self]
  | some renewed =>
    simp only [Program.pure_eq, Program.call_bind, Program.ok_bind, Program.eval_call,
      answerInTime_clock]
    by_cases hexpired : expiredAt lease.spec (timed.readings 1) = true
    · simp only [Nat.zero_add, hexpired, if_true, LeaderElector.updateLease, send,
        Program.bind_eq, Program.send_bind, Program.eval_call, hreplaced, LeaderElector.orConflict,
        Program.pure_eq, Program.eval_ok, and_self]
    · simp only [Nat.zero_add, hexpired, if_false, Bool.false_eq_true, Program.eval_ok, and_self]

end Calls

private theorem toInt_add_one_eq_iff {n : Int32} :
    (n + 1).toInt = n.toInt + 1 ↔ n ≠ 2147483647 := by
  have hlo := n.le_toInt
  have hhi := n.toInt_lt
  have hmax : n = 2147483647 ↔ n.toInt = 2147483647 := by
    rw [← Int32.toInt_inj]
    rfl
  have hone : (1 : Int32).toInt = 1 := rfl
  rw [ne_eq, hmax, Int32.toInt_add, hone, Int.bmod_def]
  omega

private theorem expiredAt_releasedLease (lease : Lease) (now : MicroTime) :
    expiredAt (LeaderElector.releasedLease lease).spec now = expiredAt lease.spec now := by
  unfold LeaderElector.releasedLease expiredAt
  cases lease.spec <;> rfl

/-- A released Lease is handed over at once exactly when it was expired anyway,
and its counter does not overflow. -/
theorem release_handsOver_iff (identity successor : String) (timed : TimedStore)
    (h : timed.store.holder = some identity) :
    HandsOver identity successor timed ↔
      expiredAt timed.store.spec (timed.readings 1) = true ∧
        timed.store.transitions ≠ 2147483647 := by
  rw [LeaseStore.holder, Option.bind_eq_some_iff] at h
  obtain ⟨lease, hlease, hholder⟩ := h
  obtain ⟨spec, hspec, -⟩ := Option.bind_eq_some_iff.mp hholder
  have hstored : timed.store.spec = lease.spec := by rw [LeaseStore.spec, hlease, Option.bind_some]
  have hcleared : (LeaderElector.releasedLease lease).holder = none := by
    rw [LeaderElector.releasedLease, Lease.holder, hspec]
    rfl
  have htransitions : timed.store.transitions = spec.leaseTransitions.getD 0 := by
    rw [LeaseStore.transitions, hstored, hspec, Option.bind_some]
  have hreleased := eval_release hlease hholder
  -- The stored copy has the new version, and expires as the one before it.
  obtain ⟨htaken, hstore⟩ := @eval_tryAcquire ⟨timed.store.put (LeaderElector.releasedLease lease),
    timed.readings⟩ _ successor rfl hcleared
  have hexpired : ∀ now, expiredAt ((LeaderElector.releasedLease lease).spec) now =
      expiredAt lease.spec now := expiredAt_releasedLease lease
  rw [hexpired] at htaken hstore
  dsimp only at htaken hstore
  simp only [handsOver_iff_eval, hreleased, true_and, htaken, hstore, hstored, htransitions]
  by_cases hnow : expiredAt lease.spec (timed.readings 1) = true
  · have hcount : (LeaseStore.put (timed.store.put (LeaderElector.releasedLease lease))
        (LeaderElector.updatedLease successor
          { LeaderElector.releasedLease lease with
            resourceVersion := some (timed.store.revision + 1) }
          (timed.readings 0) true)).transitions = spec.leaseTransitions.getD 0 + 1 := by
      rw [LeaderElector.releasedLease, hspec]
      rfl
    rw [if_pos hnow, hcount, toInt_add_one_eq_iff]
    simp only [hnow, true_and]
    exact and_iff_right rfl
  · simp only [hnow, Except.ok.injEq, false_and, Bool.false_eq_true]

/-- A Lease that `operator-0` renewed at zero, for fifteen seconds. -/
private def heldStore : LeaseStore where
  lease := some
    { resourceVersion := some 1
      spec := some
        { holderIdentity := some "operator-0"
          leaseDurationSeconds := some 15
          acquireTime := some 0
          renewTime := some 0
          leaseTransitions := some 0 } }
  revision := 1
  versioned := by
    intro stored h
    obtain rfl := Option.some.inj h
    exact ⟨1, rfl, Nat.le_refl 1⟩

theorem release_handsOver_iff_held :
    HandsOver "operator-0" "operator-1" ⟨heldStore, fun _ => 16000000⟩ ↔
      expiredAt heldStore.spec 16000000 = true ∧ heldStore.transitions ≠ 2147483647 :=
  release_handsOver_iff "operator-0" "operator-1" ⟨heldStore, fun _ => 16000000⟩ rfl

/-- Ten seconds after a renewal, the released Lease still counts as fresh. -/
theorem released_lease_blocks :
    ¬ ∀ (identity successor : String) (timed : TimedStore),
      timed.store.holder = some identity → successor ≠ identity →
        HandsOver identity successor timed := by
  intro h
  have hover := h "operator-0" "operator-1" ⟨heldStore, fun _ => 10000000⟩ rfl (by decide)
  obtain ⟨-, htaken, -⟩ := (handsOver_iff_eval ..).mp hover
  have hrefused : ((LeaderElector.tryAcquire "operator-1").eval LeaseRequest.answerInTime
      ((LeaderElector.release "operator-0").eval LeaseRequest.answerInTime
        ⟨heldStore, fun _ => 10000000⟩).2).1 = .ok false := rfl
  rw [hrefused] at htaken
  cases htaken

end StreamlineOperator.LeaderElection
