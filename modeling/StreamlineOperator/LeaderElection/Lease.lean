/- source: src/src/leader_election.rs (the Lease it reads and writes)
   digest: The Lease object and an API server that stores it under optimistic concurrency. -/

import StreamlineOperator.Kubernetes.Api

set_option autoImplicit false
set_option relaxedAutoImplicit false

namespace StreamlineOperator.LeaderElection

open Foundation
open Kubernetes (KubeError)

/-- A time in microseconds, the precision of a stored `MicroTime`. -/
abbrev MicroTime := Int

structure LeaseSpec where
  holderIdentity : Option String := none
  leaseDurationSeconds : Option Int32 := none
  acquireTime : Option MicroTime := none
  renewTime : Option MicroTime := none
  leaseTransitions : Option Int32 := none
  deriving DecidableEq, Repr

structure Lease where
  name : Option String := none
  resourceVersion : Option Nat := none
  spec : Option LeaseSpec := none
  deriving DecidableEq, Repr

def Lease.holder (self : Lease) : Option String := self.spec.bind LeaseSpec.holderIdentity

/-- The server's copy of the one Lease. Every stored version comes from a
revision the server has been through. -/
structure LeaseStore where
  lease : Option Lease
  revision : Nat
  versioned : ∀ stored, lease = some stored →
    ∃ version, stored.resourceVersion = some version ∧ version ≤ revision

namespace LeaseStore

def empty : LeaseStore := ⟨none, 0, fun _ h => nomatch h⟩

/-- Store a Lease under a new version. -/
def put (self : LeaseStore) (lease : Lease) : LeaseStore where
  lease := some { lease with resourceVersion := some (self.revision + 1) }
  revision := self.revision + 1
  versioned _ h := ⟨self.revision + 1, by rw [← Option.some.inj h], Nat.le_refl _⟩

def holder (self : LeaseStore) : Option String := self.lease.bind Lease.holder

/-- The stored Lease is of the given version. -/
def Matches (self : LeaseStore) (resourceVersion : Option Nat) : Prop :=
  ∃ stored, self.lease = some stored ∧ stored.resourceVersion = resourceVersion

/-- `s'` is `s`, or holds a version later than all that `s` has been through. -/
def Follows (s s' : LeaseStore) : Prop :=
  s' = s ∨ ∃ stored version, s'.lease = some stored ∧ stored.resourceVersion = some version ∧
    s.revision < version

theorem Follows.refl (s : LeaseStore) : Follows s s := .inl rfl

theorem follows_put (s : LeaseStore) (lease : Lease) : Follows s (s.put lease) :=
  .inr ⟨_, s.revision + 1, rfl, rfl, Nat.lt_succ_self _⟩

private theorem version_le {s : LeaseStore} {stored : Lease} {version : Nat}
    (hs : s.lease = some stored) (hv : stored.resourceVersion = some version) :
    version ≤ s.revision := by
  obtain ⟨version', hv', hle⟩ := s.versioned stored hs
  rw [hv] at hv'
  exact Option.some.inj hv' ▸ hle

theorem Follows.trans {a b c : LeaseStore} (hab : Follows a b) (hbc : Follows b c) :
    Follows a c := by
  rcases hbc with rfl | ⟨l', v', hl', hv', hlt'⟩
  · exact hab
  rcases hab with rfl | ⟨l, v, hl, hv, hlt⟩
  · exact .inr ⟨l', v', hl', hv', hlt'⟩
  · have hle := version_le hl hv
    exact .inr ⟨l', v', hl', hv', by omega⟩

theorem Follows.antisymm {a b : LeaseStore} (hab : Follows a b) (hba : Follows b a) : b = a := by
  rcases hab with rfl | ⟨l, v, hl, hv, hlt⟩
  · rfl
  rcases hba with rfl | ⟨l', v', hl', hv', hlt'⟩
  · rfl
  have hle := version_le hl hv
  have hle' := version_le hl' hv'
  omega

/-- A version that is still stored is unchanged. -/
theorem Follows.eq_of_version {s s' : LeaseStore} {lease : Lease} (h : Follows s s')
    (hs : s.lease = some lease) (hs' : s'.Matches lease.resourceVersion) : s' = s := by
  rcases h with rfl | ⟨stored', version, hstored', hversion, hlt⟩
  · rfl
  obtain ⟨stored, hstored, hsame⟩ := hs'
  obtain rfl : stored' = stored := Option.some.inj (hstored'.symm.trans hstored)
  have hle := version_le hs (hsame.symm.trans hversion)
  omega

theorem Follows.eq_of_empty {s s' : LeaseStore} (h : Follows s s') (hs' : s'.lease = none) :
    s' = s := by
  rcases h with rfl | ⟨stored, _, hstored, _⟩
  · rfl
  · rw [hs'] at hstored
    cases hstored

end LeaseStore

/-- What an elector asks for: the calls on the Lease, and a clock reading. -/
inductive LeaseRequest where
  | get
  | create (lease : Lease)
  | replace (lease : Lease)
  | clock

abbrev LeaseRequest.Response : LeaseRequest → Type
  | get => Except KubeError Lease
  | create _ => Except KubeError Unit
  | replace _ => Except KubeError Unit
  | clock => MicroTime

namespace LeaseRequest

def conflict : KubeError := ⟨some 409, "Conflict"⟩

def notFound : KubeError := ⟨some 404, "NotFound"⟩

/-- The server's answer to a call that reaches it and is answered. -/
def answer (now : MicroTime) : (request : LeaseRequest) → LeaseStore →
    request.Response × LeaseStore
  | get, store =>
    match store.lease with
    | some lease => (.ok lease, store)
    | none => (.error notFound, store)
  | create lease, store =>
    match store.lease with
    | some _ => (.error conflict, store)
    | none => (.ok (), store.put lease)
  | replace lease, store =>
    match store.lease with
    | some stored =>
      if stored.resourceVersion = lease.resourceVersion then (.ok (), store.put lease)
      else (.error conflict, store)
    | none => (.error notFound, store)
  | clock, store => (now, store)

/-- What can become of a call: a write is stored only under its precondition,
whatever its sender is told about it; a call that is not carried out fails. -/
def serve (request : LeaseRequest) (store : LeaseStore) (response : request.Response)
    (store' : LeaseStore) : Prop :=
  match request, response with
  | get, .ok lease => store' = store ∧ store.lease = some lease
  | get, .error e => store' = store ∧ (e.code = some 404 → store.lease = none)
  | create lease, response =>
    (store.lease = none ∧ store' = store.put lease) ∨ (store' = store ∧ response.isOk = false)
  | replace lease, response =>
    (store.Matches lease.resourceVersion ∧ store' = store.put lease) ∨
      (store' = store ∧ response.isOk = false)
  | clock, _ => store' = store

theorem serve_answer (now : MicroTime) (request : LeaseRequest) (store : LeaseStore) :
    request.serve store (request.answer now store).1 (request.answer now store).2 := by
  cases request with
  | get =>
    cases h : store.lease with
    | some lease => simp only [answer, h, serve, and_self]
    | none => simp only [answer, h, serve, implies_true, and_self]
  | create lease =>
    cases h : store.lease with
    | some stored => exact .inr (by simp only [answer, h]; exact ⟨trivial, rfl⟩)
    | none => exact .inl (by simp only [answer, h, and_self])
  | replace lease =>
    cases h : store.lease with
    | some stored =>
      by_cases hv : stored.resourceVersion = lease.resourceVersion
      · exact .inl ⟨⟨stored, h, hv⟩, by simp only [answer, h, if_pos hv]⟩
      · exact .inr (by simp only [answer, h, if_neg hv]; exact ⟨trivial, rfl⟩)
    | none => exact .inr (by simp only [answer, h]; exact ⟨trivial, rfl⟩)
  | clock => rfl

theorem follows_of_serve {request : LeaseRequest} {store store' : LeaseStore}
    {response : request.Response} (h : request.serve store response store') :
    LeaseStore.Follows store store' := by
  cases request with
  | get =>
    cases response <;> exact .inl h.1
  | create lease =>
    rcases h with ⟨-, rfl⟩ | ⟨rfl, -⟩
    · exact LeaseStore.follows_put store lease
    · exact .refl _
  | replace lease =>
    rcases h with ⟨-, rfl⟩ | ⟨rfl, -⟩
    · exact LeaseStore.follows_put store lease
    · exact .refl _
  | clock => exact .inl h

end LeaseRequest

end StreamlineOperator.LeaderElection
