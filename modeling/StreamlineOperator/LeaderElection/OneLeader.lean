/- source: src/src/leader_election.rs, src/src/main.rs (leadership acquisition, lease renewal, shutdown)
   digest: One replica leads at a time as long as no replica that counts on the Lease is replaced. -/

import Mathlib.Logic.Function.Basic
import StreamlineOperator.LeaderElection.Protocol
import StreamlineOperator.LeaderElection.Replicas

set_option autoImplicit false
set_option relaxedAutoImplicit false

namespace StreamlineOperator.LeaderElection

open Foundation
open Foundation.Program (Steps)
open Kubernetes (KubeError)

/-! What an operation knows from its own calls. -/

/-- Every Lease read was once stored, and every clock reading is past. -/
structure Known (now : MicroTime) (store : LeaseStore) (tr : List LeaseExchange) : Prop where
  reads : ∀ found, (⟨.get, .ok found⟩ : LeaseExchange) ∈ tr →
    ∃ past : LeaseStore, past.lease = some found ∧ past.Follows store
  clock : ∀ t, (⟨.clock, t⟩ : LeaseExchange) ∈ tr → t ≤ now

theorem Known.mono {now now' : MicroTime} {store store' : LeaseStore} {tr : List LeaseExchange}
    (h : Known now store tr) (hnow : now ≤ now') (hstore : store.Follows store') :
    Known now' store' tr where
  reads found hf := by
    obtain ⟨past, hpast, hfollows⟩ := h.reads found hf
    exact ⟨past, hpast, hfollows.trans hstore⟩
  clock t ht := le_trans (h.clock t ht) hnow

theorem known_nil (now : MicroTime) (store : LeaseStore) : Known now store [] :=
  ⟨fun _ h => (List.not_mem_nil h).elim, fun _ h => (List.not_mem_nil h).elim⟩

theorem Known.clock_now {now : MicroTime} {store : LeaseStore} {tr : List LeaseExchange}
    (h : Known now store tr) : Known now store (tr ++ [⟨.clock, now⟩]) where
  reads found hf := by
    rcases List.mem_append.mp hf with hf | hf
    · exact h.reads found hf
    · exact nomatch congrArg Exchange.request (List.mem_singleton.mp hf)
  clock t ht := by
    rcases List.mem_append.mp ht with ht | ht
    · exact h.clock t ht
    · obtain ⟨-, heq⟩ := Exchange.mk.inj (List.mem_singleton.mp ht)
      exact le_of_eq (eq_of_heq heq)

/-- The exchange of a call that has taken effect. -/
def Call.answered (self : Call) : List LeaseExchange :=
  match self.answer with
  | some response => [⟨self.request, response⟩]
  | none => []

/-- The call is one an operation makes, and what the operation knows is right. -/
def InCall (op : LeaseOp) (name : String) (now : MicroTime) (store : LeaseStore) (call : Call) :
    Prop :=
  ∃ tr, Steps (op.program name) tr (.call call.request call.next) ∧
    Known now store (tr ++ call.answered)

variable {op : LeaseOp} {name : String} {now now' : MicroTime} {store store' : LeaseStore}
variable {call call' : Call} {tr : List LeaseExchange} {p : LeaseProgram Bool}

theorem InCall.mono (h : InCall op name now store call) (hnow : now ≤ now')
    (hstore : store.Follows store') : InCall op name now' store' call := by
  obtain ⟨tr, hsteps, hknown⟩ := h
  exact ⟨tr, hsteps, hknown.mono hnow hstore⟩

/-- An operation that goes on either waits for its next call or is done. -/
theorem settle_cases (hsteps : Steps (op.program name) tr p) (hknown : Known now store tr) :
    (∃ call, settle now p = .waits call ∧ call.answer = none ∧ InCall op name now store call) ∨
      ∃ result, settle now p = .done result := by
  induction p generalizing tr with
  | ok b => exact .inr ⟨.ok b, rfl⟩
  | err e => exact .inr ⟨.error e, rfl⟩
  | call r next ih =>
    have hwaits : InCall op name now store ⟨r, next, none⟩ :=
      ⟨tr, hsteps, by simpa [Call.answered] using hknown⟩
    cases r with
    | clock => exact ih now (hsteps.snoc now) hknown.clock_now
    | get => exact .inl ⟨_, rfl, rfl, hwaits⟩
    | create lease => exact .inl ⟨_, rfl, rfl, hwaits⟩
    | replace lease => exact .inl ⟨_, rfl, rfl, hwaits⟩

theorem eq_true_of_settle (hall : p.Everywhere (Justified name op) tr)
    (h : settle now p = .done (.ok true)) : p = .ok true := by
  induction p generalizing tr with
  | ok b =>
    obtain ⟨⟩ := Settled.done.inj h
    rfl
  | err e => exact nomatch Settled.done.inj h
  | call r next ih =>
    cases r with
    | clock => exact absurd (ih now (hall.2 now) h) (hall.1 now)
    | get => cases h
    | create lease => cases h
    | replace lease => cases h

theorem known_answer {r : LeaseRequest} (hknown : Known now store tr) :
    Known now (r.answer now store).2 (tr ++ [⟨r, (r.answer now store).1⟩]) := by
  have hserve := r.serve_answer now store
  have hfollows := LeaseRequest.follows_of_serve hserve
  constructor
  · intro found hf
    rcases List.mem_append.mp hf with hf | hf
    · exact (hknown.mono le_rfl hfollows).reads found hf
    · obtain ⟨rfl, hresponse⟩ := Exchange.mk.inj (List.mem_singleton.mp hf)
      rw [← eq_of_heq hresponse] at hserve
      exact ⟨store, hserve.2, hfollows⟩
  · intro t ht
    rcases List.mem_append.mp ht with ht | ht
    · exact hknown.clock t ht
    · obtain ⟨rfl, hresponse⟩ := Exchange.mk.inj (List.mem_singleton.mp ht)
      exact le_of_eq (eq_of_heq hresponse)

theorem expiredAt_mono {spec : Option LeaseSpec} (hnow : now ≤ now')
    (h : expiredAt spec now = true) : expiredAt spec now' = true := by
  unfold expiredAt elapsedSeconds at *
  cases hrenew : spec.bind LeaseSpec.renewTime with
  | none => rfl
  | some t =>
    simp only [hrenew, decide_eq_true_eq] at h ⊢
    have hle : (now - t).tdiv 1000000 ≤ (now' - t).tdiv 1000000 :=
      Int.tdiv_le_tdiv (by decide) (Int.sub_le_sub_right hnow t)
    exact lt_of_lt_of_le h hle

theorem mayReplace_stored {lease stored : Lease}
    {next : (LeaseRequest.replace lease).Response → LeaseProgram Bool} (hknown : Known now store tr)
    (hjustified : Justified name op tr (.replace lease) next) (hstored : store.lease = some stored)
    (hversion : stored.resourceVersion = lease.resourceVersion) :
    ∃ since, MayReplace name stored since lease op ∧
      (ExpiredSince stored since → expiredAt stored.spec now = true) := by
  obtain ⟨⟨found, since, ⟨⟨before, rfl⟩, -⟩, hsame, hmay⟩, -⟩ := hjustified
  obtain ⟨past, hpast, hfollows⟩ := hknown.reads found (by simp)
  obtain rfl : store = past :=
    hfollows.eq_of_version hpast ⟨stored, hstored, hversion.trans hsame⟩
  obtain rfl : found = stored := Option.some.inj (hpast.symm.trans hstored)
  refine ⟨since, hmay, ?_⟩
  rintro ⟨t, hexpired, hclock⟩
  cases hrenew : found.spec.bind LeaseSpec.renewTime with
  | none => simp [expiredAt, hrenew]
  | some renewTime =>
    have hpastClock : t ≤ now := hknown.clock t (by simp [hclock renewTime hrenew])
    exact expiredAt_mono hpastClock hexpired

/-- What a call can do when it takes effect. -/
theorem takeEffect_cases (hc : InCall op name now store call)
    (h : call.takeEffect now store = some (call', store')) :
    store.Follows store' ∧ InCall op name now store' call' ∧
      ((store' = store ∧ call'.isStoredWrite = false) ∨
        (store.lease = none ∧ store'.holder = some name ∧ MayCreate op) ∨
        ∃ lease found since, call.answer = none ∧ call.request = .replace lease ∧
          store.lease = some found ∧ found.resourceVersion = lease.resourceVersion ∧
          store'.holder = lease.holder ∧ MayReplace name found since lease op ∧
          (ExpiredSince found since → expiredAt found.spec now = true)) := by
  obtain ⟨request, next, answer⟩ := call
  cases answer with
  | some x => cases h
  | none =>
    obtain ⟨rfl, rfl⟩ := Prod.mk.inj (Option.some.inj h)
    obtain ⟨tr, hsteps, hknown⟩ := hc
    have hknown' : Known now store tr := by simpa [Call.answered] using hknown
    have hjustified : Justified name op tr request next :=
      ((program_everywhere op name).steps hsteps).1
    refine ⟨LeaseRequest.follows_of_serve (request.serve_answer now store),
      ⟨tr, hsteps, known_answer hknown'⟩, ?_⟩
    cases request with
    | get => exact .inl ⟨by simp only; split <;> rfl, rfl⟩
    | clock => exact .inl ⟨rfl, rfl⟩
    | create lease =>
      cases hstored : store.lease with
      | some stored =>
        simp only [hstored]
        exact .inl ⟨trivial, rfl⟩
      | none =>
        simp only [hstored]
        obtain ⟨⟨hmay, hholder, -⟩, -⟩ := hjustified
        exact .inr (.inl ⟨trivial, hholder, hmay⟩)
    | replace lease =>
      cases hstored : store.lease with
      | none =>
        simp only [hstored]
        exact .inl ⟨trivial, rfl⟩
      | some stored =>
        by_cases hversion : stored.resourceVersion = lease.resourceVersion
        · obtain ⟨since, hmay, hexpired⟩ := mayReplace_stored hknown' hjustified hstored hversion
          simp only [hstored, if_pos hversion]
          exact .inr (.inr ⟨lease, stored, since, trivial, rfl, rfl, hversion, rfl, hmay, hexpired⟩)
        · simp only [hstored, if_neg hversion]
          exact .inl ⟨trivial, rfl⟩

/-! One replica. -/

/-- The calls of a replica are those of its operations, and it records
leadership only between `acquire` and shutdown. -/
structure ReplicaInv (name : String) (now : MicroTime) (store : LeaseStore) (r : Replica) :
    Prop where
  acquiring : ∀ call, r.main = .acquiring call → InCall .tryAcquire name now store call
  releasing : ∀ call, r.main = .releasing call → InCall .release name now store call
  renewing : ∀ call, r.renewal = .renewing call → InCall .renew name now store call
  leading : r.leader = true → r.main = .leading

theorem ReplicaInv.mono {r : Replica} (h : ReplicaInv name now store r) (hnow : now ≤ now')
    (hstore : store.Follows store') : ReplicaInv name now' store' r where
  acquiring call hc := (h.acquiring call hc).mono hnow hstore
  releasing call hc := (h.releasing call hc).mono hnow hstore
  renewing call hc := (h.renewing call hc).mono hnow hstore
  leading := h.leading

theorem ReplicaInv.not_leader {r : Replica} (h : ReplicaInv name now store r)
    (hmain : r.main ≠ .leading) : r.leader = false :=
  Bool.eq_false_iff.mpr fun hleader => hmain (h.leading hleader)

theorem ReplicaInv.with_main {r : Replica} {main : MainTask} (h : ReplicaInv name now store r)
    (hidle : r.leader = false)
    (hacquiring : ∀ call, main = .acquiring call → InCall .tryAcquire name now store call)
    (hreleasing : ∀ call, main = .releasing call → InCall .release name now store call) :
    ReplicaInv name now store { r with main } where
  acquiring := hacquiring
  releasing := hreleasing
  renewing := h.renewing
  leading hleader := by
    have hnot : r.leader ≠ true := Bool.eq_false_iff.mp hidle
    exact absurd hleader hnot

/-- The replica may become `r'`: that keeps the invariant, and it counts on the
Lease only if it did before. -/
def Becomes (name : String) (now : MicroTime) (store : LeaseStore) (r r' : Replica) : Prop :=
  ReplicaInv name now store r' ∧ (r'.countsOn = true → r.countsOn = true)

theorem isStoredWrite_eq_false (h : call.answer = none) : call.isStoredWrite = false := by
  obtain ⟨request, next, answer⟩ := call
  obtain rfl : answer = none := h
  cases request <;> rfl

theorem becomes_afterAcquire {r : Replica} (hr : ReplicaInv name now store r)
    (hmain : r.main ≠ .leading) (hsteps : Steps (LeaseOp.tryAcquire.program name) tr p)
    (hknown : Known now store tr) (htrue : p = .ok true → r.countsOn = true) :
    Becomes name now store r (r.afterAcquire now (settle now p)) := by
  have hidle := hr.not_leader hmain
  have hall := (program_everywhere .tryAcquire name).steps hsteps
  rcases settle_cases hsteps hknown with ⟨call, hwaits, hanswer, hin⟩ | ⟨result, hdone⟩
  · have hinv : ReplicaInv name now store { r with main := .acquiring call } := by
      refine hr.with_main hidle ?_ (fun _ h => (nomatch h))
      rintro call' ⟨⟩
      exact hin
    have hcounts : ({ r with main := .acquiring call } : Replica).countsOn = false := by
      simp [Replica.countsOn, hidle, isStoredWrite_eq_false hanswer]
    rw [hwaits]
    exact ⟨hinv, fun h => absurd h (Bool.eq_false_iff.mp hcounts)⟩
  · have hretry : Becomes name now store r { r with main := .retrying (now + retryInterval) } := by
      refine ⟨hr.with_main hidle (fun _ h => (nomatch h)) (fun _ h => (nomatch h)), ?_⟩
      intro hcounts
      simp [Replica.countsOn, hidle] at hcounts
    rw [hdone]
    rcases result with e | b
    · exact hretry
    cases b with
    | false => exact hretry
    | true =>
      have hcounts : r.countsOn = true := htrue (eq_true_of_settle hall hdone)
      refine ⟨?_, fun _ => hcounts⟩
      exact ⟨fun _ h => (nomatch h), fun _ h => (nomatch h), fun _ h => (nomatch h), fun _ => rfl⟩

theorem becomes_afterRelease {r : Replica} (hr : ReplicaInv name now store r)
    (hidle : r.leader = false) (hsteps : Steps (LeaseOp.release.program name) tr p)
    (hknown : Known now store tr) :
    Becomes name now store r (r.afterRelease (settle now p)) := by
  rcases settle_cases hsteps hknown with ⟨call, hwaits, hanswer, hin⟩ | ⟨result, hdone⟩
  · rw [hwaits]
    refine ⟨hr.with_main hidle (fun _ h => (nomatch h)) ?_, ?_⟩
    · rintro call' ⟨⟩
      exact hin
    · intro hcounts
      simp [Replica.countsOn, Replica.afterRelease, hidle] at hcounts
  · rw [hdone]
    refine ⟨hr.with_main hidle (fun _ h => (nomatch h)) (fun _ h => (nomatch h)), ?_⟩
    intro hcounts
    simp [Replica.countsOn, Replica.afterRelease, hidle] at hcounts

theorem becomes_shutDown {r : Replica} (hr : ReplicaInv name now store r) :
    ReplicaInv name now store (r.shutDown name now) ∧
      (r.shutDown name now).countsOn = false := by
  have hdropped : ReplicaInv name now store { r with leader := false } :=
    ⟨hr.acquiring, hr.releasing, hr.renewing, fun h => nomatch h⟩
  have hbecomes := becomes_afterRelease hdropped rfl (.nil _) (known_nil now store)
  refine ⟨hbecomes.1, ?_⟩
  unfold Replica.shutDown
  rcases settle_cases (.nil _) (known_nil now store) with ⟨call, hwaits, -⟩ | ⟨result, hdone⟩
  · rw [hwaits]
    rfl
  · rw [hdone]
    rfl

theorem becomes_afterRenew {r : Replica} (hr : ReplicaInv name now store r)
    (hsteps : Steps (LeaseOp.renew.program name) tr p) (hknown : Known now store tr) :
    Becomes name now store r (r.afterRenew name now (settle now p)) := by
  rcases settle_cases hsteps hknown with ⟨call, hwaits, -, hin⟩ | ⟨result, hdone⟩
  · rw [hwaits]
    refine ⟨⟨hr.acquiring, hr.releasing, ?_, hr.leading⟩, id⟩
    rintro call' ⟨⟩
    exact hin
  · have hended : ReplicaInv name now store { r with leader := false, renewal := .ended } :=
      ⟨hr.acquiring, hr.releasing, fun _ h => (nomatch h), fun h => nomatch h⟩
    have hstop : Becomes name now store r (r.afterRenew name now (.done (.ok false))) := by
      unfold Replica.afterRenew
      cases hmain : r.main with
      | leading =>
        simp only
        obtain ⟨hinv, hcounts⟩ := becomes_shutDown hended
        exact ⟨by simpa [hmain] using hinv, fun h => by simp_all⟩
      | acquiring call =>
        refine ⟨by simpa [hmain] using hended, fun h => ?_⟩
        simp_all [Replica.countsOn]
      | _ =>
        refine ⟨by simpa [hmain] using hended, fun h => ?_⟩
        simp [Replica.countsOn] at h
    rw [hdone]
    rcases result with e | b
    · exact hstop
    cases b with
    | false => exact hstop
    | true => exact ⟨⟨hr.acquiring, hr.releasing, fun _ h => (nomatch h), hr.leading⟩, id⟩

/-! All replicas. -/

section Replicas

variable {ι : Type} {names : ι → String}
variable {w w' : Deployment ι} {i : ι} {action : Action ι}

/-- The replica and the Lease, if the action stores a write of the replica's
`acquire` over that Lease. -/
def replaced (w : Deployment ι) : Action ι → Option (ι × Lease)
  | .takeEffect i .main =>
    match (w.replica i).main, w.store.lease with
    | .acquiring ⟨.replace lease, _, none⟩, some stored =>
      if stored.resourceVersion = lease.resourceVersion then some (i, stored) else none
    | _, _ => none
  | _ => none

/-- A Lease is taken over only from a replica that does not count on it any more. -/
def InTime (names : ι → String) (w : Deployment ι) (action : Action ι) : Prop :=
  ∀ t ∈ replaced w action, ∀ k, k ≠ t.1 → t.2.holder = some (names k) →
    (w.replica k).countsOn = false

instance [Fintype ι] [DecidableEq ι] (names : ι → String) (w : Deployment ι) (action : Action ι) :
    Decidable (InTime names w action) :=
  inferInstanceAs (Decidable (∀ t ∈ replaced w action, ∀ k, k ≠ t.1 →
    t.2.holder = some (names k) → (w.replica k).countsOn = false))

theorem replaced_eq {call : Call} {lease stored : Lease} (hmain : (w.replica i).main = .acquiring call)
    (hanswer : call.answer = none) (hrequest : call.request = .replace lease)
    (hstored : w.store.lease = some stored)
    (hversion : stored.resourceVersion = lease.resourceVersion) :
    replaced w (.takeEffect i .main) = some (i, stored) := by
  obtain ⟨request, next, answer⟩ := call
  obtain rfl : request = .replace lease := hrequest
  obtain rfl : answer = none := hanswer
  simp only [replaced, hmain, hstored, if_pos hversion]

/-- Every replica is in order, and the Lease is held by whoever counts on it. -/
def Invariant (names : ι → String) (w : Deployment ι) : Prop :=
  ∀ i, ReplicaInv (names i) w.now w.store (w.replica i) ∧
    ((w.replica i).countsOn = true → w.store.holder = some (names i))

theorem invariant_initial (store : LeaseStore) (now : MicroTime) :
    Invariant names (Deployment.initial store now) := fun _ =>
  ⟨⟨fun _ h => (nomatch h), fun _ h => (nomatch h), fun _ h => (nomatch h), fun h => nomatch h⟩,
    fun h => nomatch h⟩

theorem others_keep (hinj : Function.Injective names) (hw : Invariant names w)
    (hc : InCall op (names i) w.now w.store call)
    (h : call.takeEffect w.now w.store = some (call', store'))
    (htimely : MayCreate op → ∀ stored k, w.store.lease = some stored →
      (∃ lease, call.answer = none ∧ call.request = .replace lease ∧
        stored.resourceVersion = lease.resourceVersion) →
      stored.holder = some (names k) → k ≠ i → (w.replica k).countsOn = false) :
    ∀ k, k ≠ i → (w.replica k).countsOn = true → store'.holder = some (names k) := by
  intro k hk hcounts
  have hholder := (hw k).2 hcounts
  obtain ⟨-, -, ⟨rfl, -⟩ | ⟨hnone, -, -⟩ |
    ⟨lease, found, since, hanswer, hrequest, hstored, hversion, -, hmay, -⟩⟩ :=
    takeEffect_cases hc h
  · exact hholder
  · simp [LeaseStore.holder, hnone] at hholder
  · rw [holder_of_lease hstored] at hholder
    have hforeign : found.holder ≠ some (names i) := by
      rw [hholder]
      exact fun heq => hk (hinj (Option.some.inj heq))
    have hopen : MayCreate op := by
      cases op with
      | tryAcquire => trivial
      | acquire attempts => trivial
      | renew => exact absurd hmay.1 hforeign
      | release => exact absurd hmay.1 hforeign
    have hfree := htimely hopen found k hstored ⟨lease, hanswer, hrequest, hversion⟩ hholder hk
    rw [hcounts] at hfree
    cases hfree

/-- At most one replica records leadership. -/
def OneLeader (w : Deployment ι) : Prop :=
  ∀ i j, (w.replica i).leader = true → (w.replica j).leader = true → i = j

theorem oneLeader_of_invariant (hinj : Function.Injective names) (hw : Invariant names w) :
    OneLeader w := by
  intro i j hi hj
  have hholder (k : ι) (hk : (w.replica k).leader = true) : w.store.holder = some (names k) :=
    (hw k).2 (by simp [Replica.countsOn, hk])
  exact hinj (Option.some.inj ((hholder i hi).symm.trans (hholder j hj)))

/-- The Lease of a replica that counts on it is not expired. -/
def Fresh (names : ι → String) (w : Deployment ι) : Prop :=
  ∀ stored, w.store.lease = some stored → ∀ k, stored.holder = some (names k) →
    (w.replica k).countsOn = true → expiredAt stored.spec w.now = false

theorem expired_of_replaced (hw : Invariant names w) {stored : Lease}
    (h : replaced w action = some (i, stored)) :
    w.store.lease = some stored ∧
      (stored.holder = some (names i) ∨ expiredAt stored.spec w.now = true) := by
  unfold replaced at h
  split at h
  · split at h
    · rename_i lease next stored' hmain hstored
      simp only [Option.ite_none_right_eq_some, Option.some.injEq, Prod.mk.injEq] at h
      obtain ⟨hversion, rfl, rfl⟩ := h
      refine ⟨hstored, ?_⟩
      obtain ⟨-, -, ⟨-, hnot⟩ | ⟨hnone, -⟩ | ⟨_, found, since, -, -, hfound, -, -, hmay, hexp⟩⟩ :=
        takeEffect_cases ((hw _).1.acquiring _ hmain) rfl
      · simp [hstored, hversion, Call.isStoredWrite] at hnot
      · rw [hnone] at hstored
        cases hstored
      · obtain rfl := Option.some.inj (hfound.symm.trans hstored)
        exact hmay.2.imp id hexp
    · cases h
  · cases h

theorem inTime_of_fresh (hinj : Function.Injective names) (hw : Invariant names w)
    (hfresh : Fresh names w) : InTime names w action := by
  rintro ⟨i, stored⟩ ht k hk hholder
  obtain ⟨hstored, hown | hexpired⟩ := expired_of_replaced hw ht
  · exact absurd (hinj (Option.some.inj (hholder.symm.trans hown))) hk
  · refine Bool.eq_false_iff.mpr (fun hcounts => ?_)
    rw [hfresh stored hstored k hholder hcounts] at hexpired
    cases hexpired

variable [DecidableEq ι]

theorem invariant_set (hw : Invariant names w) {r : Replica}
    (hr : Becomes (names i) w.now w.store (w.replica i) r) : Invariant names (w.set i r) := by
  intro k
  by_cases hk : k = i
  · subst hk
    simp only [Deployment.set, Function.update_self]
    exact ⟨hr.1, fun h => (hw k).2 (hr.2 h)⟩
  · simp only [Deployment.set, Function.update_of_ne hk]
    exact hw k

theorem invariant_effect (hinj : Function.Injective names) (hw : Invariant names w)
    (hc : InCall op (names i) w.now w.store call)
    (h : call.takeEffect w.now w.store = some (call', store'))
    (htimely : MayCreate op → ∀ stored k, w.store.lease = some stored →
      (∃ lease, call.answer = none ∧ call.request = .replace lease ∧
        stored.resourceVersion = lease.resourceVersion) →
      stored.holder = some (names k) → k ≠ i → (w.replica k).countsOn = false) {r : Replica}
    (hr : w.store.Follows store' → InCall op (names i) w.now store' call' →
      ReplicaInv (names i) w.now store' r)
    (hcounts : r.countsOn = true → store'.holder = some (names i)) :
    Invariant names { w.set i r with store := store' } := by
  obtain ⟨hfollows, hc', -⟩ := takeEffect_cases hc h
  intro k
  by_cases hk : k = i
  · subst hk
    simp only [Deployment.set, Function.update_self]
    exact ⟨hr hfollows hc', hcounts⟩
  · simp only [Deployment.set, Function.update_of_ne hk]
    exact ⟨(hw k).1.mono le_rfl hfollows, others_keep hinj hw hc h htimely k hk⟩

theorem holder_of_storedWrite (hop : MayCreate op) (hc : InCall op name now store call)
    (h : call.takeEffect now store = some (call', store'))
    (hstored : call'.isStoredWrite = true) : store'.holder = some name := by
  obtain ⟨-, -, ⟨-, hnot⟩ | ⟨-, hholder, -⟩ | ⟨lease, found, since, -, -, -, -, hput, hmay, -⟩⟩ :=
    takeEffect_cases hc h
  · rw [hnot] at hstored
    cases hstored
  · exact hholder
  · rw [hput]
    cases op with
    | tryAcquire => exact hmay.1
    | acquire attempts => exact hmay.1
    | renew => cases hop
    | release => cases hop

theorem holder_of_renewal (hc : InCall .renew name now store call)
    (h : call.takeEffect now store = some (call', store')) (hholder : store.holder = some name) :
    store'.holder = some name := by
  obtain ⟨-, -, ⟨rfl, -⟩ | ⟨-, -, hmay⟩ | ⟨lease, found, since, -, -, -, -, hput, hmay, -⟩⟩ :=
    takeEffect_cases hc h
  · exact hholder
  · exact hmay.elim
  · rw [hput]
    exact hmay.2

theorem invariant_takeEffect (hinj : Function.Injective names) (hw : Invariant names w)
    {task : TaskId} (htimely : InTime names w (.takeEffect i task))
    (h : w.takeEffect i task = some w') : Invariant names w' := by
  have hi := (hw i).1
  cases task with
  | main =>
    cases hmain : (w.replica i).main with
    | acquiring call =>
      simp only [Deployment.takeEffect, hmain, Option.map_eq_some_iff, Prod.exists] at h
      obtain ⟨call', store', heffect, rfl⟩ := h
      have hc := hi.acquiring call hmain
      have hidle : (w.replica i).leader = false := hi.not_leader (by simp [hmain])
      refine invariant_effect hinj hw hc heffect ?_ ?_ ?_
      · rintro - stored k hstored ⟨lease, hanswer, hrequest, hversion⟩ hholder hk
        exact htimely _ (replaced_eq hmain hanswer hrequest hstored hversion) k hk hholder
      · intro hfollows hc'
        refine (hi.mono le_rfl hfollows).with_main hidle ?_ (fun _ h => (nomatch h))
        rintro _ ⟨⟩
        exact hc'
      · intro hcounts
        have hstored : call'.isStoredWrite = true := by
          simpa [Replica.countsOn, hidle] using hcounts
        exact holder_of_storedWrite (show MayCreate .tryAcquire from trivial) hc heffect hstored
    | releasing call =>
      simp only [Deployment.takeEffect, hmain, Option.map_eq_some_iff, Prod.exists] at h
      obtain ⟨call', store', heffect, rfl⟩ := h
      have hc := hi.releasing call hmain
      have hidle : (w.replica i).leader = false := hi.not_leader (by simp [hmain])
      refine invariant_effect hinj hw hc heffect (fun hop => hop.elim) ?_ ?_
      · intro hfollows hc'
        refine (hi.mono le_rfl hfollows).with_main hidle (fun _ h => (nomatch h)) ?_
        rintro _ ⟨⟩
        exact hc'
      · intro hcounts
        simp [Replica.countsOn, hidle] at hcounts
    | _ => simp [Deployment.takeEffect, hmain] at h
  | renewal =>
    cases hrenewal : (w.replica i).renewal with
    | renewing call =>
      simp only [Deployment.takeEffect, hrenewal, Option.map_eq_some_iff, Prod.exists] at h
      obtain ⟨call', store', heffect, rfl⟩ := h
      have hc := hi.renewing call hrenewal
      refine invariant_effect hinj hw hc heffect (fun hop => hop.elim) ?_ ?_
      · intro hfollows hc'
        have hkept := hi.mono le_rfl hfollows
        refine ⟨hkept.acquiring, hkept.releasing, ?_, hkept.leading⟩
        rintro _ ⟨⟩
        exact hc'
      · intro hcounts
        have hholder : w.store.holder = some (names i) := (hw i).2 hcounts
        exact holder_of_renewal hc heffect hholder
    | _ => simp [Deployment.takeEffect, hrenewal] at h

theorem becomes_attemptAcquire {r : Replica} (hr : ReplicaInv name now store r)
    (hmain : r.main ≠ .leading) : Becomes name now store r (r.attemptAcquire name now) :=
  becomes_afterAcquire hr hmain (.nil _) (known_nil now store) (fun h => nomatch h)

theorem InCall.resumes {settled : Settled} (hc : InCall op name now store call)
    (h : call.resume now = some settled) : ∃ tr p, settled = settle now p ∧
      Steps (op.program name) tr p ∧ Known now store tr ∧
      (p = .ok true → call.isStoredWrite = true) := by
  obtain ⟨request, next, answer⟩ := call
  cases answer with
  | none => cases h
  | some x =>
    obtain rfl := Option.some.inj h
    obtain ⟨tr, hsteps, hknown⟩ := hc
    have hjustified : Justified name op tr request next :=
      ((program_everywhere op name).steps hsteps).1
    refine ⟨tr ++ [⟨request, x⟩], next x, rfl, hsteps.snoc x, hknown, fun htrue => ?_⟩
    cases request with
    | get => exact absurd htrue (hjustified x)
    | clock => exact absurd htrue (hjustified x)
    | create lease =>
      obtain rfl := hjustified.2 x htrue
      rfl
    | replace lease =>
      obtain ⟨rfl, -⟩ := hjustified.2 x htrue
      rfl

theorem invariant_answer (hw : Invariant names w) {task : TaskId}
    (h : Deployment.answer names w i task = some w') : Invariant names w' := by
  have hi := (hw i).1
  cases task with
  | main =>
    cases hmain : (w.replica i).main with
    | acquiring call =>
      simp only [Deployment.answer, hmain, Option.map_eq_some_iff] at h
      obtain ⟨settled, hresume, rfl⟩ := h
      obtain ⟨tr, p, rfl, hsteps, hknown, htrue⟩ := (hi.acquiring call hmain).resumes hresume
      refine invariant_set hw (becomes_afterAcquire hi (by simp [hmain]) hsteps hknown ?_)
      intro hp
      simp [Replica.countsOn, hmain, htrue hp]
    | releasing call =>
      simp only [Deployment.answer, hmain, Option.map_eq_some_iff] at h
      obtain ⟨settled, hresume, rfl⟩ := h
      obtain ⟨tr, p, rfl, hsteps, hknown, -⟩ := (hi.releasing call hmain).resumes hresume
      exact invariant_set hw
        (becomes_afterRelease hi (hi.not_leader (by simp [hmain])) hsteps hknown)
    | _ => simp [Deployment.answer, hmain] at h
  | renewal =>
    cases hrenewal : (w.replica i).renewal with
    | renewing call =>
      have hresumes : ∃ settled, call.resume w.now = some settled ∧
          w' = w.set i ((w.replica i).afterRenew (names i) w.now settled) := by
        cases hmain : (w.replica i).main <;>
          simp only [Deployment.answer, hmain, hrenewal, Option.map_eq_some_iff, reduceCtorEq] at h
        all_goals
          obtain ⟨settled, hresume, rfl⟩ := h
          exact ⟨settled, hresume, rfl⟩
      obtain ⟨settled, hresume, rfl⟩ := hresumes
      obtain ⟨tr, p, rfl, hsteps, hknown, -⟩ := (hi.renewing call hrenewal).resumes hresume
      exact invariant_set hw (becomes_afterRenew hi hsteps hknown)
    | _ => cases hmain : (w.replica i).main <;> simp [Deployment.answer, hmain, hrenewal] at h

theorem invariant_wake (hw : Invariant names w) {task : TaskId}
    (h : Deployment.wake names w i task = some w') : Invariant names w' := by
  have hi := (hw i).1
  cases task with
  | main =>
    cases hmain : (w.replica i).main with
    | retrying time =>
      simp only [Deployment.wake, hmain, Option.ite_none_right_eq_some, Option.some.injEq] at h
      obtain ⟨-, rfl⟩ := h
      exact invariant_set hw (becomes_attemptAcquire hi (by simp [hmain]))
    | _ => simp [Deployment.wake, hmain] at h
  | renewal =>
    cases hrenewal : (w.replica i).renewal with
    | sleeping time =>
      have hset : w' = w.set i ((w.replica i).attemptRenew (names i) w.now) := by
        cases hmain : (w.replica i).main <;>
          simp only [Deployment.wake, hmain, hrenewal, Option.ite_none_right_eq_some,
            Option.some.injEq, reduceCtorEq] at h
        all_goals exact h.2.symm
      rw [hset]
      exact invariant_set hw (becomes_afterRenew hi (.nil _) (known_nil _ _))
    | _ => cases hmain : (w.replica i).main <;> simp [Deployment.wake, hmain, hrenewal] at h

variable [Fintype ι]

theorem invariant_step (hinj : Function.Injective names) (hw : Invariant names w)
    (htimely : InTime names w action) (h : Deployment.step names w action = some w') :
    Invariant names w' := by
  cases action with
  | advance time =>
    simp only [Deployment.step, Option.ite_none_right_eq_some, Option.some.injEq] at h
    obtain ⟨⟨hlt, -⟩, rfl⟩ := h
    exact fun i => ⟨(hw i).1.mono (le_of_lt hlt) (.refl _), (hw i).2⟩
  | start i =>
    cases hmain : (w.replica i).main with
    | idle =>
      simp only [Deployment.step, hmain, Option.some.injEq] at h
      subst h
      exact invariant_set hw (becomes_attemptAcquire (hw i).1 (by simp [hmain]))
    | _ => simp [Deployment.step, hmain] at h
  | stop i =>
    cases hmain : (w.replica i).main with
    | leading =>
      simp only [Deployment.step, hmain, Option.some.injEq] at h
      subst h
      obtain ⟨hinv, hcounts⟩ := becomes_shutDown (hw i).1
      exact invariant_set hw ⟨hinv, fun h => by simp [hcounts] at h⟩
    | _ => simp [Deployment.step, hmain] at h
  | takeEffect i task => exact invariant_takeEffect hinj hw htimely h
  | answer i task => exact invariant_answer hw h
  | wake i task => exact invariant_wake hw h

/-- In a run whose takeovers are all in time, the Lease is held by whoever counts
on it. -/
theorem invariant_run (hinj : Function.Injective names) {store : LeaseStore} {now : MicroTime}
    (hr : Deployment.RunWhere (InTime names) names (.initial store now) w) :
    Invariant names w := by
  induction hr with
  | refl => exact invariant_initial store now
  | step _ htimely hstep ih => exact invariant_step hinj ih htimely hstep

/-- One replica leads at a time in every run in which renewals are stored before
the Lease they renew expires. -/
theorem one_leader_of_fresh (hinj : Function.Injective names) {store : LeaseStore}
    {now : MicroTime}
    (hr : Deployment.RunWhere (fun w _ => Fresh names w) names (.initial store now) w) :
    OneLeader w := by
  refine oneLeader_of_invariant hinj ?_
  induction hr with
  | refl => exact invariant_initial store now
  | step _ hfresh hstep ih => exact invariant_step hinj ih (inTime_of_fresh hinj ih hfresh) hstep

/-- A takeover that is not in time leaves two replicas counting on the Lease. -/
theorem two_count_of_late (h : Deployment.step names w action = some w')
    (hlate : ¬ InTime names w action) :
    ∃ i k, i ≠ k ∧ (w'.replica i).countsOn = true ∧ (w'.replica k).countsOn = true := by
  simp only [InTime, not_forall] at hlate
  obtain ⟨⟨i, stored⟩, ht, k, hk, -, hcounts⟩ := hlate
  have hcounts' : (w.replica k).countsOn = true := by simpa using hcounts
  unfold replaced at ht
  split at ht
  · split at ht
    · rename_i lease next stored' hmain hstored
      simp only [Option.mem_def, Option.ite_none_right_eq_some, Option.some.injEq,
        Prod.mk.injEq] at ht
      obtain ⟨hversion, rfl, rfl⟩ := ht
      refine ⟨_, k, Ne.symm hk, ?_⟩
      simp only [Deployment.step, Deployment.takeEffect, hmain, Call.takeEffect,
        LeaseRequest.answer, hstored, if_pos hversion, Option.map_some, Option.some.injEq] at h
      subst h
      refine ⟨?_, ?_⟩
      · simp [Deployment.set, Replica.countsOn, Call.isStoredWrite]
      · simpa [Deployment.set, Function.update_of_ne hk] using hcounts'
    · simp at ht
  · simp at ht

/-- One replica leads at a time in every run whose takeovers are all in time. -/
theorem one_leader_at_a_time (names : ι → String) (hinj : Function.Injective names)
    (store : LeaseStore) (now : MicroTime) (w : Deployment ι)
    (hr : Deployment.RunWhere (InTime names) names (.initial store now) w) : OneLeader w :=
  oneLeader_of_invariant hinj (invariant_run hinj hr)

theorem replicaNames_injective : Function.Injective replicaNames := by
  decide

/-- The leader is told to stop, and its release hangs until its Lease has expired. -/
def slowRelease : List (Action Bool) := [
  .start false, .takeEffect false .main, .answer false .main, .takeEffect false .main,
  .answer false .main, .advance 10000000, .wake false .renewal, .stop false, .advance 16000000,
  .start true, .takeEffect true .main, .answer true .main, .takeEffect true .main,
  .answer true .main]

/-- Then the second replica takes over, in time. -/
theorem one_leader_at_a_time_slowRelease :
    ∃ w, Deployment.runWhere (InTime replicaNames) replicaNames slowRelease
      (.initial .empty 0) = some w ∧ (w.replica true).leader = true ∧ OneLeader w := by
  have hrun : (Deployment.runWhere (InTime replicaNames) replicaNames slowRelease
      (.initial .empty 0)).any (fun w => (w.replica true).leader) = true := by decide
  obtain ⟨w, hw, hleader⟩ := (Option.any_eq_true _ _).mp hrun
  exact ⟨w, hw, hleader, one_leader_at_a_time replicaNames replicaNames_injective .empty 0 w
    (Deployment.runWhere_of_eq .refl hw)⟩

/-- The first renewal of the leader hangs until its Lease has expired. -/
def slowRenewal : List (Action Bool) := [
  .start false, .takeEffect false .main, .answer false .main, .takeEffect false .main,
  .answer false .main, .advance 10000000, .wake false .renewal, .advance 16000000,
  .start true, .takeEffect true .main, .answer true .main, .takeEffect true .main,
  .answer true .main]

/-- Then both replicas record leadership. -/
theorem two_leaders_slowRenewal :
    ¬ ∀ names : Bool → String, Function.Injective names → ∀ store now w,
      Deployment.RunWhere (fun _ _ => True) names (.initial store now) w → OneLeader w := by
  intro h
  have hrun : (Deployment.runWhere (fun _ _ => True) replicaNames slowRenewal
      (.initial .empty 0)).isSome = true := by decide
  have hone := h replicaNames replicaNames_injective .empty 0 _
    (Deployment.runWhere_of_eq .refl (Option.some_get hrun).symm)
  exact absurd (hone false true rfl rfl) (by decide)

end Replicas

end StreamlineOperator.LeaderElection
