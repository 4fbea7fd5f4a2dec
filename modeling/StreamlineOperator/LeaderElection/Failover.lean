/- source: src/src/leader_election.rs, src/src/main.rs (leadership acquisition)
   digest: A Lease that nobody renews is taken over in bounded time, whatever the interleaving. -/

import StreamlineOperator.LeaderElection.OneLeader

set_option autoImplicit false
set_option relaxedAutoImplicit false

namespace StreamlineOperator.LeaderElection

open Foundation
open Kubernetes (KubeError)

/-! Runs whose calls are answered in time. -/

section PromptRun

variable {ι : Type} [DecidableEq ι]

/-- When the main task of each replica made its last call. -/
def sentAfter (sent : ι → MicroTime) (now : MicroTime) : Action ι → ι → MicroTime
  | .start i => Function.update sent i now
  | .wake i .main => Function.update sent i now
  | .answer i .main => Function.update sent i now
  | _ => sent

/-- The process has not been started. -/
def Replica.isIdle (self : Replica) : Bool :=
  match self.main with
  | .idle => true
  | _ => false

/-- A call of its `acquire` has its answer by the deadline. -/
def Replica.answeredBy (self : Replica) (deadline time : MicroTime) : Bool :=
  match self.main with
  | .acquiring _ => time ≤ deadline
  | _ => true

/-- No call of an `acquire` waits for its answer longer than the latency. -/
def Prompt (latency : Int) (sent : ι → MicroTime) (w : Deployment ι) : Action ι → Prop
  | .advance time => ∀ i, (w.replica i).answeredBy (sent i + latency) time = true
  | _ => True

variable [Fintype ι]

instance (latency : Int) (sent : ι → MicroTime) (w : Deployment ι) (action : Action ι) :
    Decidable (Prompt latency sent w action) :=
  match action with
  | .advance time =>
    inferInstanceAs (Decidable (∀ i, (w.replica i).answeredBy (sent i + latency) time = true))
  | .start _ | .stop _ | .takeEffect .. | .answer .. | .wake .. => isTrue trivial

/-- Runs in which calls are answered in time, with the states they pass. -/
inductive PromptRun (names : ι → String) (latency : Int) (w₀ : Deployment ι) :
    List (Deployment ι) → (ι → MicroTime) → Deployment ι → Prop
  | refl (sent : ι → MicroTime) : PromptRun names latency w₀ [w₀] sent w₀
  | step {passed : List (Deployment ι)} {sent : ι → MicroTime} {w w' : Deployment ι}
      {action : Action ι} : PromptRun names latency w₀ passed sent w →
      Prompt latency sent w action → Deployment.step names w action = some w' →
      PromptRun names latency w₀ (passed ++ [w']) (sentAfter sent w.now action) w'

/-- Let the actions happen in this order, each if calls are answered in time. -/
def runPrompt (names : ι → String) (latency : Int) : List (Action ι) →
    List (Deployment ι) × (ι → MicroTime) × Deployment ι →
    Option (List (Deployment ι) × (ι → MicroTime) × Deployment ι)
  | [], run => some run
  | action :: rest, (passed, sent, w) =>
    if Prompt latency sent w action then
      (Deployment.step names w action).bind fun w' =>
        runPrompt names latency rest (passed ++ [w'], sentAfter sent w.now action, w')
    else none

theorem promptRun_of_eq {names : ι → String} {latency : Int} {actions : List (Action ι)}
    {w₀ w : Deployment ι} {passed : List (Deployment ι)} {sent : ι → MicroTime}
    {run : List (Deployment ι) × (ι → MicroTime) × Deployment ι}
    (hr : PromptRun names latency w₀ passed sent w)
    (h : runPrompt names latency actions (passed, sent, w) = some run) :
    PromptRun names latency w₀ run.1 run.2.1 run.2.2 := by
  induction actions generalizing passed sent w with
  | nil =>
    obtain rfl := Option.some.inj h
    exact hr
  | cons action rest ih =>
    simp only [runPrompt, Option.ite_none_right_eq_some, Option.bind_eq_some_iff] at h
    obtain ⟨hprompt, v, hstep, hrest⟩ := h
    exact ih (hr.step hprompt hstep) hrest

end PromptRun

/-! The calls of an `acquire`. -/

/-- It reads the Lease, or it writes it and has the Lease if that succeeds. -/
inductive AcquireCall (name : String) : Call → Prop
  | read (now : MicroTime) (answer : Option (Except KubeError Lease)) :
      AcquireCall name ⟨.get, LeaderElector.tryAcquireFound name now, answer⟩
  | create (lease : Lease) (answer : Option (Except KubeError Unit)) :
      AcquireCall name ⟨.create lease, LeaderElector.orConflict, answer⟩
  | replace (lease : Lease) (answer : Option (Except KubeError Unit)) :
      AcquireCall name ⟨.replace lease, LeaderElector.orConflict, answer⟩

variable {name : String} {now : MicroTime} {store : LeaseStore} {call : Call}

theorem settle_found (name : String) (since now : MicroTime) (found : Except KubeError Lease) :
    (∃ stored lease, found = .ok stored ∧ lease.resourceVersion = stored.resourceVersion ∧
      settle now (LeaderElector.tryAcquireFound name since found) =
        .waits ⟨.replace lease, LeaderElector.orConflict, none⟩) ∨
    (∃ stored, found = .ok stored ∧ expiredAt stored.spec now = false ∧
      settle now (LeaderElector.tryAcquireFound name since found) = .done (.ok false)) ∨
    (∃ e lease, found = .error e ∧ e.code = some 404 ∧
      settle now (LeaderElector.tryAcquireFound name since found) =
        .waits ⟨.create lease, LeaderElector.orConflict, none⟩) ∨
    ∃ e, found = .error e ∧ e.code ≠ some 404 ∧
      settle now (LeaderElector.tryAcquireFound name since found) = .done (.error e) := by
  cases found with
  | error e =>
    unfold LeaderElector.tryAcquireFound
    by_cases hcode : e.code = some 404
    · simp only [hcode, if_true]
      exact .inr (.inr (.inl ⟨e, _, rfl, hcode, rfl⟩))
    · simp only [hcode, if_false]
      exact .inr (.inr (.inr ⟨e, rfl, hcode, rfl⟩))
  | ok stored =>
    unfold LeaderElector.tryAcquireFound
    by_cases hown : stored.holder = some name
    · simp only [hown, if_true]
      exact .inl ⟨stored, LeaderElector.updatedLease name stored since false, rfl, rfl, rfl⟩
    simp only [hown, if_false, LeaderElector.attemptTakeover, LeaderElector.isExpired]
    cases hrenew : stored.spec.bind LeaseSpec.renewTime with
    | none => exact .inl ⟨stored, LeaderElector.updatedLease name stored since true, rfl, rfl, rfl⟩
    | some t =>
      cases hexpired : expiredAt stored.spec now with
      | true =>
        refine .inl ⟨stored, LeaderElector.updatedLease name stored since true, rfl, rfl, ?_⟩
        simp only [send, Program.bind_eq, Program.send_bind, Program.call_bind, settle,
          Program.pure_eq, Program.ok_bind, hexpired, if_true]
        rfl
      | false =>
        refine .inr (.inl ⟨stored, rfl, hexpired, ?_⟩)
        simp only [send, Program.bind_eq, Program.send_bind, Program.call_bind, settle,
          Program.pure_eq, Program.ok_bind, hexpired, Bool.false_eq_true, if_false]

theorem settle_orConflict (now : MicroTime) (written : Except KubeError Unit) :
    (written = .ok () ∧
      settle now (LeaderElector.orConflict written) = .done (.ok true)) ∨
    written.isOk = false ∧ ∃ result, result ≠ .ok true ∧
      settle now (LeaderElector.orConflict written) = .done result := by
  cases written with
  | ok u => exact .inl ⟨rfl, rfl⟩
  | error e =>
    unfold LeaderElector.orConflict
    by_cases hcode : e.code = some 409
    · simp only [hcode, if_true]
      exact .inr ⟨rfl, .ok false, by simp, rfl⟩
    · simp only [hcode, if_false]
      exact .inr ⟨rfl, .error e, by simp, rfl⟩

theorem afterAcquire_cases {r : Replica} {call : Call} {x : call.request.Response}
    (hcall : AcquireCall name call) (hx : call.answer = some x) :
    (r.afterAcquire now (settle now (call.next x))).leader = true ∨
    (∃ call', AcquireCall name call' ∧ call'.answer = none ∧ call.isStoredWrite = false ∧
      r.afterAcquire now (settle now (call.next x)) = { r with main := .acquiring call' }) ∨
    call.isStoredWrite = false ∧ r.afterAcquire now (settle now (call.next x)) =
      { r with main := .retrying (now + retryInterval) } := by
  have hwritten : ∀ written : Except KubeError Unit,
      (r.afterAcquire now (settle now (LeaderElector.orConflict written))).leader = true ∨
      written.isOk = false ∧
        r.afterAcquire now (settle now (LeaderElector.orConflict written)) =
          { r with main := .retrying (now + retryInterval) } := by
    intro written
    rcases settle_orConflict now written with ⟨-, hsettle⟩ | ⟨hfailed, result, hresult, hsettle⟩
    · rw [hsettle]
      exact .inl rfl
    · rw [hsettle]
      match result, hresult with
      | .ok true, hresult => exact absurd rfl hresult
      | .ok false, _ => exact .inr ⟨hfailed, rfl⟩
      | .error e, _ => exact .inr ⟨hfailed, rfl⟩
  cases hcall with
  | read since answer =>
    rcases settle_found name since now x with ⟨-, lease, -, -, h⟩ | ⟨-, -, -, h⟩ |
      ⟨-, lease, -, -, h⟩ | ⟨e, -, -, h⟩
    · exact .inr (.inl ⟨_, .replace lease none, rfl, rfl, by rw [h]; rfl⟩)
    · exact .inr (.inr ⟨rfl, by rw [h]; rfl⟩)
    · exact .inr (.inl ⟨_, .create lease none, rfl, rfl, by rw [h]; rfl⟩)
    · exact .inr (.inr ⟨rfl, by rw [h]; rfl⟩)
  | create lease answer =>
    revert x
    intro (x : Except KubeError Unit) hx
    obtain rfl : answer = some x := hx
    rcases hwritten x with hleads | ⟨hfailed, hpause⟩
    · exact .inl hleads
    · refine .inr (.inr ⟨?_, hpause⟩)
      cases x with
      | ok => cases hfailed
      | error => rfl
  | replace lease answer =>
    revert x
    intro (x : Except KubeError Unit) hx
    obtain rfl : answer = some x := hx
    rcases hwritten x with hleads | ⟨hfailed, hpause⟩
    · exact .inl hleads
    · refine .inr (.inr ⟨?_, hpause⟩)
      cases x with
      | ok => cases hfailed
      | error => rfl

/-! Replicas none of which has led yet. -/

/-- It is waiting for the Lease, and no call of it is overdue. -/
def Candidate (name : String) (latency : Int) (sent now : MicroTime) (r : Replica) : Prop :=
  r.leader = false ∧ r.renewal = .idle ∧
    match r.main with
    | .idle => True
    | .retrying _ => True
    | .acquiring call => AcquireCall name call ∧ sent ≤ now ∧ now ≤ sent + latency
    | _ => False

/-- The call with the answer the server gives it. -/
def Call.taken (self : Call) (now : MicroTime) (store : LeaseStore) : Call :=
  { self with answer := some (self.request.answer now store).1 }

/-- The read an attempt begins with. -/
def firstRead (name : String) (now : MicroTime) : Call :=
  ⟨.get, LeaderElector.tryAcquireFound name now, none⟩

section Contest

variable {ι : Type} [DecidableEq ι] [Fintype ι] {names : ι → String} {latency : Int}
variable {sent : ι → MicroTime} {w w' : Deployment ι} {action : Action ι}

/-- What can happen as long as nobody leads: time passes, an attempt begins, a call takes
effect, or its answer returns. -/
theorem candidate_cases
    (hw : ∀ i, Candidate (names i) latency (sent i) w.now (w.replica i))
    (h : Deployment.step names w action = some w') :
    (∃ time, action = .advance time ∧ w.now < time ∧
      (∀ i, (w.replica i).awaits time = true) ∧ w' = { w with now := time }) ∨
    (∃ i, sentAfter sent w.now action = Function.update sent i w.now ∧
      ((w.replica i).main = .idle ∨ (w.replica i).main = .retrying w.now) ∧
      w' = w.set i { w.replica i with main := .acquiring (firstRead (names i) w.now) }) ∨
    (∃ i call, sentAfter sent w.now action = sent ∧ (w.replica i).main = .acquiring call ∧
      call.answer = none ∧
      w' = { w.set i { w.replica i with main := .acquiring (call.taken w.now w.store) } with
        store := (call.request.answer w.now w.store).2 }) ∨
    ∃ i call x, sentAfter sent w.now action = Function.update sent i w.now ∧
      (w.replica i).main = .acquiring call ∧ call.answer = some x ∧
      w' = w.set i ((w.replica i).afterAcquire w.now (settle w.now (call.next x))) := by
  cases action with
  | advance time =>
    simp only [Deployment.step, Option.ite_none_right_eq_some, Option.some.injEq] at h
    obtain ⟨⟨hlt, hawaits⟩, rfl⟩ := h
    exact .inl ⟨time, rfl, hlt, hawaits, rfl⟩
  | start i =>
    cases hmain : (w.replica i).main with
    | idle =>
      simp only [Deployment.step, hmain, Option.some.injEq] at h
      exact .inr (.inl ⟨i, rfl, .inl hmain, h.symm⟩)
    | _ => simp [Deployment.step, hmain] at h
  | stop i =>
    have hi := (hw i).2.2
    cases hmain : (w.replica i).main with
    | leading => simp [hmain] at hi
    | _ => simp [Deployment.step, hmain] at h
  | takeEffect i task =>
    obtain ⟨-, hrenewal, hi⟩ := hw i
    cases task with
    | renewal => simp [Deployment.step, Deployment.takeEffect, hrenewal] at h
    | main =>
      cases hmain : (w.replica i).main with
      | acquiring call =>
        simp only [Deployment.step, Deployment.takeEffect, hmain, Option.map_eq_some_iff,
          Prod.exists] at h
        obtain ⟨call', store', heffect, rfl⟩ := h
        unfold Call.takeEffect at heffect
        split at heffect
        · cases heffect
        · rename_i hanswer
          obtain ⟨rfl, rfl⟩ := Prod.mk.inj (Option.some.inj heffect)
          exact .inr (.inr (.inl ⟨i, call, rfl, hmain, hanswer, rfl⟩))
      | releasing call => simp [hmain] at hi
      | _ => simp [Deployment.step, Deployment.takeEffect, hmain] at h
  | answer i task =>
    obtain ⟨-, hrenewal, hi⟩ := hw i
    cases task with
    | renewal =>
      cases hmain : (w.replica i).main <;>
        simp [Deployment.step, Deployment.answer, hrenewal, hmain] at h
    | main =>
      cases hmain : (w.replica i).main with
      | acquiring call =>
        simp only [Deployment.step, Deployment.answer, hmain, Option.map_eq_some_iff] at h
        obtain ⟨settled, hresume, rfl⟩ := h
        obtain ⟨x, hx, rfl⟩ := Option.map_eq_some_iff.mp hresume
        exact .inr (.inr (.inr ⟨i, call, x, rfl, hmain, hx, rfl⟩))
      | releasing call => simp [hmain] at hi
      | _ => simp [Deployment.step, Deployment.answer, hmain] at h
  | wake i task =>
    obtain ⟨-, hrenewal, hi⟩ := hw i
    cases task with
    | renewal =>
      cases hmain : (w.replica i).main <;>
        simp [Deployment.step, Deployment.wake, hrenewal, hmain] at h
    | main =>
      cases hmain : (w.replica i).main with
      | retrying wake =>
        simp only [Deployment.step, Deployment.wake, hmain, Option.ite_none_right_eq_some,
          Option.some.injEq] at h
        obtain ⟨rfl, h⟩ := h
        exact .inr (.inl ⟨i, rfl, .inr hmain, h.symm⟩)
      | _ => simp [Deployment.step, Deployment.wake, hmain] at h

theorem candidate_step (hlatency : 0 ≤ latency)
    (hw : ∀ i, Candidate (names i) latency (sent i) w.now (w.replica i))
    (hprompt : Prompt latency sent w action) (h : Deployment.step names w action = some w')
    (hunled : ∀ i, (w'.replica i).leader = false) (i : ι) :
    Candidate (names i) latency (sentAfter sent w.now action i) w'.now (w'.replica i) := by
  rcases candidate_cases hw h with ⟨time, rfl, hlt, -, rfl⟩ | ⟨j, hsent, -, rfl⟩ |
    ⟨j, call, hsent, hmain, -, rfl⟩ | ⟨j, call, x, hsent, hmain, hx, rfl⟩
  · obtain ⟨hleader, hrenewal, hi⟩ := hw i
    refine ⟨hleader, hrenewal, ?_⟩
    cases hmain : (w.replica i).main with
    | acquiring call =>
      simp only [hmain] at hi ⊢
      have hdeadline := hprompt i
      simp only [Replica.answeredBy, hmain, decide_eq_true_eq] at hdeadline
      exact ⟨hi.1, le_of_lt (lt_of_le_of_lt hi.2.1 hlt), hdeadline⟩
    | idle => trivial
    | retrying wake => trivial
    | _ => simp [hmain] at hi
  all_goals rw [hsent]
  · by_cases hij : i = j
    · subst hij
      obtain ⟨hleader, hrenewal, -⟩ := hw i
      simp only [Deployment.set, Function.update_self]
      exact ⟨hleader, hrenewal, .read _ _, le_rfl, Int.le_add_of_nonneg_right hlatency⟩
    · simp only [Deployment.set, Function.update_of_ne hij]
      exact hw i
  · by_cases hij : i = j
    · subst hij
      obtain ⟨hleader, hrenewal, hi⟩ := hw i
      simp only [hmain] at hi
      simp only [Deployment.set, Function.update_self]
      refine ⟨hleader, hrenewal, ?_, hi.2⟩
      obtain ⟨hcall, -⟩ := hi
      cases hcall with
      | read since answer => exact .read _ _
      | create lease answer => exact .create _ _
      | replace lease answer => exact .replace _ _
    · simp only [Deployment.set, Function.update_of_ne hij]
      exact hw i
  · by_cases hij : i = j
    · subst hij
      obtain ⟨hleader, hrenewal, hi⟩ := hw i
      simp only [hmain] at hi
      have hi' := hunled i
      simp only [Deployment.set, Function.update_self] at hi' ⊢
      rcases afterAcquire_cases hi.1 hx with hleads | ⟨call', hcall', -, -, hnext⟩ | ⟨-, hnext⟩
      · rw [hleads] at hi'
        cases hi'
      · rw [hnext]
        exact ⟨hleader, hrenewal, hcall', le_rfl, Int.le_add_of_nonneg_right hlatency⟩
      · rw [hnext]
        exact ⟨hleader, hrenewal, trivial⟩
    · simp only [Deployment.set, Function.update_of_ne hij]
      exact hw i

/-! The one that has started. -/

/-- A write that is stored if it takes effect now. -/
def Succeeds (store : LeaseStore) (call : Call) : Prop :=
  call.answer = none ∧
    ((∃ lease, call.request = .create lease ∧ store.lease = none) ∨
      ∃ lease, call.request = .replace lease ∧ store.Matches lease.resourceVersion)

/-- It reads the Lease by the bound, or has done so and writes it. -/
def Seeking (name : String) (store : LeaseStore) (bound latency : Int) (sent now : MicroTime) :
    MainTask → Prop
  | .idle => True
  | .retrying wake => now ≤ wake ∧ wake ≤ bound
  | .acquiring call =>
    (∃ since answer, call = ⟨.get, LeaderElector.tryAcquireFound name since, answer⟩ ∧
      (∀ x, answer = some x → x = (LeaseRequest.get.answer now store).1) ∧ sent ≤ bound) ∨
    (Succeeds store call ∧ sent ≤ bound + latency)
  | _ => False

theorem get_answer (now now' : MicroTime) (store : LeaseStore) :
    (LeaseRequest.get.answer now store).1 = (LeaseRequest.get.answer now' store).1 ∧
      (LeaseRequest.get.answer now store).2 = store := by
  cases hstored : store.lease <;> simp [LeaseRequest.answer, hstored]

theorem isStoredWrite_of_succeeds {call : Call} (hcall : AcquireCall name call)
    (h : Succeeds store call) : (call.taken now store).isStoredWrite = true := by
  obtain ⟨hanswer, ⟨lease, hrequest, hnone⟩ | ⟨lease, hrequest, stored, hstored, hversion⟩⟩ := h
  · cases hcall with
    | create lease' answer =>
      simp [Call.taken, LeaseRequest.answer, hnone, Call.isStoredWrite]
    | _ => cases hrequest
  · cases hcall with
    | replace lease' answer =>
      obtain rfl := LeaseRequest.replace.inj hrequest
      simp [Call.taken, LeaseRequest.answer, hstored, hversion, Call.isStoredWrite]
    | _ => cases hrequest

theorem store_of_not_stored {call : Call} (hcall : AcquireCall name call)
    (h : (call.taken now store).isStoredWrite = false) :
    (call.request.answer now store).2 = store := by
  cases hcall with
  | read since answer => exact (get_answer now now store).2
  | create lease answer =>
    cases hstored : store.lease with
    | none => simp [Call.taken, LeaseRequest.answer, hstored, Call.isStoredWrite] at h
    | some stored => simp [LeaseRequest.answer, hstored]
  | replace lease answer =>
    cases hstored : store.lease with
    | none => simp [LeaseRequest.answer, hstored]
    | some stored =>
      by_cases hversion : stored.resourceVersion = lease.resourceVersion
      · simp [Call.taken, LeaseRequest.answer, hstored, hversion, Call.isStoredWrite] at h
      · simp [LeaseRequest.answer, hstored, hversion]

theorem seeking_of_read {bound expiry : Int} {r : Replica} {since : MicroTime}
    (hexpired : ∀ lease, store.lease = some lease → expiredAt lease.spec expiry = true)
    (hbound : expiry + retryInterval ≤ bound) (hnow : now ≤ bound + latency) :
    Seeking name store bound latency now now
      (r.afterAcquire now (settle now (LeaderElector.tryAcquireFound name since
        (LeaseRequest.get.answer now store).1))).main := by
  have hfound : ∀ found, (LeaseRequest.get.answer now store).1 = .ok found →
      store.lease = some found := by
    intro found h
    cases hstored : store.lease <;> simp_all [LeaseRequest.answer]
  have hmissing : ∀ e, (LeaseRequest.get.answer now store).1 = .error e →
      store.lease = none ∧ e.code = some 404 := by
    intro e h
    cases hstored : store.lease with
    | none =>
      simp only [LeaseRequest.answer, hstored, Except.error.injEq] at h
      exact ⟨rfl, h ▸ rfl⟩
    | some stored => simp [LeaseRequest.answer, hstored] at h
  rcases settle_found name since now (LeaseRequest.get.answer now store).1 with
    ⟨stored, lease, hread, hversion, h⟩ | ⟨stored, hread, hunexpired, h⟩ |
    ⟨e, lease, hread, -, h⟩ | ⟨e, hread, hcode, -⟩
  · rw [h]
    exact .inr ⟨⟨rfl, .inr ⟨lease, rfl, stored, hfound stored hread, hversion.symm⟩⟩, hnow⟩
  · rw [h]
    have hearly : now < expiry := by
      by_contra hlate
      have hexpired' := expiredAt_mono (not_lt.mp hlate) (hexpired stored (hfound stored hread))
      rw [hunexpired] at hexpired'
      cases hexpired'
    refine ⟨?_, le_trans (Int.add_le_add_right (le_of_lt hearly) _) hbound⟩
    exact Int.le_add_of_nonneg_right (by decide)
  · rw [h]
    exact .inr ⟨⟨rfl, .inl ⟨lease, rfl, (hmissing e hread).1⟩⟩, hnow⟩
  · exact absurd (hmissing e hread).2 hcode

/-- Nobody has written the Lease, and the one that has started is on its way to it. -/
structure Open (names : ι → String) (store : LeaseStore) (bound latency : Int) (k : ι)
    (sent : ι → MicroTime) (w : Deployment ι) : Prop where
  unwritten : w.store = store
  unstored : ∀ i call, (w.replica i).main = .acquiring call → call.isStoredWrite = false
  seeking : Seeking (names k) store bound latency (sent k) w.now (w.replica k).main

/-- Somebody has written the Lease, and only has to hear of it. -/
def Won (bound latency : Int) (sent : ι → MicroTime) (w : Deployment ι) : Prop :=
  ∃ i call, (w.replica i).main = .acquiring call ∧ call.isStoredWrite = true ∧
    sent i ≤ bound + 2 * latency

variable {store : LeaseStore} {k : ι} {bound expiry : Int}

omit [DecidableEq ι] [Fintype ι] in
theorem now_le_of_open (hlatency : 0 ≤ latency)
    (hk : Candidate (names k) latency (sent k) w.now (w.replica k))
    (hidle : (w.replica k).main = .idle → w.now ≤ bound)
    (h : Open names store bound latency k sent w) : w.now ≤ bound + 2 * latency := by
  have hseeking := h.seeking
  have hcandidate := hk.2.2
  cases hmain : (w.replica k).main with
  | idle =>
    have hnow := hidle hmain
    unfold MicroTime at *
    omega
  | retrying wake =>
    simp only [hmain, Seeking] at hseeking
    have hnow := le_trans hseeking.1 hseeking.2
    unfold MicroTime at *
    omega
  | acquiring call =>
    simp only [hmain] at hcandidate
    simp only [hmain, Seeking] at hseeking
    have hlate := hcandidate.2.2
    unfold MicroTime at *
    rcases hseeking with ⟨-, -, -, -, hsent⟩ | ⟨-, hsent⟩ <;> omega
  | _ => simp [hmain] at hcandidate

/-- Once somebody has written the Lease, that one hears of it before anything else can
become of it. -/
theorem won_step (hw : ∀ i, Candidate (names i) latency (sent i) w.now (w.replica i))
    (h : Deployment.step names w action = some w')
    (hunled : ∀ i, (w'.replica i).leader = false) (hwon : Won bound latency sent w) :
    Won bound latency (sentAfter sent w.now action) w' := by
  obtain ⟨i, call, hmain, hstored, hsent⟩ := hwon
  have hcall := (hw i).2.2
  simp only [hmain] at hcall
  rcases candidate_cases hw h with ⟨time, rfl, -, -, rfl⟩ | ⟨j, hafter, hj, rfl⟩ |
    ⟨j, call', hafter, hj, hnone, rfl⟩ | ⟨j, call', x, hafter, hj, hx, rfl⟩
  · exact ⟨i, call, hmain, hstored, hsent⟩
  all_goals
    rw [hafter]
    by_cases hij : i = j
  · subst hij
    rw [hmain] at hj
    rcases hj with hj | hj <;> cases hj
  · refine ⟨i, call, ?_, hstored, ?_⟩ <;>
      simpa only [Deployment.set, Function.update_of_ne hij]
  · subst hij
    obtain rfl := MainTask.acquiring.inj (hmain.symm.trans hj)
    rw [isStoredWrite_eq_false hnone] at hstored
    cases hstored
  · refine ⟨i, call, ?_, hstored, hsent⟩
    simpa only [Deployment.set, Function.update_of_ne hij]
  · subst hij
    obtain rfl := MainTask.acquiring.inj (hmain.symm.trans hj)
    have hleads := hunled i
    simp only [Deployment.set, Function.update_self] at hleads
    rcases afterAcquire_cases hcall.1 hx with hl | ⟨-, -, -, hnot, -⟩ | ⟨hnot, -⟩
    · rw [hl] at hleads
      cases hleads
    · rw [hnot] at hstored
      cases hstored
    · rw [hnot] at hstored
      cases hstored
  · refine ⟨i, call, ?_, hstored, ?_⟩ <;>
      simpa only [Deployment.set, Function.update_of_ne hij]

/-- Until somebody writes the Lease, the one that has started gets closer to it. -/
theorem open_step (hlatency : 0 ≤ latency)
    (hexpired : ∀ lease, store.lease = some lease → expiredAt lease.spec expiry = true)
    (hbound : expiry + retryInterval ≤ bound)
    (hw : ∀ i, Candidate (names i) latency (sent i) w.now (w.replica i))
    (h : Deployment.step names w action = some w')
    (hunled : ∀ i, (w'.replica i).leader = false)
    (hidle : (w.replica k).main = .idle → w.now ≤ bound)
    (hopen : Open names store bound latency k sent w) :
    Open names store bound latency k (sentAfter sent w.now action) w' ∨
      Won bound latency (sentAfter sent w.now action) w' := by
  obtain ⟨hstore, hunstored, hseeking⟩ := hopen
  rcases candidate_cases hw h with ⟨time, rfl, hlt, hawaits, rfl⟩ | ⟨j, hafter, hj, rfl⟩ |
    ⟨j, call, hafter, hj, hnone, rfl⟩ | ⟨j, call, x, hafter, hj, hx, rfl⟩
  · refine .inl ⟨hstore, hunstored, ?_⟩
    have hk := hawaits k
    cases hmain : (w.replica k).main with
    | retrying wake =>
      simp only [hmain, Seeking] at hseeking ⊢
      simp only [Replica.awaits, hmain, Bool.and_eq_true, decide_eq_true_eq] at hk
      exact ⟨hk.1, hseeking.2⟩
    | acquiring call =>
      simp only [hmain, Seeking, (get_answer w.now time store).1] at hseeking ⊢
      exact hseeking
    | idle => trivial
    | _ => simp only [hmain, Seeking] at hseeking
  · rw [hafter]
    refine .inl ⟨hstore, fun i call hmain => ?_, ?_⟩
    · by_cases hij : i = j
      · subst hij
        simp only [Deployment.set, Function.update_self] at hmain
        obtain rfl := MainTask.acquiring.inj hmain
        rfl
      · simp only [Deployment.set, Function.update_of_ne hij] at hmain
        exact hunstored i call hmain
    · by_cases hkj : k = j
      · subst hkj
        simp only [Deployment.set, Function.update_self]
        refine .inl ⟨w.now, none, rfl, fun x hx => absurd hx (Option.some_ne_none x).symm, ?_⟩
        rcases hj with hj | hj
        · exact hidle hj
        · simp only [hj, Seeking] at hseeking
          exact hseeking.2
      · simp only [Deployment.set, Function.update_of_ne hkj]
        exact hseeking
  · rw [hafter]
    have hcall := (hw j).2.2
    simp only [hj] at hcall
    cases hwrites : (call.taken w.now w.store).isStoredWrite with
    | true =>
      refine .inr ⟨j, call.taken w.now w.store, ?_, hwrites, ?_⟩
      · simp only [Deployment.set, Function.update_self]
      · have hnow := now_le_of_open hlatency (hw k) hidle ⟨hstore, hunstored, hseeking⟩
        exact le_trans hcall.2.1 hnow
    | false =>
      refine .inl ⟨(store_of_not_stored hcall.1 hwrites).trans hstore, fun i call' hmain => ?_, ?_⟩
      · by_cases hij : i = j
        · subst hij
          simp only [Deployment.set, Function.update_self] at hmain
          obtain rfl := MainTask.acquiring.inj hmain
          exact hwrites
        · simp only [Deployment.set, Function.update_of_ne hij] at hmain
          exact hunstored i call' hmain
      · by_cases hkj : k = j
        · subst hkj
          simp only [hj, Seeking] at hseeking
          simp only [Deployment.set, Function.update_self]
          rcases hseeking with ⟨since, answer, rfl, -, hsent⟩ | ⟨hsucceeds, -⟩
          · refine .inl ⟨since, _, rfl, fun x hx => ?_, hsent⟩
            obtain rfl := Option.some.inj hx
            rw [hstore]
          · rw [← hstore] at hsucceeds
            rw [isStoredWrite_of_succeeds hcall.1 hsucceeds] at hwrites
            cases hwrites
        · simp only [Deployment.set, Function.update_of_ne hkj]
          exact hseeking
  · rw [hafter]
    have hcall := (hw j).2.2
    simp only [hj] at hcall
    have hnext := @afterAcquire_cases _ w.now (w.replica j) _ _ hcall.1 hx
    refine .inl ⟨hstore, fun i call' hmain => ?_, ?_⟩
    · by_cases hij : i = j
      · subst hij
        have hleads := hunled i
        simp only [Deployment.set, Function.update_self] at hmain hleads
        rcases hnext with hl | ⟨call'', -, hfresh, -, hnext⟩ | ⟨-, hnext⟩
        · rw [hl] at hleads
          cases hleads
        · rw [hnext] at hmain
          obtain rfl := MainTask.acquiring.inj hmain
          exact isStoredWrite_eq_false hfresh
        · rw [hnext] at hmain
          cases hmain
      · simp only [Deployment.set, Function.update_of_ne hij] at hmain
        exact hunstored i call' hmain
    · by_cases hkj : k = j
      · subst hkj
        simp only [hj, Seeking] at hseeking
        simp only [Deployment.set, Function.update_self]
        rcases hseeking with ⟨since, answer, rfl, hread, hsent⟩ | ⟨⟨hnone, -⟩, -⟩
        · have hnow : w.now ≤ bound + latency :=
            le_trans hcall.2.2 (Int.add_le_add_right hsent latency)
          have hfound := hread x hx
          rw [hfound, (get_answer w.now w.now store).1]
          exact seeking_of_read hexpired hbound hnow
        · rw [hnone] at hx
          cases hx
      · simp only [Deployment.set, Function.update_of_ne hkj]
        exact hseeking

/-- In a run in which nobody leads, nobody stops being a candidate, and the Lease is open
or won. -/
theorem contest_run {start : MicroTime} {passed : List (Deployment ι)} (hlatency : 0 ≤ latency)
    (hexpired : ∀ lease, store.lease = some lease → expiredAt lease.spec expiry = true)
    (hbound : expiry + retryInterval ≤ bound)
    (hr : PromptRun names latency (.initial store start) passed sent w)
    (hstarted : ∀ v ∈ passed, (v.replica k).main = .idle → v.now ≤ bound)
    (hunled : ∀ v ∈ passed, ∀ i, (v.replica i).leader = false) :
    w ∈ passed ∧ (∀ i, Candidate (names i) latency (sent i) w.now (w.replica i)) ∧
      (Open names store bound latency k sent w ∨ Won bound latency sent w) := by
  induction hr with
  | refl sent =>
    refine ⟨List.mem_singleton_self _, fun i => ⟨rfl, rfl, trivial⟩, .inl ⟨rfl, ?_, trivial⟩⟩
    intro i call hmain
    cases hmain
  | @step passed sent w w' action hr hprompt hstep ih =>
    rw [List.forall_mem_append, List.forall_mem_singleton] at hstarted hunled
    obtain ⟨hmem, hcandidates, hcontest⟩ := ih hstarted.1 hunled.1
    refine ⟨List.mem_append_right _ (List.mem_singleton_self _),
      candidate_step hlatency hcandidates hprompt hstep hunled.2, ?_⟩
    rcases hcontest with hopen | hwon
    · exact open_step hlatency hexpired hbound hcandidates hstep hunled.2 (hstarted.1 w hmem) hopen
    · exact .inr (won_step hcandidates hstep hunled.2 hwon)

theorem expiredAt_of_elapsed {spec : Option LeaseSpec}
    (h : ∀ t, spec.bind LeaseSpec.renewTime = some t →
      t + (((spec.bind LeaseSpec.leaseDurationSeconds).getD leaseDurationSecs).toInt + 1) * 1000000
        ≤ now) :
    expiredAt spec now = true := by
  unfold expiredAt elapsedSeconds
  cases hrenew : spec.bind LeaseSpec.renewTime with
  | none => rfl
  | some t =>
    have hlate := h t hrenew
    generalize ((spec.bind LeaseSpec.leaseDurationSeconds).getD leaseDurationSecs).toInt = seconds
      at hlate ⊢
    simp only [decide_eq_true_eq]
    have hle : ((seconds + 1) * 1000000).tdiv 1000000 ≤ (now - t).tdiv 1000000 := by
      refine Int.tdiv_le_tdiv (by decide) ?_
      unfold MicroTime at *
      omega
    rw [Int.mul_tdiv_cancel _ (by decide)] at hle
    omega

/-- Failover. A Lease that its holder no longer renews has a new leader soon: from when
it expires, or from when a replica starts if that is later, it takes no longer than one
pause and three calls, in whatever order everything happens. -/
theorem leads_within (names : ι → String) (store : LeaseStore)
    (start expiry startedBy : MicroTime) (latency : Int) (k : ι) (hlatency : 0 ≤ latency)
    (hexpiry : ∀ lease t, store.lease = some lease →
      lease.spec.bind LeaseSpec.renewTime = some t →
      t + (((lease.spec.bind LeaseSpec.leaseDurationSeconds).getD leaseDurationSecs).toInt + 1) *
        1000000 ≤ expiry)
    {passed : List (Deployment ι)} (hr : PromptRun names latency (.initial store start) passed
      sent w)
    (hstarted : ∀ v ∈ passed, (v.replica k).isIdle = true → v.now ≤ startedBy)
    (hlate : max startedBy (expiry + retryInterval) + 3 * latency < w.now) :
    ∃ v ∈ passed, ∃ i, (v.replica i).leader = true := by
  by_contra hnobody
  have hunled : ∀ v ∈ passed, ∀ i, (v.replica i).leader = false := by
    intro v hv i
    rw [Bool.eq_false_iff]
    exact fun hleads => hnobody ⟨v, hv, i, hleads⟩
  have hexpired : ∀ lease, store.lease = some lease → expiredAt lease.spec expiry = true :=
    fun lease hlease => expiredAt_of_elapsed fun t ht => hexpiry lease t hlease ht
  have hbound : expiry + retryInterval ≤ max startedBy (expiry + retryInterval) :=
    le_max_right _ _
  have hidle : ∀ v ∈ passed, (v.replica k).main = .idle →
      v.now ≤ max startedBy (expiry + retryInterval) :=
    fun v hv h => le_trans (hstarted v hv (by simp [Replica.isIdle, h])) (le_max_left _ _)
  generalize max startedBy (expiry + retryInterval) = bound at hlate hbound hidle
  obtain ⟨hmem, hcandidates, hopen | ⟨i, call, hmain, -, hsent⟩⟩ :=
    contest_run hlatency hexpired hbound hr hidle hunled
  · have hnow := now_le_of_open hlatency (hcandidates k) (hidle w hmem) hopen
    unfold MicroTime at *
    omega
  · have hcandidate := (hcandidates i).2.2
    simp only [hmain] at hcandidate
    have hnow := hcandidate.2.2
    unfold MicroTime at *
    omega

/-- The Lease of an elector that is gone, last renewed at 0. -/
def goneHolder : LeaseStore := LeaseStore.empty.put (LeaderElector.newLease "replica-gone" 0)

/-- A replica starts at 12 s, finds the Lease held, and takes it over at 17 s. -/
def takeover : List (Action Bool) := [
  .advance 12000000, .start false, .takeEffect false .main, .answer false .main,
  .advance 17000000, .wake false .main, .takeEffect false .main, .answer false .main,
  .takeEffect false .main, .answer false .main, .advance 22000000]

/-- What the run passes, and where it ends. -/
def takeoverRun : List (Deployment Bool) × (Bool → MicroTime) × Deployment Bool :=
  (runPrompt replicaNames 0 takeover
    ([.initial goneHolder 0], fun _ => 0, .initial goneHolder 0)).get (by decide)

theorem promptRun_takeover :
    PromptRun replicaNames 0 (.initial goneHolder 0) takeoverRun.1 takeoverRun.2.1
      takeoverRun.2.2 :=
  promptRun_of_eq (.refl fun _ => 0) (Option.some_get _).symm

theorem leads_within_takeover : ∃ v ∈ takeoverRun.1, ∃ i, (v.replica i).leader = true :=
  leads_within replicaNames goneHolder 0 16000000 12000000 0 false le_rfl
    (by
      intro lease t hlease ht
      obtain rfl := Option.some.inj hlease
      obtain rfl := Option.some.inj ht
      decide)
    promptRun_takeover (by decide) (by decide)

end Contest

end StreamlineOperator.LeaderElection
