/- source: src/src/leader_election.rs (try_acquire, renew, release, create_lease, update_lease)
   digest: The Lease is a true record of who has led, how often that changed, and since when. -/

import StreamlineOperator.LeaderElection.Protocol
import StreamlineOperator.LeaderElection.Handover

set_option autoImplicit false
set_option relaxedAutoImplicit false

namespace StreamlineOperator.LeaderElection

open Foundation
open Foundation.World (Step Run exchangesOf)
open Kubernetes (KubeError)

/-! What a write says, to the letter. -/

def LeaseExchange.isGet (x : LeaseExchange) : Bool :=
  match x.request with
  | .get => true
  | _ => false

/-- The clock was read in the attempt under way: since then the Lease has been
read at most once. -/
def ReadInAttempt (tr : List LeaseExchange) (now : MicroTime) : Prop :=
  ∃ before since, tr = before ++ ⟨.clock, now⟩ :: since ∧ since.countP LeaseExchange.isGet ≤ 1

/-- The Lease an elector makes of the one it found, with a time it has read. -/
inductive Rewrite (identity : String) (found : Lease) (timely : MicroTime → Prop) : Lease → Prop
  | update {now : MicroTime} : found.holder = some identity → timely now →
      Rewrite identity found timely (LeaderElector.updatedLease identity found now false)
  | renewal {now : MicroTime} : found.holder = some identity → timely now →
      Rewrite identity found timely (LeaderElector.renewedLease found now)
  | takeover {now : MicroTime} : found.holder ≠ some identity → timely now →
      Rewrite identity found timely (LeaderElector.updatedLease identity found now true)
  | release : found.holder = some identity →
      Rewrite identity found timely (LeaderElector.releasedLease found)

/-- What an elector may send after these exchanges. -/
def Sincere (identity : String) (tr : List LeaseExchange) : LeaseRequest → Prop
  | .create lease => ∃ now, ReadInAttempt tr now ∧ lease = LeaderElector.newLease identity now
  | .replace lease => ∃ found since, ReadLast tr (.ok found) since ∧
      Rewrite identity found (ReadInAttempt tr) lease
  | _ => True

section Programs

open Program (Sends)

variable {identity : String}

theorem sends_orConflict (response : Except KubeError Unit) (tr : List LeaseExchange) :
    Sends (Sincere identity) tr (LeaderElector.orConflict response) := by
  unfold LeaderElector.orConflict
  split
  · exact Program.sends_ok true
  · split
    · exact Program.sends_ok false
    · exact Program.sends_err _

theorem sends_updateLease {existing : Lease} {now : MicroTime} {takeover : Bool}
    {tr : List LeaseExchange}
    (h : Sincere identity tr
      (.replace (LeaderElector.updatedLease identity existing now takeover))) :
    Sends (Sincere identity) tr (LeaderElector.updateLease identity existing now takeover) :=
  Program.sends_call h (fun response => sends_orConflict response _)

theorem readInAttempt_found (tr : List LeaseExchange) (now : MicroTime)
    (found : Except KubeError Lease) :
    ReadInAttempt (tr ++ [⟨.clock, now⟩] ++ [⟨.get, found⟩]) now :=
  ⟨tr, [⟨.get, found⟩], by simp, by simp [LeaseExchange.isGet]⟩

theorem ReadInAttempt.clock {tr : List LeaseExchange} {now : MicroTime}
    (h : ReadInAttempt tr now) (later : MicroTime) :
    ReadInAttempt (tr ++ [⟨.clock, later⟩]) now := by
  obtain ⟨before, since, rfl, hcount⟩ := h
  refine ⟨before, since ++ [⟨.clock, later⟩], by simp, ?_⟩
  rw [List.countP_append]
  simpa [LeaseExchange.isGet] using hcount

theorem sends_attemptTakeover {existing : Lease} {now : MicroTime} {tr since : List LeaseExchange}
    (hread : ReadLast tr (.ok existing) since) (hnow : ReadInAttempt tr now)
    (hother : existing.holder ≠ some identity) :
    Sends (Sincere identity) tr (LeaderElector.attemptTakeover identity existing now) := by
  unfold LeaderElector.attemptTakeover LeaderElector.isExpired
  cases hrenew : existing.spec.bind LeaseSpec.renewTime with
  | none => exact sends_updateLease ⟨existing, since, hread, .takeover hother hnow⟩
  | some t =>
    refine Program.sends_call trivial (fun time => ?_)
    have hread' := readLast_clock hread time
    cases hexpired : expiredAt existing.spec time with
    | true =>
      simp only [Program.pure_eq, Program.ok_bind, hexpired, if_true]
      exact sends_updateLease ⟨existing, _, hread', .takeover hother (hnow.clock time)⟩
    | false =>
      simp only [Program.pure_eq, Program.ok_bind, hexpired, Bool.false_eq_true, if_false]
      exact Program.sends_ok false

theorem sends_tryAcquire (tr : List LeaseExchange) :
    Sends (Sincere identity) tr (LeaderElector.tryAcquire identity) := by
  refine Program.sends_call trivial (fun now => Program.sends_call trivial (fun found => ?_))
  have hnow := readInAttempt_found tr now found
  have hread := readLast_get (tr ++ [⟨.clock, now⟩]) found
  show Sends _ _ (LeaderElector.tryAcquireFound identity now found)
  unfold LeaderElector.tryAcquireFound
  cases found with
  | ok existing =>
    by_cases hholder : existing.holder = some identity
    · simp only [if_pos hholder]
      exact sends_updateLease ⟨existing, [], hread, .update hholder hnow⟩
    · simp only [if_neg hholder]
      exact sends_attemptTakeover hread hnow hholder
  | error e =>
    by_cases he : e.code = some 404
    · simp only [if_pos he]
      exact Program.sends_call ⟨now, hnow, rfl⟩ (fun response => sends_orConflict response _)
    · simp only [if_neg he]
      exact Program.sends_err e

theorem sends_acquire (attempts : Nat) (tr : List LeaseExchange) :
    Sends (Sincere identity) tr (LeaderElector.acquire identity attempts) := by
  induction attempts generalizing tr with
  | zero => exact Program.sends_ok false
  | succ attempts ih =>
    refine Program.sends_bind (Program.sends_attempt (sends_tryAcquire tr)) (fun tr res => ?_)
    split
    · exact Program.sends_ok true
    · exact ih tr

theorem sends_renew (tr : List LeaseExchange) :
    Sends (Sincere identity) tr (LeaderElector.renew identity) := by
  refine Program.sends_call trivial (fun found => ?_)
  show Sends _ _ (LeaderElector.renewFound identity found)
  unfold LeaderElector.renewFound
  cases found with
  | error e => exact Program.sends_err e
  | ok lease =>
    by_cases hholder : lease.holder = some identity
    · simp only [ne_eq, hholder, not_true_eq_false, if_false]
      refine Program.sends_call trivial (fun now => Program.sends_call ?_ (fun response =>
        sends_orConflict response _))
      exact ⟨lease, _, readLast_clock (readLast_get tr (.ok lease)) now,
        .renewal hholder ⟨_, [], rfl, Nat.zero_le 1⟩⟩
    · simp only [ne_eq, hholder, not_false_eq_true, if_true]
      exact Program.sends_ok false

theorem sends_release (tr : List LeaseExchange) :
    Sends (Sincere identity) tr (LeaderElector.release identity) := by
  refine Program.sends_call trivial (fun found => ?_)
  show Sends _ _ (LeaderElector.releaseFound identity found)
  unfold LeaderElector.releaseFound
  cases found with
  | error e => exact Program.sends_ok ()
  | ok lease =>
    by_cases hholder : lease.holder = some identity
    · simp only [ne_eq, hholder, not_true_eq_false, if_false]
      refine Program.sends_call ⟨lease, [], readLast_get tr (.ok lease), .release hholder⟩
        (fun _ => Program.sends_ok ())
    · simp only [ne_eq, hholder, not_false_eq_true, if_true]
      exact Program.sends_ok ()

theorem sends_program (op : LeaseOp) (identity : String) :
    Sends (Sincere identity) [] (op.program identity) := by
  cases op with
  | tryAcquire => exact sends_tryAcquire []
  | acquire attempts => exact sends_acquire attempts []
  | renew => exact sends_renew []
  | release => exact Program.sends_bind (sends_release []) (fun _ _ => Program.sends_ok false)

end Programs

/-! What the stored Lease says of the leadership, and how a write changes that. -/

/-- The Lease as a record: who leads, after how many hand-overs, since when, and
when that was last signed, for how long. -/
structure Record where
  holder : Option String
  transitions : Int32
  acquireTime : Option MicroTime
  renewTime : Option MicroTime
  duration : Option Int32

def LeaseStore.record (self : LeaseStore) : Record where
  holder := self.holder
  transitions := self.transitions
  acquireTime := self.spec.bind LeaseSpec.acquireTime
  renewTime := self.spec.bind LeaseSpec.renewTime
  duration := self.spec.bind LeaseSpec.leaseDurationSeconds

/-- The four ways in which an elector amends the record. -/
inductive Amends (identity : String) (timely : MicroTime → Prop) (store : LeaseStore) :
    Record → Prop
  | opens {now : MicroTime} : store.lease = none → timely now →
      Amends identity timely store
        ⟨some identity, 0, some now, some now, some leaseDurationSecs⟩
  | takes {now : MicroTime} : store.lease.isSome → store.holder ≠ some identity → timely now →
      Amends identity timely store
        ⟨some identity, store.transitions + 1, some now, some now, some leaseDurationSecs⟩
  | signs {now : MicroTime} {duration : Option Int32} : store.holder = some identity →
      timely now → duration = store.record.duration ∨ duration = some leaseDurationSecs →
      Amends identity timely store
        { store.record with renewTime := some now, duration := duration }
  | vacates : store.holder = some identity →
      Amends identity timely store { store.record with holder := none }

/-- The record after its elector has taken the Lease. -/
def LeaseStore.takenBy (self : LeaseStore) (identity : String) (now : MicroTime) : Record where
  holder := some identity
  transitions := if self.lease.isSome then self.transitions + 1 else 0
  acquireTime := some now
  renewTime := some now
  duration := some leaseDurationSecs

/-- A record that still tells of the same tenure. -/
structure KeepsTenure (store : LeaseStore) (record : Record) : Prop where
  transitions : record.transitions = store.transitions
  acquireTime : record.acquireTime = store.record.acquireTime
  duration : record.duration = store.record.duration ∨ record.duration = some leaseDurationSecs
  holder : record.holder = store.holder ∨ record.holder = none

section Writes

variable {identity : String} {timely : MicroTime → Prop} {store : LeaseStore} {found lease : Lease}

theorem record_put (store : LeaseStore) (lease : Lease) :
    (store.put lease).record =
      ⟨lease.holder, (lease.spec.bind LeaseSpec.leaseTransitions).getD 0,
        lease.spec.bind LeaseSpec.acquireTime, lease.spec.bind LeaseSpec.renewTime,
        lease.spec.bind LeaseSpec.leaseDurationSeconds⟩ := rfl

theorem record_of_lease (h : store.lease = some found) :
    store.record =
      ⟨found.holder, (found.spec.bind LeaseSpec.leaseTransitions).getD 0,
        found.spec.bind LeaseSpec.acquireTime, found.spec.bind LeaseSpec.renewTime,
        found.spec.bind LeaseSpec.leaseDurationSeconds⟩ := by
  simp only [LeaseStore.record, LeaseStore.holder, LeaseStore.transitions, LeaseStore.spec, h,
    Option.bind_some]

theorem version_of_rewrite (hr : Rewrite identity found timely lease) :
    lease.resourceVersion = found.resourceVersion := by
  cases hr <;> rfl

theorem amends_of_rewrite (h : store.lease = some found) (hr : Rewrite identity found timely lease) :
    Amends identity timely store (store.put lease).record := by
  have hrecord := record_of_lease h
  have hholder : store.holder = found.holder := congrArg Record.holder hrecord
  have htransitions : store.transitions =
      (found.spec.bind LeaseSpec.leaseTransitions).getD 0 := congrArg Record.transitions hrecord
  cases hr with
  | @update now hown hnow =>
    have hsigns := @Amends.signs identity timely store now (some leaseDurationSecs)
      (hholder.trans hown) hnow (.inr rfl)
    rw [hrecord, hown] at hsigns
    exact hsigns
  | @renewal now hown hnow =>
    have hsigns := @Amends.signs identity timely store now _ (hholder.trans hown) hnow (.inl rfl)
    obtain ⟨spec, hspec, -⟩ := Option.bind_eq_some_iff.mp hown
    rw [record_put]
    simp only [hrecord, LeaderElector.renewedLease, Lease.holder, hspec] at hsigns ⊢
    exact hsigns
  | @takeover now hother hnow =>
    have htakes := @Amends.takes identity timely store now (by rw [h]; rfl) (hholder ▸ hother) hnow
    rw [htransitions] at htakes
    exact htakes
  | release hown =>
    have hvacates := @Amends.vacates identity timely store (hholder.trans hown)
    obtain ⟨spec, hspec, -⟩ := Option.bind_eq_some_iff.mp hown
    rw [record_put]
    simp only [hrecord, LeaderElector.releasedLease, Lease.holder, hspec] at hvacates ⊢
    exact hvacates

theorem holder_of_absent (h : store.lease = none) : store.holder = none := by
  rw [LeaseStore.holder, h, Option.bind_none]

theorem Amends.takes_or_keeps {record : Record} (h : Amends identity timely store record) :
    (∃ now, store.holder ≠ some identity ∧ timely now ∧ record = store.takenBy identity now) ∨
      store.holder = some identity ∧ KeepsTenure store record := by
  cases h with
  | @opens now hnone hnow =>
    refine .inl ⟨now, ?_, hnow, ?_⟩
    · simp [holder_of_absent hnone]
    · simp [LeaseStore.takenBy, hnone]
  | @takes now hsome hother hnow =>
    refine .inl ⟨now, hother, hnow, ?_⟩
    simp [LeaseStore.takenBy, hsome]
  | signs hown _ hduration => exact .inr ⟨hown, rfl, rfl, hduration, .inl rfl⟩
  | vacates hown => exact .inr ⟨hown, rfl, rfl, .inl rfl, .inr rfl⟩

end Writes

/-! Runs. -/

section Runs

variable {ι : Type} [DecidableEq ι] {owner : ι → String} {ops : ι → LeaseOp} {store : LeaseStore}
variable {h : List (LeaseEvent ι)} {v w : LeaseWorld ι} {e : LeaseEvent ι}

/-- A step that stores something amends the record. -/
theorem amends_of_step (hr : Run LeaseRequest.serve (start store owner ops) h v)
    (hs : Step LeaseRequest.serve v e w) (hne : e.after ≠ e.before) :
    Amends (owner e.task) (ReadInAttempt (exchangesOf h e.task)) e.before e.after.record := by
  obtain ⟨next, hsincere, -⟩ :=
    hr.everywhere_step hs (sends_program (ops e.task) (owner e.task))
  obtain ⟨hserve, hbefore, -⟩ := hs.served
  obtain ⟨task, request, response, before, after⟩ := e
  subst hbefore
  cases request with
  | get => cases response <;> exact absurd hserve.1 hne
  | clock => exact absurd hserve hne
  | create lease =>
    rcases hserve with ⟨hnone, hput⟩ | ⟨hsame, -⟩
    · obtain ⟨now, hnow, hlease⟩ := hsincere
      rw [hput, hlease]
      exact .opens hnone hnow
    · exact absurd hsame hne
  | replace lease =>
    rcases hserve with ⟨hmatches, hput⟩ | ⟨hsame, -⟩
    · obtain ⟨found, since, hread, hrewrite⟩ := hsincere
      obtain ⟨before, htrace⟩ := hread.1
      obtain ⟨h₁, g, h₂, rfl, -, hg, -, -⟩ := World.exists_event_of_exchangesOf htrace
      obtain ⟨hstored, -⟩ := unchanged_since_read hr hg (version_of_rewrite hrewrite ▸ hmatches)
      rw [hput]
      exact amends_of_rewrite hstored hrewrite
    · exact absurd hsame hne

/-- The event puts an elector in place that was not there before. -/
def TakesLease (e : LeaseEvent ι) : Prop :=
  e.after.holder ≠ none ∧ e.after.holder ≠ e.before.holder

instance : DecidablePred (@TakesLease ι) := fun e =>
  inferInstanceAs (Decidable (e.after.holder ≠ none ∧ e.after.holder ≠ e.before.holder))

/-- It takes a Lease that was there already. -/
def HandsLeaseOver (e : LeaseEvent ι) : Prop := e.before.lease.isSome ∧ TakesLease e

instance : DecidablePred (@HandsLeaseOver ι) := fun e =>
  inferInstanceAs (Decidable (e.before.lease.isSome ∧ TakesLease e))

/-- The event stores a Lease that names a holder. -/
def SignsLease (e : LeaseEvent ι) : Prop := e.after ≠ e.before ∧ e.after.holder ≠ none

/-- What the record has to say after a history: how often the Lease was handed
over; when the last elector to take it looked at the clock to do so, and that
nobody else has written since; when the last to sign it looked at the clock. -/
structure RecordsLeadership (owner : ι → String) (store : LeaseStore) (h : List (LeaseEvent ι))
    (record : Record) : Prop where
  transitions : record.transitions =
    Int32.ofInt (store.transitions.toInt + h.countP (fun e => HandsLeaseOver e))
  tenure : ((∀ e ∈ h, ¬ TakesLease e) ∧ record.acquireTime = store.record.acquireTime ∧
      ∀ d ∈ h, d.after ≠ d.before → store.holder = some (owner d.task)) ∨
    ∃ h₁ e h₂ now, h = h₁ ++ e :: h₂ ∧ TakesLease e ∧ (∀ d ∈ h₂, ¬ TakesLease d) ∧
      ReadInAttempt (exchangesOf h₁ e.task) now ∧ record.acquireTime = some now ∧
      record.duration = some leaseDurationSecs ∧
      (record.holder = some (owner e.task) ∨ record.holder = none) ∧
      ∀ d ∈ h₂, d.after ≠ d.before → owner d.task = owner e.task
  signature : ((∀ e ∈ h, ¬ SignsLease e) ∧ record.renewTime = store.record.renewTime) ∨
    ∃ h₁ e h₂ now, h = h₁ ++ e :: h₂ ∧ SignsLease e ∧ (∀ d ∈ h₂, ¬ SignsLease d) ∧
      ReadInAttempt (exchangesOf h₁ e.task) now ∧ record.renewTime = some now

theorem keepsTenure_of_step (hr : Run LeaseRequest.serve (start store owner ops) h v)
    (hs : Step LeaseRequest.serve v e w) (hkeeps : ¬ TakesLease e) :
    KeepsTenure e.before e.after.record ∧
      (e.after ≠ e.before → e.before.holder = some (owner e.task)) := by
  by_cases hne : e.after = e.before
  · rw [hne]
    exact ⟨⟨rfl, rfl, .inl rfl, .inl rfl⟩, fun h => absurd rfl h⟩
  · rcases (amends_of_step hr hs hne).takes_or_keeps with ⟨now, hother, -, hrecord⟩ | ⟨hown, hkept⟩
    · have hholder : e.after.holder = some (owner e.task) := congrArg Record.holder hrecord
      exact absurd ⟨by simp [hholder], hholder ▸ hother.symm⟩ hkeeps
    · exact ⟨hkept, fun _ => hown⟩

theorem taken_of_step (hr : Run LeaseRequest.serve (start store owner ops) h v)
    (hs : Step LeaseRequest.serve v e w) (htakes : TakesLease e) :
    ∃ now, ReadInAttempt (exchangesOf h e.task) now ∧
      e.after.record = e.before.takenBy (owner e.task) now := by
  have hne : e.after ≠ e.before := fun hsame => htakes.2 (congrArg LeaseStore.holder hsame)
  rcases (amends_of_step hr hs hne).takes_or_keeps with ⟨now, -, hnow, hrecord⟩ | ⟨-, hkept⟩
  · exact ⟨now, hnow, hrecord⟩
  · rcases hkept.holder with hsame | hnone
    · exact absurd hsame htakes.2
    · exact absurd hnone htakes.1

theorem transitions_of_step (hr : Run LeaseRequest.serve (start store owner ops) h v)
    (hs : Step LeaseRequest.serve v e w) :
    w.state.transitions =
      if HandsLeaseOver e then v.state.transitions + 1 else v.state.transitions := by
  obtain ⟨-, hbefore, hafter⟩ := hs.served
  rw [← hbefore, ← hafter]
  by_cases htakes : TakesLease e
  · obtain ⟨now, -, hrecord⟩ := taken_of_step hr hs htakes
    have htransitions : e.after.transitions = _ := congrArg Record.transitions hrecord
    rw [htransitions]
    cases hlease : e.before.lease with
    | none =>
      have hzero : e.before.transitions = 0 := by
        rw [LeaseStore.transitions, LeaseStore.spec, hlease]
        rfl
      simp [HandsLeaseOver, LeaseStore.takenBy, hlease, hzero]
    | some found => simp [HandsLeaseOver, LeaseStore.takenBy, hlease, htakes]
  · rw [if_neg (fun h => htakes h.2)]
    exact (keepsTenure_of_step hr hs htakes).1.transitions

/-- Until somebody takes the Lease, it stays with who has it, who alone writes it. -/
theorem tenure_of_run {h k : List (LeaseEvent ι)} {u w : LeaseWorld ι}
    (hr : Run LeaseRequest.serve (start store owner ops) h u) (hk : Run LeaseRequest.serve u k w)
    (hkeeps : ∀ d ∈ k, ¬ TakesLease d) :
    (w.state.holder = u.state.holder ∨ w.state.holder = none) ∧
      (w.state.record.duration = u.state.record.duration ∨
        w.state.record.duration = some leaseDurationSecs) ∧
      ∀ d ∈ k, d.after ≠ d.before → u.state.holder = some (owner d.task) := by
  induction hk with
  | refl => exact ⟨.inl rfl, .inl rfl, by simp⟩
  | @step k v w e hk hs ih =>
    obtain ⟨hholder, hduration, hwrites⟩ :=
      ih (fun d hd => hkeeps d (List.mem_append_left _ hd))
    obtain ⟨hkept, hown⟩ := keepsTenure_of_step (hr.append hk) hs (hkeeps e (by simp))
    obtain ⟨-, hbefore, hafter⟩ := hs.served
    rw [hbefore, hafter] at hkept hown
    refine ⟨?_, ?_, fun d hd hne => ?_⟩
    · rcases hkept.holder with hsame | hnone
      · rwa [show w.state.holder = v.state.holder from hsame]
      · exact .inr hnone
    · rcases hkept.duration with hsame | hset
      · rwa [hsame]
      · exact .inr hset
    · rcases List.mem_append.mp hd with hd | hd
      · exact hwrites d hd hne
      · obtain rfl := List.mem_singleton.mp hd
        rw [hbefore, hafter] at hne
        rcases hholder with hsame | hnone
        · exact hsame.symm.trans (hown hne)
        · exact absurd (hnone.symm.trans (hown hne)) (by simp)

theorem signature_of_step (hr : Run LeaseRequest.serve (start store owner ops) h v)
    (hs : Step LeaseRequest.serve v e w) (hsigns : SignsLease e) :
    ∃ now, ReadInAttempt (exchangesOf h e.task) now ∧ e.after.record.renewTime = some now := by
  have hamends := amends_of_step hr hs hsigns.1
  have hholder : e.after.record.holder ≠ none := hsigns.2
  generalize e.after.record = record at hamends hholder
  cases hamends with
  | @opens now _ hnow => exact ⟨now, hnow, rfl⟩
  | @takes now _ _ hnow => exact ⟨now, hnow, rfl⟩
  | @signs now _ _ hnow _ => exact ⟨now, hnow, rfl⟩
  | vacates _ => exact absurd rfl hholder

theorem renewTime_of_step (hr : Run LeaseRequest.serve (start store owner ops) h v)
    (hs : Step LeaseRequest.serve v e w) (hsilent : ¬ SignsLease e) :
    w.state.record.renewTime = v.state.record.renewTime := by
  obtain ⟨-, hbefore, hafter⟩ := hs.served
  rw [← hbefore, ← hafter]
  by_cases hne : e.after = e.before
  · rw [hne]
  · have hamends := amends_of_step hr hs hne
    have hholder : e.after.record.holder = none := by
      by_contra hnamed
      exact hsilent ⟨hne, hnamed⟩
    generalize e.after.record = record at hamends hholder
    cases hamends with
    | opens _ _ => cases hholder
    | takes _ _ _ => cases hholder
    | signs hown _ _ => exact absurd (hown.symm.trans hholder) (by simp)
    | vacates _ => rfl

/-- The counter has moved once for each hand-over, with the wrap-around of its type. -/
theorem transitions_of_run (hr : Run LeaseRequest.serve (start store owner ops) h w) :
    w.state.transitions =
      Int32.ofInt (store.transitions.toInt + h.countP (fun e => HandsLeaseOver e)) := by
  have hcounted := @World.Run.counted _ _ _ _ _ _ _ LeaseRequest.serve (start store owner ops) w h
    _ LeaseStore.transitions HandsLeaseOver _ (· + 1) transitions_of_step hr
  rw [hcounted]
  show _ = Int32.ofInt (store.transitions.toInt + _)
  generalize h.countP (fun e => HandsLeaseOver e) = n
  induction n with
  | zero => simp [start]
  | succ n ih =>
    rw [Function.iterate_succ_apply', ih, Int.natCast_succ, ← Int.add_assoc]
    simp

/-- The Lease is a true record of the leadership. -/
theorem lease_records_leadership (store : LeaseStore) (owner : ι → String) (ops : ι → LeaseOp)
    {h : List (LeaseEvent ι)} {w : LeaseWorld ι}
    (hr : Run LeaseRequest.serve (start store owner ops) h w) :
    RecordsLeadership owner store h w.state.record where
  transitions := transitions_of_run hr
  tenure := by
    have hacquire := @World.Run.last_marked _ _ _ _ _ _ _ LeaseRequest.serve _ w h _
      (fun s => s.record.acquireTime) TakesLease (fun {h v e v'} hr hs hkeeps => by
        obtain ⟨-, hbefore, hafter⟩ := hs.served
        have hkept := (keepsTenure_of_step hr hs hkeeps).1.acquireTime
        rwa [hbefore, hafter] at hkept) hr
    rcases hacquire with ⟨hkeeps, hsame⟩ | ⟨h₁, e, h₂, rfl, htakes, hkeeps, hlast⟩
    · exact .inl ⟨hkeeps, hsame, (tenure_of_run .refl hr hkeeps).2.2⟩
    · obtain ⟨v, v', hr₁, hs, hr₂⟩ := hr.split_cons
      obtain ⟨now, hnow, hrecord⟩ := taken_of_step hr₁ hs htakes
      obtain ⟨hholder, hduration, hwrites⟩ := tenure_of_run (hr₁.step hs) hr₂ hkeeps
      rw [← hs.served.2.2] at hholder hduration hwrites
      have howner : e.after.holder = some (owner e.task) := congrArg Record.holder hrecord
      have hset : e.after.record.duration = some leaseDurationSecs :=
        congrArg Record.duration hrecord
      rw [howner] at hholder hwrites
      refine .inr ⟨h₁, e, h₂, now, rfl, htakes, hkeeps, hnow, ?_, ?_, hholder, ?_⟩
      · exact hlast.trans (congrArg Record.acquireTime hrecord)
      · rwa [hset, or_self] at hduration
      · intro d hd hne
        exact (Option.some.inj (hwrites d hd hne)).symm
  signature := by
    have hrenew := @World.Run.last_marked _ _ _ _ _ _ _ LeaseRequest.serve _ w h _
      (fun s => s.record.renewTime) SignsLease renewTime_of_step hr
    rcases hrenew with ⟨hsilent, hsame⟩ | ⟨h₁, e, h₂, rfl, hsigns, hsilent, hlast⟩
    · exact .inl ⟨hsilent, hsame⟩
    · obtain ⟨v, v', hr₁, hs, -⟩ := hr.split_cons
      obtain ⟨now, hnow, hset⟩ := signature_of_step hr₁ hs hsigns
      exact .inr ⟨h₁, e, h₂, now, rfl, hsigns, hsilent, hnow, hlast.trans hset⟩

/-- A Lease that `operator-0` has not renewed for a while. -/
private def lapsedStore : LeaseStore where
  lease := some
    { resourceVersion := some 1
      spec := some
        { holderIdentity := some "operator-0"
          leaseDurationSeconds := some 15
          acquireTime := some 0
          renewTime := some 4000000
          leaseTransitions := some 6 } }
  revision := 1
  versioned := by
    intro stored h
    obtain rfl := Option.some.inj h
    exact ⟨1, rfl, Nat.le_refl 1⟩

/-- `operator-0` reads the Lease to renew it at last, but `operator-1` takes it first. -/
theorem lease_records_leadership_lapsed :
    let run := World.execute (LeaseRequest.answer 20000000)
      [true, true, true, false, true, false, false]
      (start lapsedStore replicaNames (fun second => if second then .tryAcquire else .renew))
    RecordsLeadership replicaNames lapsedStore run.1 run.2.state.record ∧
      run.2.state.record = ⟨some "operator-1", 7, some 20000000, some 20000000, some 15⟩ :=
  ⟨lease_records_leadership lapsedStore replicaNames
    (fun second => if second then .tryAcquire else .renew)
    (World.run_execute (LeaseRequest.serve_answer 20000000)
      [true, true, true, false, true, false, false] _), rfl⟩

end Runs

end StreamlineOperator.LeaderElection
