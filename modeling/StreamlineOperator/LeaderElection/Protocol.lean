/- source: src/src/leader_election.rs
   digest: Interleaved electors never lose a Lease update and never steal an unexpired Lease. -/

import StreamlineOperator.Foundation.Interleaving
import StreamlineOperator.LeaderElection.Elector

set_option autoImplicit false
set_option relaxedAutoImplicit false

namespace StreamlineOperator.LeaderElection

open Foundation
open Foundation.World (Step Run exchangesOf)
open Kubernetes (KubeError)

/-! What every write of an operation rests on, in terms of its own calls. -/

/-- The last read before now found this, and only the clock was read since. -/
def ReadLast (tr : List LeaseExchange) (found : Except KubeError Lease)
    (since : List LeaseExchange) : Prop :=
  (∃ before, tr = before ++ ⟨.get, found⟩ :: since) ∧ ∀ x ∈ since, x.request = .clock

/-- The Lease was found expired, by the clock if it has a renew time. -/
def ExpiredSince (lease : Lease) (since : List LeaseExchange) : Prop :=
  ∃ now, expiredAt lease.spec now = true ∧
    ∀ t, lease.spec.bind LeaseSpec.renewTime = some t → ⟨.clock, now⟩ ∈ since

/-- What an operation may make of the Lease it has read. -/
def MayReplace (identity : String) (found : Lease) (since : List LeaseExchange) (lease : Lease) :
    LeaseOp → Prop
  | .release => found.holder = some identity ∧ lease.holder = none
  | .renew => found.holder = some identity ∧ lease.holder = some identity
  | _ => lease.holder = some identity ∧ (found.holder = some identity ∨ ExpiredSince found since)

/-- Whether an operation may create a Lease. -/
def MayCreate : LeaseOp → Prop
  | .tryAcquire | .acquire _ => True
  | _ => False

/-- Every write is of a version just read, and only a successful write lets the
operation return `true`. -/
def Justified (identity : String) (op : LeaseOp) (tr : List LeaseExchange) (r : LeaseRequest)
    (next : r.Response → LeaseProgram Bool) : Prop :=
  match r with
  | .get => ∀ x, next x ≠ .ok true
  | .clock => ∀ x, next x ≠ .ok true
  | .create lease =>
    (MayCreate op ∧ lease.holder = some identity ∧
      ∃ e since, ReadLast tr (.error e) since ∧ e.code = some 404) ∧
    ∀ x, next x = .ok true → x = .ok ()
  | .replace lease =>
    (∃ found since, ReadLast tr (.ok found) since ∧
      lease.resourceVersion = found.resourceVersion ∧
      MayReplace identity found since lease op) ∧
    ∀ x, next x = .ok true → x = .ok () ∧ lease.holder = some identity

section Programs

variable {identity : String} {op : LeaseOp} {k : Except KubeError Bool → LeaseProgram Bool}

/-- What follows an attempt: it is justified itself, and goes on to return
`true` at once only after `true`. -/
structure Continues (identity : String) (op : LeaseOp)
    (k : Except KubeError Bool → LeaseProgram Bool) : Prop where
  everywhere : ∀ res tr, (k res).Everywhere (Justified identity op) tr
  onTrue : ∀ res, k res = .ok true → res = .ok true

theorem orConflict_true (hk : Continues identity op k) {x : Except KubeError Unit}
    (h : ((LeaderElector.orConflict x).attempt).bind k = .ok true) : x = .ok () := by
  cases x with
  | ok u => rfl
  | error e =>
    unfold LeaderElector.orConflict at h
    dsimp only at h
    split at h
    · exact nomatch hk.onTrue _ h
    · exact nomatch hk.onTrue _ h

theorem orConflict_everywhere (hk : Continues identity op k) (x : Except KubeError Unit)
    (tr : List LeaseExchange) :
    (((LeaderElector.orConflict x).attempt).bind k).Everywhere (Justified identity op) tr := by
  unfold LeaderElector.orConflict
  split
  · exact hk.everywhere _ tr
  · split
    · exact hk.everywhere _ tr
    · exact hk.everywhere _ tr

theorem replace_everywhere (hk : Continues identity op k) {found lease : Lease}
    {since tr : List LeaseExchange} (hread : ReadLast tr (.ok found) since)
    (hversion : lease.resourceVersion = found.resourceVersion)
    (hmay : MayReplace identity found since lease op) (hholder : lease.holder = some identity) :
    ((Program.call (.replace lease) LeaderElector.orConflict).attempt.bind k).Everywhere
      (Justified identity op) tr := by
  refine ⟨⟨⟨found, since, hread, hversion, hmay⟩, ?_⟩, ?_⟩
  · intro x hx
    exact ⟨orConflict_true hk hx, hholder⟩
  · intro x
    exact orConflict_everywhere hk x _

theorem create_everywhere (hk : Continues identity op k) (hop : MayCreate op) {e : KubeError}
    {now : MicroTime} {since tr : List LeaseExchange} (hread : ReadLast tr (.error e) since)
    (he : e.code = some 404) :
    ((LeaderElector.createLease identity now).attempt.bind k).Everywhere
      (Justified identity op) tr := by
  refine ⟨⟨⟨hop, rfl, e, since, hread, he⟩, ?_⟩, ?_⟩
  · intro x hx
    exact orConflict_true hk hx
  · intro x
    exact orConflict_everywhere hk x _

theorem readLast_get (tr : List LeaseExchange) (found : Except KubeError Lease) :
    ReadLast (tr ++ [⟨.get, found⟩]) found [] :=
  ⟨⟨tr, rfl⟩, by simp⟩

theorem readLast_clock {tr since : List LeaseExchange} {found : Except KubeError Lease}
    (h : ReadLast tr found since) (now : MicroTime) :
    ReadLast (tr ++ [⟨.clock, now⟩]) found (since ++ [⟨.clock, now⟩]) := by
  obtain ⟨⟨before, rfl⟩, hclock⟩ := h
  refine ⟨⟨before, by simp⟩, fun x hx => ?_⟩
  rcases List.mem_append.mp hx with hx | hx
  · exact hclock x hx
  · rw [List.mem_singleton.mp hx]

theorem ne_true_of_continues (hk : Continues identity op k) {res : Except KubeError Bool}
    (hres : res ≠ .ok true) : k res ≠ .ok true :=
  fun h => hres (hk.onTrue res h)

variable {tr since : List LeaseExchange}

theorem attemptTakeover_everywhere (hk : Continues identity op k) (hop : MayCreate op)
    {existing : Lease} {now : MicroTime} (hread : ReadLast tr (.ok existing) since) :
    ((LeaderElector.attemptTakeover identity existing now).attempt.bind k).Everywhere
        (Justified identity op) tr ∧
      (LeaderElector.attemptTakeover identity existing now).attempt.bind k ≠ .ok true := by
  have hmay (since : List LeaseExchange) (h : ExpiredSince existing since) :
      MayReplace identity existing since
        (LeaderElector.updatedLease identity existing now true) op := by
    cases op with
    | tryAcquire => exact ⟨rfl, .inr h⟩
    | acquire attempts => exact ⟨rfl, .inr h⟩
    | renew => cases hop
    | release => cases hop
  unfold LeaderElector.attemptTakeover LeaderElector.isExpired
  cases hrenew : existing.spec.bind LeaseSpec.renewTime with
  | none =>
    refine ⟨replace_everywhere hk hread rfl (hmay since ⟨0, ?_, ?_⟩) rfl, fun h => nomatch h⟩
    · simp [expiredAt, hrenew]
    · simp [hrenew]
  | some t =>
    refine ⟨⟨fun time => ?_, fun time => ?_⟩, fun h => nomatch h⟩ <;>
      cases hexpired : expiredAt existing.spec time <;>
      simp only [Program.pure_eq, Program.ok_bind, hexpired, Bool.false_eq_true, if_true, if_false]
    · exact ne_true_of_continues hk (by simp)
    · exact fun h => nomatch h
    · exact hk.everywhere _ _
    · refine replace_everywhere hk (readLast_clock hread time) rfl (hmay _ ⟨time, hexpired, ?_⟩) rfl
      intro _ _
      simp

theorem tryAcquireFound_everywhere (hk : Continues identity op k) (hop : MayCreate op)
    (found : Except KubeError Lease) (now : MicroTime) (hread : ReadLast tr found []) :
    ((LeaderElector.tryAcquireFound identity now found).attempt.bind k).Everywhere
        (Justified identity op) tr ∧
      (LeaderElector.tryAcquireFound identity now found).attempt.bind k ≠ .ok true := by
  unfold LeaderElector.tryAcquireFound
  cases found with
  | ok existing =>
    by_cases hholder : existing.holder = some identity
    · have hmay : MayReplace identity existing []
          (LeaderElector.updatedLease identity existing now false) op := by
        cases op with
        | tryAcquire => exact ⟨rfl, .inl hholder⟩
        | acquire attempts => exact ⟨rfl, .inl hholder⟩
        | renew => cases hop
        | release => cases hop
      simp only [if_pos hholder]
      exact ⟨replace_everywhere hk hread rfl hmay rfl, fun h => nomatch h⟩
    · simp only [if_neg hholder]
      exact attemptTakeover_everywhere hk hop hread
  | error e =>
    by_cases he : e.code = some 404
    · simp only [if_pos he]
      exact ⟨create_everywhere hk hop hread he, fun h => nomatch h⟩
    · simp only [if_neg he]
      exact ⟨hk.everywhere _ _, ne_true_of_continues hk (by simp)⟩

theorem tryAcquire_everywhere (hk : Continues identity op k) (hop : MayCreate op)
    (tr : List LeaseExchange) :
    ((LeaderElector.tryAcquire identity).attempt.bind k).Everywhere (Justified identity op) tr := by
  refine ⟨fun _ h => (nomatch h), fun now => ?_⟩
  have hfound (found : Except KubeError Lease) := tryAcquireFound_everywhere hk hop found now
    (readLast_get (tr ++ [⟨.clock, now⟩]) found)
  exact ⟨fun found => (hfound found).2, fun found => (hfound found).1⟩

theorem renewFound_everywhere (hk : Continues identity .renew k) (found : Except KubeError Lease)
    (hread : ReadLast tr found []) :
    ((LeaderElector.renewFound identity found).attempt.bind k).Everywhere
        (Justified identity .renew) tr ∧
      (LeaderElector.renewFound identity found).attempt.bind k ≠ .ok true := by
  unfold LeaderElector.renewFound
  cases found with
  | error e => exact ⟨hk.everywhere _ _, ne_true_of_continues hk (by simp)⟩
  | ok lease =>
    by_cases hholder : lease.holder = some identity
    · have hrenewed (now : MicroTime) :
          (LeaderElector.renewedLease lease now).holder = some identity := by
        obtain ⟨spec, hspec, hidentity⟩ := Option.bind_eq_some_iff.mp hholder
        simp [LeaderElector.renewedLease, Lease.holder, hspec, hidentity]
      simp only [ne_eq, hholder, not_true_eq_false, if_false]
      refine ⟨⟨(fun _ h => nomatch h), fun now => ?_⟩, (fun h => nomatch h)⟩
      exact replace_everywhere hk (readLast_clock hread now) rfl ⟨hholder, hrenewed now⟩
        (hrenewed now)
    · simp only [ne_eq, hholder, not_false_eq_true, if_true]
      exact ⟨hk.everywhere _ _, ne_true_of_continues hk (by simp)⟩

theorem renew_everywhere (hk : Continues identity .renew k) (tr : List LeaseExchange) :
    ((LeaderElector.renew identity).attempt.bind k).Everywhere (Justified identity .renew) tr := by
  have hfound (found : Except KubeError Lease) :=
    renewFound_everywhere hk found (readLast_get tr found)
  exact ⟨fun found => (hfound found).2, fun found => (hfound found).1⟩

theorem releaseFound_everywhere (found : Except KubeError Lease)
    (hread : ReadLast tr found []) :
    ((LeaderElector.releaseFound identity found).bind fun _ => .ok false).Everywhere
        (Justified identity .release) tr ∧
      ((LeaderElector.releaseFound identity found).bind fun _ => .ok false) ≠ .ok true := by
  unfold LeaderElector.releaseFound
  cases found with
  | error e => exact ⟨trivial, by simp⟩
  | ok lease =>
    by_cases hholder : lease.holder = some identity
    · simp only [ne_eq, hholder, not_true_eq_false, if_false]
      have hreleased : (LeaderElector.releasedLease lease).holder = none := by
        cases hspec : lease.spec <;> simp [LeaderElector.releasedLease, Lease.holder, hspec]
      refine ⟨⟨⟨⟨lease, [], hread, rfl, hholder, hreleased⟩, ?_⟩, fun _ => trivial⟩,
        fun h => nomatch h⟩
      intro _ h
      simp at h
    · simp only [ne_eq, hholder, not_false_eq_true, if_true]
      exact ⟨trivial, by simp⟩

theorem release_everywhere (tr : List LeaseExchange) :
    (LeaseOp.release.program identity).Everywhere (Justified identity .release) tr := by
  have hfound (found : Except KubeError Lease) :=
    @releaseFound_everywhere identity _ found (readLast_get tr found)
  exact ⟨fun found => (hfound found).2, fun found => (hfound found).1⟩

theorem continues_ofExcept : Continues identity op Program.ofExcept where
  everywhere res tr := by
    cases res with
    | ok b => trivial
    | error e => trivial
  onTrue res h := by
    cases res with
    | ok b => exact congrArg Except.ok (Program.ok.inj h)
    | error e => cases h

theorem acquire_everywhere (hop : MayCreate op) (attempts : Nat) (tr : List LeaseExchange) :
    (LeaderElector.acquire identity attempts).Everywhere (Justified identity op) tr := by
  induction attempts generalizing tr with
  | zero => trivial
  | succ attempts ih =>
    -- Without the Lease, `acquire` either goes on or has run out of attempts.
    have hretries : LeaderElector.acquire identity attempts ≠ .ok true := by
      cases attempts <;> exact fun h => nomatch h
    refine tryAcquire_everywhere ⟨?_, ?_⟩ hop tr
    · rintro (e | ⟨_ | _⟩) tr
      · exact ih tr
      · exact ih tr
      · trivial
    · rintro (e | ⟨_ | _⟩) h
      · exact absurd h hretries
      · exact absurd h hretries
      · rfl

/-- Every write of every operation is justified. -/
theorem program_everywhere (op : LeaseOp) (identity : String) :
    (op.program identity).Everywhere (Justified identity op) [] := by
  cases op with
  | tryAcquire =>
    have h := @tryAcquire_everywhere identity .tryAcquire _ continues_ofExcept trivial []
    rwa [Program.attempt_bind_ofExcept] at h
  | acquire attempts => exact @acquire_everywhere identity (.acquire attempts) trivial attempts []
  | renew =>
    have h := @renew_everywhere identity _ continues_ofExcept []
    rwa [Program.attempt_bind_ofExcept] at h
  | release => exact release_everywhere []

end Programs

/-! Runs. -/

section Runs

variable {ι : Type} [DecidableEq ι]

abbrev LeaseWorld (ι : Type) := World LeaseRequest LeaseRequest.Response KubeError Bool ι LeaseStore

abbrev LeaseEvent (ι : Type) := Event LeaseRequest LeaseRequest.Response ι LeaseStore

/-- A store, with the operations of any number of electors still to be made. -/
def start (store : LeaseStore) (owner : ι → String) (ops : ι → LeaseOp) : LeaseWorld ι :=
  ⟨store, fun i => (ops i).program (owner i)⟩

/-- The event is its task's own replace of the version it last read, which it
held itself or found expired. -/
def ReplacesOwnRead (identity : String) (past : List (LeaseEvent ι)) (e : LeaseEvent ι) : Prop :=
  ∃ lease found g before since, e.request = .replace lease ∧ e.before.lease = some found ∧
    lease.resourceVersion = found.resourceVersion ∧ past = before ++ g :: since ∧
    g.task = e.task ∧ g.exchange = ⟨.get, .ok found⟩ ∧
    (found.holder = some identity ∨ ∃ now, expiredAt found.spec now = true ∧
      ∀ t, found.spec.bind LeaseSpec.renewTime = some t →
        ∃ d ∈ since, d.task = e.task ∧ d.exchange = ⟨.clock, now⟩)

/-- The event is a write its task was told it succeeded in. -/
def SucceedsInWriting (e : LeaseEvent ι) : Prop :=
  (∃ lease, e.exchange = ⟨.create lease, .ok ()⟩) ∨ ∃ lease, e.exchange = ⟨.replace lease, .ok ()⟩

/-- What the history of a run has to show. -/
structure SoundHistory (owner : ι → String) (ops : ι → LeaseOp) (h : List (LeaseEvent ι))
    (w : LeaseWorld ι) : Prop where
  taken : ∀ h₁ e h₂, h = h₁ ++ e :: h₂ → e.after ≠ e.before →
    ∀ identity, e.after.holder = some identity → owner e.task = identity ∧
      ((∃ lease, e.request = .create lease ∧ e.before.lease = none) ∨
        ReplacesOwnRead identity h₁ e)
  kept : ∀ i, w.tasks i = .ok true → ∃ h₁ g since e h₂, h = h₁ ++ g :: (since ++ e :: h₂) ∧
    g.task = i ∧ g.request = .get ∧ e.task = i ∧ SucceedsInWriting e ∧
    (∀ d ∈ since, d.after = d.before) ∧ e.after.holder = some (owner i)
  released : ∀ e ∈ h, ops e.task = .release → e.after ≠ e.before →
    e.before.holder = some (owner e.task)

variable {owner : ι → String} {ops : ι → LeaseOp} {store : LeaseStore}
variable {h h₁ h₂ : List (LeaseEvent ι)} {u v w : LeaseWorld ι} {e : LeaseEvent ι}

theorem follows_of_run (hr : Run LeaseRequest.serve u h w) :
    LeaseStore.Follows u.state w.state :=
  hr.state_rel LeaseStore.Follows.refl LeaseStore.Follows.trans LeaseRequest.follows_of_serve

theorem unchanged_of_eq (hr : Run LeaseRequest.serve u h w) (hsame : w.state = u.state) :
    ∀ d ∈ h, d.after = d.before := by
  intro d hd
  obtain ⟨k₁, k₂, rfl⟩ := List.append_of_mem hd
  obtain ⟨a, b, hr₁, hs, hr₂⟩ := hr.split_cons
  obtain ⟨hserve, hbefore, hafter⟩ := hs.served
  have hback : LeaseStore.Follows d.after d.before := by
    rw [hafter, hbefore]
    exact (hsame ▸ follows_of_run hr₂).trans (follows_of_run hr₁)
  exact (LeaseRequest.follows_of_serve hserve).antisymm hback

/-- A read whose version is still stored when it is replaced: nothing was stored
in between. -/
theorem unchanged_since_read (hr : Run LeaseRequest.serve u (h₁ ++ e :: h₂) w) {found : Lease}
    (hread : e.exchange = ⟨.get, .ok found⟩) (hstored : w.state.Matches found.resourceVersion) :
    w.state.lease = some found ∧ ∀ d ∈ h₂, d.after = d.before := by
  obtain ⟨a, b, -, hs, hr₂⟩ := hr.split_cons
  obtain ⟨hserve, -, hafter⟩ := hs.served
  obtain ⟨task, request, response, before, after⟩ := e
  obtain ⟨rfl, hresponse⟩ := Exchange.mk.inj hread
  obtain rfl := eq_of_heq hresponse
  obtain ⟨hsame, hlease⟩ := hserve
  have hb : b.state.lease = some found := by
    rw [← hafter, hsame]
    exact hlease
  have heq : w.state = b.state := (follows_of_run hr₂).eq_of_version hb hstored
  exact ⟨heq ▸ hb, unchanged_of_eq hr₂ heq⟩

@[simp] theorem holder_put (store : LeaseStore) (lease : Lease) :
    (store.put lease).holder = lease.holder := rfl

/-- What a step can store: a new Lease where there is none, or a replacement of
the very Lease its task last read. -/
theorem stored_cases (hr : Run LeaseRequest.serve (start store owner ops) h v)
    (hs : Step LeaseRequest.serve v e w) (hne : e.after ≠ e.before) :
    (∃ lease, e.request = .create lease ∧ e.before.lease = none ∧
      e.after = e.before.put lease ∧ lease.holder = some (owner e.task) ∧
      MayCreate (ops e.task)) ∨
    ∃ lease found since, e.request = .replace lease ∧ e.before.lease = some found ∧
      e.after = e.before.put lease ∧ lease.resourceVersion = found.resourceVersion ∧
      ReadLast (exchangesOf h e.task) (.ok found) since ∧
      MayReplace (owner e.task) found since lease (ops e.task) := by
  obtain ⟨next, hjustified, -⟩ :=
    hr.everywhere_step hs (program_everywhere (ops e.task) (owner e.task))
  obtain ⟨hserve, hbefore, -⟩ := hs.served
  obtain ⟨task, request, response, before, after⟩ := e
  subst hbefore
  cases request with
  | get => cases response <;> exact absurd hserve.1 hne
  | clock => exact absurd hserve hne
  | create lease =>
    rcases hserve with ⟨hnone, hput⟩ | ⟨hsame, -⟩
    · obtain ⟨⟨hmay, hholder, -⟩, -⟩ := hjustified
      exact .inl ⟨lease, rfl, hnone, hput, hholder, hmay⟩
    · exact absurd hsame hne
  | replace lease =>
    rcases hserve with ⟨hmatches, hput⟩ | ⟨hsame, -⟩
    · obtain ⟨⟨found, since, hread, hversion, hmay⟩, -⟩ := hjustified
      obtain ⟨before, htrace⟩ := hread.1
      obtain ⟨h₁, g, h₂, rfl, -, hg, -, -⟩ := World.exists_event_of_exchangesOf htrace
      obtain ⟨hstored, -⟩ := unchanged_since_read hr hg (hversion ▸ hmatches)
      exact .inr ⟨lease, found, since, rfl, hstored, hput, hversion, hread, hmay⟩
    · exact absurd hsame hne

theorem holder_of_lease {s : LeaseStore} {lease : Lease} (h : s.lease = some lease) :
    s.holder = lease.holder := by
  rw [LeaseStore.holder, h]
  rfl

theorem replacesOwnRead {identity : String} {found lease : Lease} {since : List LeaseExchange}
    (hrequest : e.request = .replace lease) (hstored : e.before.lease = some found)
    (hversion : lease.resourceVersion = found.resourceVersion)
    (hread : ReadLast (exchangesOf h e.task) (.ok found) since)
    (hmay : found.holder = some identity ∨ ExpiredSince found since) :
    ReplacesOwnRead identity h e := by
  obtain ⟨before, htrace⟩ := hread.1
  obtain ⟨h₁, g, h₂, rfl, htask, hg, -, hsince⟩ := World.exists_event_of_exchangesOf htrace
  refine ⟨lease, found, g, h₁, h₂, hrequest, hstored, hversion, rfl, htask, hg, ?_⟩
  rcases hmay with hholder | ⟨now, hexpired, hclock⟩
  · exact .inl hholder
  · refine .inr ⟨now, hexpired, fun t ht => ?_⟩
    exact World.mem_of_mem_exchangesOf (hsince ▸ hclock t ht)

theorem taken_by_owner (hr : Run LeaseRequest.serve (start store owner ops) h v)
    (hs : Step LeaseRequest.serve v e w) (hne : e.after ≠ e.before) {identity : String}
    (hholder : e.after.holder = some identity) :
    owner e.task = identity ∧
      ((∃ lease, e.request = .create lease ∧ e.before.lease = none) ∨
        ReplacesOwnRead identity h e) := by
  rcases stored_cases hr hs hne with ⟨lease, hrequest, hnone, hput, hown, -⟩ |
    ⟨lease, found, since, hrequest, hstored, hput, hversion, hread, hmay⟩
  · rw [hput, holder_put, hown] at hholder
    exact ⟨Option.some.inj hholder, .inl ⟨lease, hrequest, hnone⟩⟩
  · rw [hput, holder_put] at hholder
    have hcases : lease.holder = some (owner e.task) ∧
        (found.holder = some (owner e.task) ∨ ExpiredSince found since) := by
      cases hop : ops e.task <;> rw [hop] at hmay
      · exact hmay
      · exact hmay
      · exact ⟨hmay.2, .inl hmay.1⟩
      · rw [hmay.2] at hholder
        cases hholder
    rw [hcases.1] at hholder
    obtain rfl := Option.some.inj hholder
    exact ⟨rfl, .inr (replacesOwnRead hrequest hstored hversion hread hcases.2)⟩

theorem released_by_holder (hr : Run LeaseRequest.serve (start store owner ops) h v)
    (hs : Step LeaseRequest.serve v e w) (hop : ops e.task = .release)
    (hne : e.after ≠ e.before) : e.before.holder = some (owner e.task) := by
  rcases stored_cases hr hs hne with ⟨_, _, _, _, _, hmay⟩ |
    ⟨_, found, _, _, hstored, _, _, _, hmay⟩ <;> rw [hop] at hmay
  · exact hmay.elim
  · rw [holder_of_lease hstored]
    exact hmay.1

theorem eq_of_returned {op : LeaseOp} {identity : String}
    (hok : (op.program identity).isOk = true) : op.program identity = .ok false := by
  cases op with
  | acquire attempts =>
    cases attempts with
    | zero => rfl
    | succ attempts => cases hok
  | _ => cases hok

theorem last_of_true (hr : Run LeaseRequest.serve (start store owner ops) h w) {i : ι}
    (htrue : w.tasks i = .ok true) :
    ∃ tr r x next, exchangesOf h i = tr ++ [⟨r, x⟩] ∧ Justified (owner i) (ops i) tr r next ∧
      next x = .ok true := by
  have hsteps := hr.project i
  rw [htrue] at hsteps
  have hpending : ((ops i).program (owner i)).isOk = false := by
    refine Bool.eq_false_iff.mpr (fun hok => ?_)
    have hfalse := eq_of_returned hok
    simp only [start, hfalse, Program.steps_ok] at hsteps
    exact Bool.false_ne_true (Program.ok.inj hsteps.2).symm
  obtain ⟨tr, r, x, next, htrace, htail, hnext⟩ := hsteps.last hpending
  have hall := (program_everywhere (ops i) (owner i)).steps htail
  exact ⟨tr, r, x, next, htrace, hall.1, hnext⟩

theorem unchanged_since_absent (hr : Run LeaseRequest.serve u (h₁ ++ e :: h₂) w)
    (hnone : w.state.lease = none) : ∀ d ∈ h₂, d.after = d.before := by
  obtain ⟨a, b, -, -, hr₂⟩ := hr.split_cons
  exact unchanged_of_eq hr₂ ((follows_of_run hr₂).eq_of_empty hnone)

theorem kept_since_read (hr : Run LeaseRequest.serve (start store owner ops) h w) {i : ι}
    (htrue : w.tasks i = .ok true) :
    ∃ h₁ g since e h₂, h = h₁ ++ g :: (since ++ e :: h₂) ∧ g.task = i ∧ g.request = .get ∧
      e.task = i ∧ SucceedsInWriting e ∧ (∀ d ∈ since, d.after = d.before) ∧
      e.after.holder = some (owner i) := by
  obtain ⟨tr, r, x, next, htrace, hjustified, hnext⟩ := last_of_true hr htrue
  obtain ⟨k₁, e, k₂, rfl, htask, hexchange, hpast, -⟩ := World.exists_event_of_exchangesOf htrace
  obtain ⟨v, v', hr₁, hs, -⟩ := hr.split_cons
  obtain ⟨hserve, hbefore, -⟩ := hs.served
  obtain ⟨task, request, response, before, after⟩ := e
  obtain ⟨rfl, hresponse⟩ := Exchange.mk.inj hexchange
  obtain rfl := eq_of_heq hresponse
  subst hbefore
  have hreads {found : Except KubeError Lease} {since : List LeaseExchange}
      (hread : ReadLast tr found since) : ∃ h₁ g h₂, k₁ = h₁ ++ g :: h₂ ∧ g.task = i ∧
        g.exchange = ⟨.get, found⟩ := by
    obtain ⟨pre, hpre⟩ := hread.1
    obtain ⟨h₁, g, h₂, hk, hg, hget, -, -⟩ :=
      World.exists_event_of_exchangesOf (hpast.trans hpre)
    exact ⟨h₁, g, h₂, hk, hg, hget⟩
  cases request with
  | get => exact absurd hnext (hjustified _)
  | clock => exact absurd hnext (hjustified _)
  | create lease =>
    obtain ⟨⟨-, hholder, e, since, hread, -⟩, hok⟩ := hjustified
    obtain rfl := hok _ hnext
    obtain ⟨h₁, g, h₂, rfl, hg, hget⟩ := hreads hread
    rcases hserve with ⟨hnone, hput⟩ | ⟨-, hfail⟩
    · refine ⟨h₁, g, h₂, _, k₂, by simp, hg, congrArg Exchange.request hget, htask,
        .inl ⟨lease, rfl⟩, unchanged_since_absent hr₁ hnone, ?_⟩
      rw [hput, holder_put, hholder]
    · cases hfail
  | replace lease =>
    obtain ⟨⟨found, since, hread, hversion, -⟩, hok⟩ := hjustified
    obtain ⟨rfl, hholder⟩ := hok _ hnext
    obtain ⟨h₁, g, h₂, rfl, hg, hget⟩ := hreads hread
    rcases hserve with ⟨hmatches, hput⟩ | ⟨-, hfail⟩
    · refine ⟨h₁, g, h₂, _, k₂, by simp, hg, congrArg Exchange.request hget, htask,
        .inr ⟨lease, rfl⟩, (unchanged_since_read hr₁ hget (hversion ▸ hmatches)).2, ?_⟩
      rw [hput, holder_put, hholder]
    · cases hfail

/-- Lease updates are never lost or stolen. -/
theorem lease_updates_sound (store : LeaseStore) (owner : ι → String) (ops : ι → LeaseOp)
    {h : List (LeaseEvent ι)} {w : LeaseWorld ι}
    (hr : Run LeaseRequest.serve (start store owner ops) h w) : SoundHistory owner ops h w where
  taken := by
    rintro h₁ e h₂ rfl hne identity hholder
    obtain ⟨v, v', hr₁, hs, -⟩ := hr.split_cons
    exact taken_by_owner hr₁ hs hne hholder
  kept i htrue := kept_since_read hr htrue
  released e he hop hne := by
    obtain ⟨h₁, v, v', hr₁, hs, -, -⟩ := hr.passes_of_mem he
    exact released_by_holder hr₁ hs hop hne

/-- Two replicas. -/
def replicaNames (second : Bool) : String := if second then "operator-1" else "operator-0"

/-- Both replicas find no Lease, and both try to create it. -/
theorem lease_updates_sound_race :
    let run := World.execute (LeaseRequest.answer 0) [false, true, false, true, false, true]
      (start .empty replicaNames (fun _ => .tryAcquire))
    SoundHistory replicaNames (fun _ => .tryAcquire) run.1 run.2 :=
  lease_updates_sound .empty replicaNames (fun _ => .tryAcquire)
    (World.run_execute (LeaseRequest.serve_answer 0) [false, true, false, true, false, true] _)

end Runs

end StreamlineOperator.LeaderElection
