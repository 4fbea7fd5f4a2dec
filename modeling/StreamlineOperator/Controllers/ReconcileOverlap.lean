/- source: src/src/controllers/cluster.rs (reconcile), run by several replicas at once
   digest: Reconciles of one cluster, at whatever version and overlapping in any order. -/

import StreamlineOperator.Controllers.ReconcileIsolation
import StreamlineOperator.Foundation.Histories

set_option autoImplicit false
set_option relaxedAutoImplicit false

namespace StreamlineOperator.Controllers.ClusterController

open Foundation
open Kubernetes
open Foundation.World (Run exchangesOf)
open Program (Always Leaves Sends)
open Conditions (clusterFinalizer)
open Crd (StreamlineCluster)

/-! What a reconcile writes, and what it has written when it returns. -/

section Writes

variable {cluster : StreamlineCluster}

/-- A write of a child of the cluster as it is rendered, after the exchanges of `trace`: a
create, or an apply once the child has been found. -/
inductive WritesChild (cluster : StreamlineCluster) (trace : List ApiExchange) : Request → Prop
  | create (child : Child) : WritesChild cluster trace
      (.create child.kind cluster.namespaceOrDefault (child.object cluster))
  | apply (child : Child) {found : child.kind.Object} :
      ⟨.get child.kind cluster.namespaceOrDefault (child.name cluster), .ok found⟩ ∈ trace →
      WritesChild cluster trace
        (.apply child.kind cluster.namespaceOrDefault (child.name cluster) (child.object cluster))

/-- The request leaves the stored objects alone, or writes a child as it is rendered. -/
def Rendering (cluster : StreamlineCluster) (trace : List ApiExchange) (request : Request) :
    Prop :=
  request.writesObject = false ∨ WritesChild cluster trace request

theorem sends_of_reads {α : Type} {p : Operation α} {trace : List ApiExchange}
    (h : Always (fun e => e.request.writesObject = false) p) :
    Sends (Rendering cluster) trace p :=
  (Program.everywhere_of_always Request.nonempty_response h trace).imp fun _ _ _ => .inl

theorem sends_write (child : Child) (trace : List ApiExchange) :
    Sends (Rendering cluster) trace (child.write cluster) := by
  have hanswer : ∀ (r : Except KubeError Unit) (trace : List ApiExchange),
      Sends (Rendering cluster) trace (orKubeApi r) := by
    intro r trace
    cases r with
    | ok u => exact Program.sends_ok u
    | error e => exact Program.sends_err _
  refine Program.sends_call (.inl rfl) fun found => ?_
  cases found with
  | ok object =>
    exact Program.sends_call (.inr (.apply child (List.mem_concat_self))) fun r => hanswer r _
  | error e => exact Program.sends_call (.inr (.create child)) fun r => hanswer r _

/-- A reconcile applies a child only after it has found it. -/
theorem sends_reconcile (cluster : StreamlineCluster) :
    Sends (Rendering cluster) [] (reconcile cluster) := by
  cases hlive : cluster.metadata.deletionTimestamp with
  | some time =>
    simp only [reconcile, hlive, Option.isSome_some, if_true]
    refine Program.sends_bind (sends_of_reads reads_sendMetric) fun _ _ => sends_of_reads ?_
    exact always_handleDeletion (fun _ => rfl) (fun _ _ => rfl) (fun _ => rfl)
  | none =>
    rw [reconcile_live_eq hlive]
    refine Program.sends_bind (sends_of_reads reads_sendMetric) fun _ _ => ?_
    refine Program.sends_bind
      (sends_of_reads (always_ensureFinalizer fun _ => rfl)) fun _ _ => ?_
    refine Program.sends_bind (sends_of_reads reads_deleteHpa) fun _ _ => ?_
    cases hvalid : cluster.spec.validate with
    | error errors =>
      have hrejected : ¬ cluster.spec.validate = .ok () := by simp [hvalid]
      refine sends_of_reads (afterCleanup_always ?_ ?_ ?_ ?_ fun hok => absurd hok hrejected)
      · exact fun _ => rfl
      · exact fun _ => rfl
      · exact fun _ => rfl
      · exact fun _ _ => rfl
    | ok u =>
      have hstages := renderSpec_eq cluster cluster.namespaceOrDefault
      rw [afterCleanup, hvalid]
      rw [hvalid] at hstages
      simp only [hstages]
      refine Program.sends_bind (sends_write .configMap _) fun _ _ => ?_
      refine Program.sends_bind (sends_write .headlessService _) fun _ _ => ?_
      refine Program.sends_bind (sends_write .clientService _) fun _ _ => ?_
      refine Program.sends_bind (sends_write .statefulSet _) fun _ _ => ?_
      refine Program.sends_bind (sends_of_reads reads_updateStatus) fun _ _ => ?_
      refine Program.sends_bind (sends_of_reads reads_sendMetric) fun _ _ => ?_
      exact Program.sends_ok _

/-- A successful write of the child. -/
inductive HasStored (cluster : StreamlineCluster) (child : Child) : ApiExchange → Prop
  | create : HasStored cluster child
      ⟨.create child.kind cluster.namespaceOrDefault (child.object cluster), .ok ()⟩
  | apply : HasStored cluster child
      ⟨.apply child.kind cluster.namespaceOrDefault (child.name cluster) (child.object cluster),
        .ok ()⟩

theorem leaves_write (child : Child) :
    Leaves (HasStored cluster child) (child.write cluster) :=
  leaves_getThenWrite .apply .create

theorem leaves_reconcile (hvalid : cluster.spec.validate = .ok ())
    (hlive : cluster.metadata.deletionTimestamp = none) (child : Child) :
    Leaves (HasStored cluster child) (reconcile cluster) := by
  have hstages := renderSpec_eq cluster cluster.namespaceOrDefault
  have hwrites : Leaves (HasStored cluster child)
      (afterCleanup cluster cluster.namespaceOrDefault) := by
    rw [afterCleanup, hvalid]
    rw [hvalid] at hstages
    simp only [hstages]
    cases child with
    | configMap => exact Program.leaves_bind_left (leaves_write .configMap)
    | headlessService =>
      apply Program.leaves_bind_right
      intro _
      exact Program.leaves_bind_left (leaves_write .headlessService)
    | clientService =>
      apply Program.leaves_bind_right
      intro _
      apply Program.leaves_bind_right
      intro _
      exact Program.leaves_bind_left (leaves_write .clientService)
    | statefulSet =>
      apply Program.leaves_bind_right
      intro _
      apply Program.leaves_bind_right
      intro _
      apply Program.leaves_bind_right
      intro _
      exact Program.leaves_bind_left (leaves_write .statefulSet)
  rw [reconcile_live_eq hlive]
  apply Program.leaves_bind_right
  intro _
  apply Program.leaves_bind_right
  intro _
  apply Program.leaves_bind_right
  intro _
  exact hwrites

end Writes

/-! Versions of one cluster. -/

section Versions

variable {ι : Type} {requester : String} {versions : ι → StreamlineCluster}

/-- The versions are of one cluster, by namespace and name. -/
structure SameCluster (versions : ι → StreamlineCluster) : Prop where
  name : ∀ i j, (versions i).nameAny = (versions j).nameAny
  namespaceName : ∀ i j, (versions i).namespaceOrDefault = (versions j).namespaceOrDefault

theorem SameCluster.stored_eq (h : SameCluster versions) (i j : ι) (child : Child)
    (store : ObjectStore) :
    child.stored (versions i) store = child.stored (versions j) store := by
  rw [Child.stored, Child.stored, h.namespaceName i j, Child.name_eq (h.name i j)]

/-- The server has created the child as this event asked it to, whatever became of the
answer. -/
structure Creates (requester : String) (versions : ι → StreamlineCluster) (child : Child)
    (e : Event Request Request.Response ι ObjectStore) : Prop where
  request : e.request = .create child.kind (versions e.task).namespaceOrDefault
    (child.object (versions e.task))
  absent : child.stored (versions e.task) e.before = none
  written : child.stored (versions e.task) e.after =
    some (Owned.create requester (child.fields (versions e.task)))

/-- The server has applied the child as this event asked it to, whatever became of the
answer. -/
structure Applies (versions : ι → StreamlineCluster) (child : Child)
    (e : Event Request Request.Response ι ObjectStore) : Prop where
  request : e.request = .apply child.kind (versions e.task).namespaceOrDefault
    (child.name (versions e.task)) (child.object (versions e.task))
  written : ∃ old, child.stored (versions e.task) e.before = some old ∧
    ¬ old.Conflicts operatorApply (child.fields (versions e.task)) ∧
    child.stored (versions e.task) e.after =
      some (old.applied operatorApply (child.fields (versions e.task)))

/-- The server has stored the child as this event asked it to. -/
def Stores (requester : String) (versions : ι → StreamlineCluster) (child : Child)
    (e : Event Request Request.Response ι ObjectStore) : Prop :=
  Creates requester versions child e ∨ Applies versions child e

/-- The child was created by one version and is what that and the last applied one set
together. The two agree. -/
structure Combines (requester : String) (versions : ι → StreamlineCluster) (child : Child)
    (stored : Owned child.kind.Value) (creator last : ι) : Prop where
  since : stored.Since requester operatorApply (child.fields (versions creator))
  agrees : (child.fields (versions creator)).Agrees (child.fields (versions last))
  value : stored.value = (child.fields (versions creator)).merge (child.fields (versions last))

/-- The history accounts for what is found of the child: nothing, if no event of it stored
one. Otherwise the first event that did created it, and what is stored combines the
versions of that event and of the last one. -/
inductive Accounted (requester : String) (versions : ι → StreamlineCluster) (child : Child)
    (h : List (Event Request Request.Response ι ObjectStore)) :
    Option (Owned child.kind.Value) → Prop
  | absent : (∀ e ∈ h, ¬ Stores requester versions child e) →
      Accounted requester versions child h none
  | stored {creation last : Event Request Request.Response ι ObjectStore}
      {stored : Owned child.kind.Value} :
      FirstIn (Stores requester versions child) h creation →
      Creates requester versions child creation →
      LastIn (Stores requester versions child) h last →
      Combines requester versions child stored creation.task last.task →
      Accounted requester versions child h (some stored)

section Steps

variable {child : Child} {h : List (Event Request Request.Response ι ObjectStore)}
variable {e : Event Request Request.Response ι ObjectStore}

theorem Accounted.kept {found : Option (Owned child.kind.Value)}
    (hacc : Accounted requester versions child h found)
    (hnot : ¬ Stores requester versions child e) :
    Accounted requester versions child (h ++ [e]) found := by
  cases hacc with
  | absent hnone =>
    refine .absent fun d hd => ?_
    rcases List.mem_append.mp hd with hd | hd
    · exact hnone d hd
    · rwa [List.mem_singleton.mp hd]
  | stored hfirst hcreates hlast hcombines =>
    exact .stored (hfirst.snoc e) hcreates (hlast.snoc hnot) hcombines

/-- The step: an event that stores the child is accounted for. -/
theorem Accounted.stores
    (hacc : Accounted requester versions child h (child.stored (versions e.task) e.before))
    (hstores : Stores requester versions child e) :
    Accounted requester versions child (h ++ [e]) (child.stored (versions e.task) e.after) := by
  rcases hstores with hcreates | happlies
  · rw [hcreates.absent] at hacc
    rw [hcreates.written]
    cases hacc with
    | absent hnone =>
      exact .stored (firstIn_snoc hnone (.inl hcreates)) hcreates (lastIn_snoc (.inl hcreates))
        ⟨Owned.since_create, Configuration.Agrees.rfl, (Configuration.merge_self _).symm⟩
  · obtain ⟨old, hold, hfree, hwritten⟩ := happlies.written
    rw [hold] at hacc
    rw [hwritten]
    cases hacc with
    | stored hfirst hcreates _ hcombines =>
      exact .stored (hfirst.snoc e) hcreates (lastIn_snoc (.inr happlies))
        ⟨hcombines.since.applied operatorApply_ne hfree,
          hcombines.since.agrees operatorApply_ne hfree,
          hcombines.since.applied_merge operatorApply_ne hfree⟩

end Steps

/-- A served call of one of the reconciles stores the child, or leaves it as it was. -/
theorem stores_or_kept {i : ι} {trace : List ApiExchange} {request : Request}
    {store after : ObjectStore} {x y : request.Response}
    (hrendering : Rendering (versions i) trace request)
    (hfound : ∀ (child : Child) (found : child.kind.Object),
      ⟨.get child.kind (versions i).namespaceOrDefault (child.name (versions i)), .ok found⟩ ∈
        trace → (child.stored (versions i) store).isSome = true)
    (hserve : serves requester request store y after) (child : Child) :
    Stores requester versions child ⟨i, request, x, store, after⟩ ∨
      child.stored (versions i) after = child.stored (versions i) store := by
  have hset : ∀ (other : Child) (object : Owned other.kind.Value), child ≠ other →
      child.stored (versions i) (store.set other.kind (versions i).namespaceOrDefault
        (other.name (versions i)) object) = child.stored (versions i) store := by
    intro other object hne
    exact ObjectStore.set_other fun hkey => hne (Child.eq_of_key hkey.1 hkey.2.2)
  rcases hrendering with hread | hwrites
  · rw [serves_keeps hserve hread]
    exact .inr rfl
  · cases hwrites with
    | create other =>
      simp only [serves, other.objectName_object] at hserve
      split at hserve
      · rename_i hnone
        obtain ⟨-, rfl⟩ := hserve
        by_cases hother : child = other
        · subst hother
          exact .inl (.inl ⟨rfl, hnone, ObjectStore.set_same _⟩)
        · exact .inr (hset other _ hother)
      · obtain ⟨-, rfl⟩ := hserve
        exact .inr rfl
    | apply other hget =>
      obtain ⟨old, hold⟩ := Option.isSome_iff_exists.mp (hfound other _ hget)
      have hthere : store other.kind (versions i).namespaceOrDefault (other.name (versions i)) =
          some old := hold
      rcases hserve with ⟨-, -, rfl⟩ | ⟨hfree, -, rfl⟩
      · exact .inr rfl
      · by_cases hother : child = other
        · subst hother
          rw [hthere, Option.getD_some] at hfree
          refine .inl (.inr ⟨rfl, old, hold, hfree, ?_⟩)
          rw [hthere, Option.getD_some]
          exact ObjectStore.set_same _
        · exact .inr (hset other _ hother)

theorem isSome_served {kind : Kind} {namespaceName name : String} {store after : ObjectStore}
    {request : Request} {r : request.Response} (hserve : serves requester request store r after)
    (h : (store kind namespaceName name).isSome = true) :
    (after kind namespaceName name).isSome = true := by
  rcases serves_cases hserve with ⟨rfl, -⟩ | ⟨otherKind, otherNamespace, otherName, object, -, rfl,
    -⟩
  · exact h
  · by_cases hkey : kind = otherKind ∧ namespaceName = otherNamespace ∧ name = otherName
    · obtain ⟨rfl, rfl, rfl⟩ := hkey
      rw [ObjectStore.set_same]
      rfl
    · rw [ObjectStore.set_other hkey]
      exact h

theorem HasStored.stored {cluster : StreamlineCluster} {child : Child} {e : ApiExchange}
    {store after : ObjectStore} (h : HasStored cluster child e)
    (hserve : lossyServes requester e.request store e.response after) :
    (child.stored cluster after).isSome = true := by
  cases h with
  | create =>
    have hserve := hserve.of_not_failure (by simp [Failure, succeeded, Except.isOk, Except.toBool])
    simp only [serves, child.objectName_object] at hserve
    split at hserve
    · obtain ⟨-, rfl⟩ := hserve
      rw [Child.stored, ObjectStore.set_same]
      rfl
    · obtain ⟨⟨e, hfailed, -⟩, -⟩ := hserve
      cases hfailed
  | apply =>
    have hserve := hserve.of_not_failure (by simp [Failure, succeeded, Except.isOk, Except.toBool])
    rcases hserve with ⟨-, ⟨e, hfailed, -⟩, -⟩ | ⟨-, -, rfl⟩
    · cases hfailed
    · rw [Child.stored, ObjectStore.set_same]
      rfl

variable {store : ObjectStore} {h : List (Event Request Request.Response ι ObjectStore)}

theorem Accounted.started {i : ι} {child : Child}
    (hacc : Accounted requester versions child h (child.stored (versions i) store))
    (hnewest : ∀ j, (child.fields (versions j)).Extends (child.fields (versions i)))
    (attempt : Attempt requester) (hcluster : attempt.cluster = versions i) :
    Started requester [attempt] child (child.stored attempt.cluster store) := by
  intro stored hstored
  rw [hcluster] at hstored
  rw [hstored] at hacc
  cases hacc with
  | @stored creation last _ _ _ _ hcombines =>
    refine ⟨_, hcombines.since, ?_⟩
    rw [List.forall_mem_singleton, hcluster]
    exact hnewest creation.task

variable [DecidableEq ι]
variable {w : World Request Request.Response OperatorError Action ι ObjectStore}

theorem stored_of_mem (hr : Run (lossyServes requester) (concurrently store versions) h w)
    {e : Event Request Request.Response ι ObjectStore} (he : e ∈ h) {i : ι} {child : Child}
    (hthere : (child.stored (versions i) e.after).isSome = true) :
    (child.stored (versions i) w.state).isSome = true := by
  obtain ⟨h₁, h₂, rfl⟩ := List.append_of_mem he
  obtain ⟨v, v', -, hs, hlater⟩ := hr.split_cons
  rw [hs.served.2.2] at hthere
  refine hlater.state_rel
    (R := fun a b => (child.stored (versions i) a).isSome = true →
      (child.stored (versions i) b).isSome = true)
    (fun _ => id) (fun hab hbc ha => hbc (hab ha)) ?_ hthere
  intro r s x s' hserve hs
  exact hserve.keeps (I := fun s => (child.stored (versions i) s).isSome = true)
    (fun _ _ hserve => isSome_served hserve) hs

theorem stored_of_found (hr : Run (lossyServes requester) (concurrently store versions) h w)
    {i : ι} {child : Child} {found : child.kind.Object}
    (hget : ⟨.get child.kind (versions i).namespaceOrDefault (child.name (versions i)),
      .ok found⟩ ∈ exchangesOf h i) :
    (child.stored (versions i) w.state).isSome = true := by
  obtain ⟨e, he, -, hexchange⟩ := World.mem_of_mem_exchangesOf hget
  obtain ⟨-, v, v', -, hs, -⟩ := hr.passes_of_mem he
  have hserve : lossyServes requester e.exchange.request e.before e.exchange.response e.after :=
    hs.served.1
  rw [hexchange] at hserve
  have hserve := hserve.of_not_failure (by simp [Failure, succeeded, Except.isOk, Except.toBool])
  refine stored_of_mem hr he ?_
  obtain ⟨hsame, hfound⟩ := hserve
  rw [hsame]
  exact hfound.mp ⟨found, rfl⟩

/-- Every state that overlapping reconciles reach is accounted for by their history. -/
theorem accounted_run (hsame : SameCluster versions)
    (hfresh : ∀ i, ∀ child : Child, child.stored (versions i) store = none)
    (hr : Run (lossyServes requester) (concurrently store versions) h w) (i : ι)
    (child : Child) : Accounted requester versions child h (child.stored (versions i) w.state) := by
  refine hr.invariant
    (I := fun h w => Accounted requester versions child h (child.stored (versions i) w.state)) ?_ ?_
  · have hnone := hfresh i child
    rw [show (concurrently store versions).state = store from rfl, hnone]
    exact .absent (by simp)
  · intro h w e w' hr hacc hs
    obtain ⟨next, hrendering, -⟩ := hr.everywhere_step hs (sends_reconcile _)
    obtain ⟨hserve, hbefore, hafter⟩ := hs.served
    rw [hsame.stored_eq i e.task] at hacc ⊢
    rw [← hbefore] at hacc
    rw [← hafter]
    by_cases hstores : Stores requester versions child e
    · exact hacc.stores hstores
    · have hkept : child.stored (versions e.task) e.after =
          child.stored (versions e.task) e.before := by
        obtain ⟨task, request, response, before, after⟩ := e
        obtain rfl : before = w.state := hbefore
        have hfound : ∀ (child : Child) (found : child.kind.Object),
            ⟨.get child.kind (versions task).namespaceOrDefault (child.name (versions task)),
              .ok found⟩ ∈ exchangesOf h task →
            (child.stored (versions task) w.state).isSome = true :=
          fun child found hget => stored_of_found hr hget
        cases hserve with
        | served hserve =>
          exact (stores_or_kept hrendering hfound hserve child).resolve_left hstores
        | requestLost _ => rfl
        | answerLost _ hserve =>
          exact (stores_or_kept hrendering hfound hserve child).resolve_left hstores
      rw [hkept]
      exact hacc.kept hstores

/-- When a reconcile has returned, its children are stored, whoever wrote them last. -/
theorem stored_of_isOk (hr : Run (lossyServes requester) (concurrently store versions) h w)
    {i : ι} (hok : (w.tasks i).isOk = true) (hvalid : (versions i).spec.validate = .ok ())
    (hlive : (versions i).metadata.deletionTimestamp = none) (child : Child) :
    (child.stored (versions i) w.state).isSome = true := by
  obtain ⟨action, hdone⟩ : ∃ action, w.tasks i = .ok action := by
    cases htask : w.tasks i with
    | ok action => exact ⟨action, rfl⟩
    | err e => simp [htask, Program.isOk] at hok
    | call r next => simp [htask, Program.isOk] at hok
  have hruns : Program.Runs (reconcile (versions i)) (exchangesOf h i) (.ok action) := by
    have hsteps := hr.project i
    rw [hdone] at hsteps
    exact hsteps
  obtain ⟨x, hx, hwrote⟩ := leaves_reconcile hvalid hlive child _ _ hruns
  obtain ⟨e, he, -, rfl⟩ := World.mem_of_mem_exchangesOf hx
  obtain ⟨-, v, v', -, hs, -⟩ := hr.passes_of_mem he
  exact stored_of_mem hr he (hwrote.stored hs.served.1)

/-- Overlapping reconciles of one cluster, each at a version of its own and possibly cut
short: what is stored of a child is what its creation and the last write of it set together.
One that returns leaves all its children stored. And the newest version always gets through
once it is alone. -/
theorem reconciles_overlap {ι : Type} [DecidableEq ι] (requester : String) (store : ObjectStore)
    (versions : ι → StreamlineCluster) (hsame : SameCluster versions)
    (hfresh : ∀ i, ∀ child : Child, child.stored (versions i) store = none)
    (h : List (Event Request Request.Response ι ObjectStore))
    (w : World Request Request.Response OperatorError Action ι ObjectStore)
    (hr : Run (lossyServes requester) (concurrently store versions) h w) (i : ι) :
    (∀ child : Child, Accounted requester versions child h (child.stored (versions i) w.state)) ∧
    ((versions i).spec.validate = .ok () → (versions i).metadata.deletionTimestamp = none →
      ((w.tasks i).isOk = true →
        ∀ child : Child, (child.stored (versions i) w.state).isSome = true) ∧
      (clusterFinalizer ∈ (versions i).metadata.finalizerList →
        (∀ j, ∀ child : Child,
          (child.fields (versions j)).Extends (child.fields (versions i))) →
        ∀ attempt : Attempt requester, attempt.cluster = versions i →
          attempt.before = w.state → attempt.Reliable →
            attempt.Succeeds ∧ attempt.RolledOut)) := by
  have haccounted := accounted_run hsame hfresh hr i
  refine ⟨haccounted, fun hvalid hlive => ⟨fun hok => stored_of_isOk hr hok hvalid hlive, ?_⟩⟩
  intro hpresent hnewest attempt hcluster hbefore hreliable
  have hstarted := fun child =>
    (haccounted child).started (fun j => hnewest j child) attempt hcluster
  rw [← hbefore] at hstarted
  rw [← hcluster] at hvalid hlive hpresent
  have hsucceeds := attempt.succeeds_of_reliable hvalid hlive hpresent hstarted hreliable
  refine ⟨hsucceeds, fun child => ?_⟩
  obtain ⟨stored, base, hfound, hvalue, -⟩ :=
    (attempt.started_step hvalid hlive (by simp) hstarted).2 hsucceeds child
  exact ⟨stored, hfound, hvalue⟩

/-- Two replicas reconcile one cluster: the first has only begun when the second is done. -/
theorem reconciles_overlap_events :
    ∃ h w, Run (lossyServes "kube-rs")
        (concurrently (fun _ _ _ => none) fun _ : Bool => guardedCluster "events") h w ∧
      (∃ e ∈ h, e.task = true) ∧
      (∀ child : Child, ∃ stored, child.stored (guardedCluster "events") w.state = some stored ∧
        stored.value = child.fields (guardedCluster "events")) ∧
      ∃ attempt : Attempt "kube-rs", attempt.before = w.state ∧ attempt.Succeeds ∧
        attempt.RolledOut := by
  obtain ⟨h, w, hrun, hbegun, hok⟩ :=
    exists_overlap (fun _ => guardedCluster "events") rfl rfl
  have hoverlap := reconciles_overlap "kube-rs" _ (fun _ : Bool => guardedCluster "events")
    ⟨fun _ _ => rfl, fun _ _ => rfl⟩ (fun _ _ => rfl) h w hrun false
  have haccepted := hoverlap.2 (guardedCluster_accepted "events") rfl
  refine ⟨h, w, hrun, hbegun, fun child => ?_, ?_⟩
  · obtain ⟨stored, hstored⟩ := Option.isSome_iff_exists.mp (haccepted.1 hok child)
    have haccounted := hoverlap.1 child
    rw [hstored] at haccounted
    cases haccounted with
    | stored _ _ _ hcombines =>
      exact ⟨stored, hstored, hcombines.value.trans (Configuration.merge_self _)⟩
  · obtain ⟨trace, result, after, hruns, hserved⟩ := Program.exists_served
      (@serves_total "kube-rs") (reconcile (guardedCluster "events")) w.state
    let attempt : Attempt "kube-rs" :=
      ⟨guardedCluster "events", w.state, after, trace, result, hruns, hserved.lossy⟩
    exact ⟨attempt, rfl, haccepted.2 (guardedCluster_guarded "events")
      (fun _ _ _ _ hset => hset) attempt rfl rfl hserved⟩

end Versions

end StreamlineOperator.Controllers.ClusterController
