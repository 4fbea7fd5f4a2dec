/- source: src/src/controllers/cluster.rs (reconcile_configmap to reconcile_statefulset)
   digest: Which spec edits reach the stored child objects, over any number of reconciles. -/

import StreamlineOperator.Controllers.ClusterReconcile
import StreamlineOperator.Kubernetes.ServerSideApply

set_option autoImplicit false
set_option relaxedAutoImplicit false

namespace StreamlineOperator.Controllers.ClusterController

open Foundation
open Kubernetes
open Program (Triple Returning)
open Conditions (clusterFinalizer)
open Crd (ClusterSpec StreamlineCluster)

/-- The objects of a cluster's workload. -/
inductive Child where
  | configMap
  | headlessService
  | clientService
  | statefulSet
  deriving DecidableEq

namespace Child

abbrev kind : Child → Kind
  | configMap => .configMap
  | headlessService => .service
  | clientService => .service
  | statefulSet => .statefulSet

def name (cluster : StreamlineCluster) : Child → String
  | configMap => cluster.nameAny ++ "-config"
  | headlessService => cluster.nameAny ++ "-headless"
  | clientService => cluster.nameAny
  | statefulSet => cluster.nameAny

def object (cluster : StreamlineCluster) : (child : Child) → child.kind.Object
  | configMap => buildConfigmap cluster cluster.namespaceOrDefault
  | headlessService => ClusterController.headlessService cluster cluster.namespaceOrDefault
  | clientService => ClusterController.clientService cluster cluster.namespaceOrDefault
  | statefulSet => buildStatefulset cluster cluster.namespaceOrDefault

/-- What is rendered for a child, field by field. -/
def fields (cluster : StreamlineCluster) (child : Child) : Configuration child.kind.Value :=
  child.kind.fields (child.object cluster)

/-- What is stored for a child. -/
def stored (cluster : StreamlineCluster) (store : ObjectStore) (child : Child) :
    Option (Owned child.kind.Value) :=
  store child.kind cluster.namespaceOrDefault (child.name cluster)

def write (cluster : StreamlineCluster) (child : Child) : Operation Unit :=
  getThenWrite child.kind cluster.namespaceOrDefault (child.name cluster) (child.object cluster)

theorem objectName_object (cluster : StreamlineCluster) (child : Child) :
    child.kind.objectName (child.object cluster) = child.name cluster := by
  cases child <;> rfl

theorem eq_of_key {cluster : StreamlineCluster} {child other : Child}
    (hkind : child.kind = other.kind) (hname : child.name cluster = other.name cluster) :
    child = other := by
  have hsuffix : cluster.nameAny ++ "-headless" ≠ cluster.nameAny := by
    intro h
    simpa using congrArg String.length h
  cases child <;> cases other <;> simp_all [kind, name, eq_comm]

end Child

section Reconcile

variable {requester : String} {cluster : StreamlineCluster} {pre : ObjectStore → Prop}

/-- The children in `done` are as `after` says, and the others as `before` does. -/
def Progress (cluster : StreamlineCluster)
    (before after : (child : Child) → Option (Owned child.kind.Value) → Prop)
    (done : List Child) (store : ObjectStore) : Prop :=
  ∀ child : Child, if child ∈ done then after child (child.stored cluster store)
    else before child (child.stored cluster store)

theorem triple_write {before after : (child : Child) → Option (Owned child.kind.Value) → Prop}
    (hfree : ∀ child stored, before child (some stored) →
      ¬ stored.Conflicts operatorApply (child.fields cluster))
    (hwrites : ∀ child found stored, before child found →
      Writes requester (child.fields cluster) found stored → after child (some stored))
    (child : Child) {done : List Child} (hnew : child ∉ done) :
    Triple (serves requester) (Progress cluster before after done) (child.write cluster)
      (Returning fun _ => Progress cluster before after (child :: done)) := by
  have hbefore : ∀ store, Progress cluster before after done store →
      before child (child.stored cluster store) := by
    intro store hstore
    simpa [hnew] using hstore child
  refine triple_getThenWrite (child.objectName_object cluster) ?_ ?_
  · intro store hstore stored hstored
    have hchild := hbefore store hstore
    rw [Child.stored, hstored] at hchild
    exact hfree child stored hchild
  · intro store stored hstore hwrote other
    by_cases hsame : other = child
    · subst hsame
      rw [if_pos List.mem_cons_self, Child.stored, ObjectStore.set_same]
      exact hwrites other _ stored (hbefore store hstore) hwrote
    · have hkey : ¬ (other.kind = child.kind ∧
          cluster.namespaceOrDefault = cluster.namespaceOrDefault ∧
          other.name cluster = child.name cluster) :=
        fun h => hsame (Child.eq_of_key h.1 h.2.2)
      simpa [Child.stored, ObjectStore.set_other hkey, hsame] using hstore other

theorem triple_sendMetric {event : MetricEvent} :
    Triple (serves requester) pre (sendMetric event) (Returning fun _ => pre) := by
  refine Program.triple_call (fun _ => pre) ?_ ?_
  · rintro store r after hpre rfl
    exact hpre
  · exact fun r => Program.triple_ok fun store hpre => ⟨(), rfl, hpre⟩

theorem triple_ensureFinalizer {namespaceName : String}
    (hpresent : clusterFinalizer ∈ cluster.metadata.finalizerList) :
    Triple (serves requester) pre (ensureFinalizer cluster namespaceName)
      (Returning fun _ => pre) := by
  rw [ensureFinalizer, Kubernetes.ensureFinalizer, if_pos hpresent]
  exact Program.triple_ok fun store hpre => ⟨(), rfl, hpre⟩

theorem triple_deleteHpa {namespaceName : String} :
    Triple (serves requester) pre (AutoScalingController.deleteHpa cluster namespaceName)
      (Returning fun _ => pre) := by
  refine Program.triple_send_bind
    (fun r after => pre after ∧ ∀ e, r = .error e → e.code = some 404) ?_ ?_
  · rintro store r after hpre ⟨hgone, rfl⟩
    exact ⟨hpre, hgone⟩
  · intro r
    cases r with
    | ok u => exact Program.triple_ok fun store hpre => ⟨(), rfl, hpre.1⟩
    | error e =>
      by_cases hcode : e.code = some 404
      · have hgone : classifyDeleteError e = .gone := if_pos hcode
        simp only [hgone]
        exact Program.triple_ok fun store hpre => ⟨(), rfl, hpre.1⟩
      · exact fun store hpre => absurd (hpre.2 e rfl) hcode

theorem triple_publish {namespaceName : String}
    {build : Conditions.Clock → StreamlineCluster → Crd.ClusterStatus} :
    Triple (serves requester) pre (publish .streamlineCluster cluster namespaceName build)
      (Returning fun _ => pre) := by
  refine Program.triple_send_bind (fun _ => pre) ?_ ?_
  · rintro store clock after hpre rfl
    exact hpre
  · intro clock
    unfold Controllers.patchStatusIfChanged
    split
    · exact Program.triple_ok fun store hpre => ⟨(), rfl, hpre⟩
    · refine Program.triple_send_bind (fun r after => r = .ok () ∧ pre after) ?_ ?_
      · rintro store r after hpre ⟨rfl, rfl⟩
        exact ⟨rfl, hpre⟩
      · intro r
        cases r with
        | ok u => exact Program.triple_ok fun store h => ⟨u, rfl, h.2⟩
        | error e => exact fun store h => nomatch h.1

theorem triple_updateStatus {namespaceName : String} :
    Triple (serves requester) pre (updateStatus cluster namespaceName)
      (Returning fun _ => pre) := by
  refine Program.triple_send_bind (fun r after => (∃ pods, r = .ok pods) ∧ pre after) ?_ ?_
  · rintro store r after hpre ⟨hlisted, rfl⟩
    exact ⟨hlisted, hpre⟩
  · intro r
    cases r with
    | ok pods =>
      simp only [orKubeApi, Program.bind_eq, Program.ok_bind]
      exact Program.triple_weaken triple_publish (fun store h => h.2) (fun _ _ => id)
    | error e =>
      rintro store ⟨⟨pods, hpods⟩, -⟩
      cases hpods

/-- A reconcile of an accepted cluster writes its four children, unless one of them
conflicts with what is rendered. -/
theorem triple_reconcile (requester : String)
    (before after : (child : Child) → Option (Owned child.kind.Value) → Prop)
    (hvalid : cluster.spec.validate = .ok ())
    (hpresent : clusterFinalizer ∈ cluster.metadata.finalizerList)
    (hlive : cluster.metadata.deletionTimestamp = none)
    (hfree : ∀ child stored, before child (some stored) →
      ¬ stored.Conflicts operatorApply (child.fields cluster))
    (hwrites : ∀ child found stored, before child found →
      Writes requester (child.fields cluster) found stored → after child (some stored)) :
    Triple (serves requester) (fun store => ∀ child, before child (child.stored cluster store))
      (reconcile cluster)
      (Returning fun _ store => ∀ child : Child, after child (child.stored cluster store)) := by
  have hstages := renderSpec_eq cluster cluster.namespaceOrDefault
  have hrun : Triple (serves requester) (Progress cluster before after []) (reconcile cluster)
      (Returning fun _ => Progress cluster before after
        [.statefulSet, .clientService, .headlessService, .configMap]) := by
    rw [reconcile_live_eq hlive]
    refine Program.triple_bind triple_sendMetric fun _ => ?_
    refine Program.triple_bind (triple_ensureFinalizer hpresent) fun _ => ?_
    refine Program.triple_bind triple_deleteHpa fun _ => ?_
    rw [afterCleanup, hvalid]
    rw [hvalid] at hstages
    simp only [hstages]
    refine Program.triple_bind (triple_write hfree hwrites .configMap (by decide)) fun _ => ?_
    refine Program.triple_bind (triple_write hfree hwrites .headlessService (by decide)) fun _ => ?_
    refine Program.triple_bind (triple_write hfree hwrites .clientService (by decide)) fun _ => ?_
    refine Program.triple_bind (triple_write hfree hwrites .statefulSet (by decide)) fun _ => ?_
    refine Program.triple_bind triple_updateStatus fun _ => ?_
    refine Program.triple_bind triple_sendMetric fun _ => ?_
    exact Program.triple_ok fun store hstore => ⟨_, rfl, hstore⟩
  refine Program.triple_weaken hrun ?_ ?_
  · intro store hstore child
    simpa using hstore child
  · rintro res store ⟨action, rfl, hstore⟩
    refine ⟨action, rfl, fun child => ?_⟩
    have hchild := hstore child
    cases child <;> simpa using hchild

end Reconcile

/-! Runs. -/

/-- One reconcile of a cluster, served by the API server between two of its states. -/
structure ReconcileStep (requester : String) where
  cluster : StreamlineCluster
  before : ObjectStore
  after : ObjectStore
  trace : List ApiExchange
  result : Except OperatorError Action
  runs : Program.Runs (reconcile cluster) trace result
  served : Served (serves requester) before trace after

/-- The reconcile returned `Ok`, and the stored children are those of its spec. -/
def ReconcileStep.RolledOut {requester : String} (self : ReconcileStep requester) : Prop :=
  (∃ action, self.result = .ok action) ∧
    ∀ child : Child, ∃ stored, child.stored self.cluster self.after = some stored ∧
      stored.value = child.fields self.cluster

/-- The two specs differ in mutable settings only. -/
def DifferInMutable (first later : ClusterSpec) : Prop :=
  later = { first with
    image := later.image
    resources := later.resources
    tls := later.tls
    kafkaPort := later.kafkaPort
    httpPort := later.httpPort
    raftPort := later.raftPort
    env := later.env
    logLevel := later.logLevel }

/-- The same live resource, with its finalizer and an accepted spec. -/
structure LaterVersion (first later : StreamlineCluster) : Prop where
  accepted : later.spec.validate = .ok ()
  present : clusterFinalizer ∈ later.metadata.finalizerList
  live : later.metadata.deletionTimestamp = none
  sameName : later.nameAny = first.nameAny
  sameNamespace : later.namespaceOrDefault = first.namespaceOrDefault
  sameUid : later.metadata.uid = first.metadata.uid
  edited : DifferInMutable first.spec later.spec

/-- Reconciles of one cluster, the first of them before it has any child object. -/
structure RolloutRun (requester : String) where
  first : ReconcileStep requester
  rest : List (ReconcileStep requester)
  fresh : ∀ child : Child, child.stored first.cluster first.before = none
  linked : (first :: rest).IsChain (fun a b => b.before = a.after)
  versions : ∀ step ∈ first :: rest, LaterVersion first.cluster step.cluster

section Runs

variable {requester : String}

/-- The children were created as those of `first`. -/
def CreatedFor (requester : String) (first : StreamlineCluster) (store : ObjectStore) : Prop :=
  ∀ child : Child, CreatedAs requester child.kind first.namespaceOrDefault (child.name first)
    (child.fields first) store

theorem Child.name_eq {first later : StreamlineCluster} (h : later.nameAny = first.nameAny)
    (child : Child) : child.name later = child.name first := by
  cases child <;> simp [Child.name, h]

theorem ReconcileStep.rolledOut_first (step : ReconcileStep requester)
    (hversion : LaterVersion step.cluster step.cluster)
    (hfresh : ∀ child : Child, child.stored step.cluster step.before = none) :
    step.RolledOut ∧ CreatedFor requester step.cluster step.after := by
  have htriple := triple_reconcile requester (fun _ found => found = none)
    (fun child found => ∃ stored, found = some stored ∧
      stored.value = child.fields step.cluster ∧
        stored.Since requester operatorApply (child.fields step.cluster))
    hversion.accepted hversion.present hversion.live nofun (by
      rintro child _ stored rfl hwrites
      cases hwrites with
      | created => exact ⟨_, rfl, rfl, Owned.since_create⟩)
  obtain ⟨action, hresult, hafter⟩ :=
    htriple step.before hfresh step.trace step.result step.after step.runs step.served
  refine ⟨⟨⟨action, hresult⟩, fun child => ?_⟩, fun child => ?_⟩
  · obtain ⟨stored, hstored, hvalue, -⟩ := hafter child
    exact ⟨stored, hstored, hvalue⟩
  · obtain ⟨stored, hstored, -, hsince⟩ := hafter child
    exact ⟨stored, hstored, hsince⟩

theorem CreatedFor.served {first : StreamlineCluster} {store after : ObjectStore}
    {tr : List ApiExchange} (hserved : Served (serves requester) store tr after)
    (h : CreatedFor requester first store) : CreatedFor requester first after := by
  refine hserved.invariant ?_ h
  intro request before r between hserves hcreated child
  exact (hcreated child).served hserves

/-- A later spec rolls out if and only if its children extend the first ones. -/
theorem ReconcileStep.rolledOut_iff {first : StreamlineCluster} (step : ReconcileStep requester)
    (hversion : LaterVersion first step.cluster) (hcreated : CreatedFor requester first step.before) :
    step.RolledOut ↔
      ∀ child : Child, (child.fields first).Extends (child.fields step.cluster) := by
  have hkey : ∀ (child : Child) (store : ObjectStore), child.stored step.cluster store =
      store child.kind first.namespaceOrDefault (child.name first) := by
    intro child store
    rw [Child.stored, hversion.sameNamespace, Child.name_eq hversion.sameName]
  constructor
  · rintro ⟨-, hstored⟩ child
    obtain ⟨stored, hvalue, hsince⟩ := hcreated.served step.served child
    obtain ⟨stored', hvalue', hlatest⟩ := hstored child
    rw [hkey, hvalue] at hvalue'
    obtain rfl := Option.some.inj hvalue'
    exact hsince.extends hlatest
  · intro hextends
    have htriple := triple_reconcile requester
      (fun child found => ∃ stored, found = some stored ∧
        stored.Since requester operatorApply (child.fields first))
      (fun child found => ∃ stored, found = some stored ∧
        stored.value = child.fields step.cluster)
      hversion.accepted hversion.present hversion.live
      (by
        rintro child _ ⟨stored, hstored, hsince⟩
        cases hstored
        exact hsince.not_conflicts (hextends child))
      (by
        rintro child _ stored ⟨found, rfl, hsince⟩ hwrites
        cases hwrites with
        | applied hfree => exact ⟨_, rfl, hsince.applied_value (hextends child)⟩)
    have hbefore : ∀ child : Child, ∃ stored, child.stored step.cluster step.before = some stored ∧
        stored.Since requester operatorApply (child.fields first) := by
      intro child
      obtain ⟨stored, hstored, hsince⟩ := hcreated child
      exact ⟨stored, (hkey child step.before).trans hstored, hsince⟩
    obtain ⟨action, hresult, hafter⟩ :=
      htriple step.before hbefore step.trace step.result step.after step.runs step.served
    exact ⟨⟨action, hresult⟩, hafter⟩

theorem createdFor_of_linked {first : StreamlineCluster} {previous : ReconcileStep requester}
    {rest : List (ReconcileStep requester)}
    (hlinked : (previous :: rest).IsChain (fun a b => b.before = a.after))
    (hprevious : CreatedFor requester first previous.after) :
    ∀ step ∈ rest, CreatedFor requester first step.before := by
  induction rest generalizing previous with
  | nil => simp
  | cons step rest ih =>
    rw [List.isChain_cons_cons] at hlinked
    have hbefore : CreatedFor requester first step.before := by
      rw [hlinked.1]
      exact hprevious
    rw [List.forall_mem_cons]
    exact ⟨hbefore, ih hlinked.2 (hbefore.served step.served)⟩

theorem RolloutRun.rolledOut_iff (run : RolloutRun requester) :
    (∀ step ∈ run.first :: run.rest, step.RolledOut) ↔
      ∀ step ∈ run.rest, ∀ child : Child,
        (child.fields run.first.cluster).Extends (child.fields step.cluster) := by
  have hversion := List.forall_mem_cons.mp run.versions
  obtain ⟨hfirst, hcreated⟩ := run.first.rolledOut_first hversion.1 run.fresh
  have hbefore := createdFor_of_linked run.linked hcreated
  rw [List.forall_mem_cons]
  constructor
  · rintro ⟨-, hrest⟩ step hstep
    exact (step.rolledOut_iff (hversion.2 step hstep) (hbefore step hstep)).mp (hrest step hstep)
  · intro hrest
    refine ⟨hfirst, fun step hstep => ?_⟩
    exact (step.rolledOut_iff (hversion.2 step hstep) (hbefore step hstep)).mpr (hrest step hstep)

end Runs

end StreamlineOperator.Controllers.ClusterController
