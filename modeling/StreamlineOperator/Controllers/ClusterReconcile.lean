/- source: src/src/controllers/cluster.rs (reconcile)
   digest: Every run of the cluster reconcile, whatever the calls return, is a safe one. -/

import StreamlineOperator.Controllers.Cluster

set_option autoImplicit false
set_option relaxedAutoImplicit false

namespace StreamlineOperator.Controllers

open Foundation
open Kubernetes
open Program (Always Leaves Orders)
open Crd (ClusterSpec StreamlineCluster)

namespace ClusterController

/-! What a trace has to show. -/

def brokerPod (object : StatefulSet) : Option PodSpec :=
  object.spec.bind (fun spec => spec.template.spec)

def containerPorts (object : StatefulSet) : List Int32 :=
  (((brokerPod object).map PodSpec.containers).getD []).flatMap
    (fun container => (container.ports.getD []).map ContainerPort.containerPort)

/-- One broker on three ports of its own, placed nowhere in particular. -/
structure IsStandalone (object : StatefulSet) : Prop where
  replicas : object.spec.bind StatefulSetSpec.replicas = some 1
  threePorts : (containerPorts object).length = 3
  portsDistinct : (containerPorts object).Nodup
  portsInRange : ∀ port ∈ containerPorts object, 1 ≤ port ∧ port ≤ 65535
  affinity : (brokerPod object).bind PodSpec.affinity = none
  tolerations : (brokerPod object).bind PodSpec.tolerations = none
  topologySpread : (brokerPod object).bind PodSpec.topologySpreadConstraints = none

/-- A write of the cluster's workload or of its status. -/
def isMutation (e : ApiExchange) : Prop :=
  e.request.isWorkloadWrite = true ∨ e.request.isStatusPatch = true

def appliesFinalizer (cluster : StreamlineCluster) (e : ApiExchange) : Prop :=
  e.request = .applyJson .streamlineCluster cluster.namespaceOrDefault cluster.nameAny true
    (finalizersPatch [Conditions.clusterFinalizer])

def deletesHpa (cluster : StreamlineCluster) (e : ApiExchange) : Prop :=
  e.request = .delete .horizontalPodAutoscaler cluster.namespaceOrDefault
    (cluster.nameAny ++ "-hpa")

/-- A successful write of one child object. -/
def hasWritten (kind : Kind) (name : String) (e : ApiExchange) : Prop :=
  e.request.writtenObject = some (kind, name) ∧ succeeded e = true

/-- A status patch whose phase is not `Failed`. -/
def publishesHealthy (e : ApiExchange) : Prop :=
  ∃ phase, e.request.publishedPhase = some phase ∧ phase ≠ "Failed"

/-- What every run of a reconcile that is not a deletion satisfies. -/
structure SafeRun (cluster : StreamlineCluster) (tr : List ApiExchange)
    (res : Except OperatorError Action) : Prop where
  validated : ∀ e ∈ tr, e.request.isWorkloadWrite = true → cluster.spec.validate = .ok ()
  standalone : ∀ e ∈ tr, ∀ object, e.request.writtenStatefulSet = some object →
    IsStandalone object
  noHpaWrite : ∀ e ∈ tr, ∀ name,
    e.request.writtenObject ≠ some (.horizontalPodAutoscaler, name)
  hpaDeleteIssued :
    (Conditions.clusterFinalizer ∈ cluster.metadata.finalizerList ∨
      ∃ e ∈ tr, appliesFinalizer cluster e ∧ succeeded e = true) →
    ∃ e ∈ tr, deletesHpa cluster e
  finalizerFirst : Conditions.clusterFinalizer ∉ cluster.metadata.finalizerList →
    Precedes (fun e => appliesFinalizer cluster e ∧ succeeded e = true) (deletesHpa cluster) tr
  hpaDeleteFirst : Precedes (deletesHpa cluster) isMutation tr
  hpaDeleteFailure : ∀ namespaceName name error,
    ⟨.delete .horizontalPodAutoscaler namespaceName name, .error error⟩ ∈ tr →
    error.code ≠ some 404 → (∃ e, res = .error e) ∧ ∀ e ∈ tr, ¬ isMutation e
  configMapFirst :
    Precedes (hasWritten .configMap (cluster.nameAny ++ "-config")) publishesHealthy tr
  headlessServiceFirst :
    Precedes (hasWritten .service (cluster.nameAny ++ "-headless")) publishesHealthy tr
  clientServiceFirst : Precedes (hasWritten .service cluster.nameAny) publishesHealthy tr
  statefulSetFirst : Precedes (hasWritten .statefulSet cluster.nameAny) publishesHealthy tr

/-! The verdict and the autoscaler decision agree. -/

theorem desiredHpaConfig_disabled (spec : ClusterSpec) :
    (desiredHpaConfig spec spec.validate.isOk).enabled = false := by
  unfold desiredHpaConfig
  cases hspec : spec.autoscaling with
  | none => rfl
  | some autoscaling =>
    cases hvalid : spec.validate with
    | error errors => simp [Except.isOk, Except.toBool]
    | ok u =>
      have hoff := (ClusterSpec.validate_eq_ok.mp hvalid).autoscaling autoscaling hspec
      simp [hoff]

/-- What follows the cleanup of the autoscaler. -/
def afterCleanup (cluster : StreamlineCluster) (namespaceName : String) : Operation Action :=
  match cluster.spec.validate with
  | .error errors => rejectSpec cluster namespaceName errors
  | .ok _ => renderSpec cluster namespaceName
      (desiredHpaConfig cluster.spec cluster.spec.validate.isOk)

theorem reconcileLive_eq (cluster : StreamlineCluster) (namespaceName : String) :
    reconcileLive cluster namespaceName =
      (ensureFinalizer cluster namespaceName).bind fun _ =>
        (AutoScalingController.deleteHpa cluster namespaceName).bind fun _ =>
          afterCleanup cluster namespaceName := by
  have hoff := desiredHpaConfig_disabled cluster.spec
  simp only [reconcileLive, Program.bind_eq, hoff, Bool.not_false, Program.when_true,
    reconcileAutoscaling, AutoScalingController.reconcileHpa, hpaAction, Bool.false_eq_true,
    if_false, if_true]
  rfl

theorem buildStatefulset_isStandalone {cluster : StreamlineCluster} (namespaceName : String)
    (h : cluster.spec.validate = .ok ()) : IsStandalone (buildStatefulset cluster namespaceName) := by
  have haccepted := ClusterSpec.validate_eq_ok.mp h
  have hports : containerPorts (buildStatefulset cluster namespaceName) =
      [cluster.spec.kafkaPort, cluster.spec.httpPort, cluster.spec.raftPort] := rfl
  refine ⟨?_, ?_, ?_, ?_, rfl, rfl, rfl⟩
  · exact congrArg some haccepted.replicas
  · rw [hports]
    rfl
  · obtain ⟨hkh, hkr, hhr⟩ := haccepted.portsDistinct
    rw [hports]
    simp [hkh, hkr, hhr]
  · rw [hports]
    simp only [List.forall_mem_cons]
    exact ⟨haccepted.kafkaPort, haccepted.httpPort, haccepted.raftPort, by simp⟩

/-! The stages, one by one. -/

/-- Writes are those of an accepted spec, and never an autoscaler. -/
def Disciplined (cluster : StreamlineCluster) (e : ApiExchange) : Prop :=
  (e.request.isWorkloadWrite = true → cluster.spec.validate = .ok ()) ∧
    (∀ object, e.request.writtenStatefulSet = some object → IsStandalone object) ∧
    ∀ name, e.request.writtenObject ≠ some (.horizontalPodAutoscaler, name)

variable {cluster : StreamlineCluster} {namespaceName : String}

private theorem disciplined_of_quiet {e : ApiExchange}
    (h : e.request.writtenObject = none ∨
      ∃ name, e.request.writtenObject = some (.streamlineCluster, name))
    (hs : e.request.writtenStatefulSet = none) : Disciplined cluster e := by
  rcases h with h | ⟨name, h⟩ <;>
    exact ⟨by simp [Request.isWorkloadWrite, h, Kind.isWorkload], by simp [hs], by simp [h]⟩

private theorem disciplined_getThenWrite {kind : Kind} {name : String} {object : kind.Object}
    (hvalid : cluster.spec.validate = .ok ()) (hkind : kind ≠ .horizontalPodAutoscaler)
    (hstandalone : ∀ o, (Request.apply kind namespaceName name object).writtenStatefulSet = some o →
      IsStandalone o) :
    Always (Disciplined cluster) (getThenWrite kind namespaceName name object) := by
  have hsame : (Request.create kind namespaceName object).writtenStatefulSet =
      (Request.apply kind namespaceName name object).writtenStatefulSet := by
    cases kind <;> rfl
  apply always_getThenWrite
  · exact fun r => disciplined_of_quiet (.inl rfl) rfl
  · exact fun r => ⟨fun _ => hvalid, hstandalone, by simp [Request.writtenObject, hkind]⟩
  · exact fun r => ⟨fun _ => hvalid, hsame ▸ hstandalone, by simp [Request.writtenObject, hkind]⟩

theorem updateStatus_always {P : ApiExchange → Prop}
    (hlist : ∀ r, P ⟨.list .pod namespaceName (instanceSelector cluster), r⟩)
    (hclock : ∀ clock, P ⟨.clock, clock⟩)
    (hpatch : ∀ body r, P ⟨.patchStatus .streamlineCluster namespaceName cluster.nameAny body, r⟩) :
    Always P (updateStatus cluster namespaceName) := by
  simp only [updateStatus, send, Program.bind_eq, Program.send_bind]
  apply Program.always_call hlist
  intro r
  refine Program.always_bind (always_orKubeApi r) ?_
  intro items
  exact always_publish hclock (fun clock r => hpatch _ r)

private theorem rejectSpec_always {P : ApiExchange → Prop} {errors : List String}
    (hclock : ∀ clock, P ⟨.clock, clock⟩)
    (hpatch : ∀ clock message r, P ⟨.patchStatus .streamlineCluster namespaceName cluster.nameAny
      (Crd.statusPatch (invalidStatus clock cluster message)), r⟩)
    (hmetric : P ⟨.metric (.incError "cluster"), ()⟩) :
    Always P (rejectSpec cluster namespaceName errors) := by
  apply Program.always_bind (always_publish hclock (fun clock r => hpatch clock _ r))
  intro _
  exact Program.always_then (always_sendMetric hmetric)

/-- The stages of an accepted spec. The autoscaler stage is switched off. -/
theorem renderSpec_eq (cluster : StreamlineCluster) (namespaceName : String) :
    renderSpec cluster namespaceName
      (desiredHpaConfig cluster.spec cluster.spec.validate.isOk) =
    (reconcileConfigmap cluster namespaceName).bind fun _ =>
      (reconcileHeadlessService cluster namespaceName).bind fun _ =>
        (reconcileClientService cluster namespaceName).bind fun _ =>
          (reconcileStatefulset cluster namespaceName).bind fun _ =>
            (updateStatus cluster namespaceName).bind fun _ =>
              (sendMetric .incSuccess).bind fun _ => .ok (.requeue 60) := by
  simp only [renderSpec, desiredHpaConfig_disabled, Program.when_false, Program.bind_eq,
    Program.ok_bind]
  rfl

theorem afterCleanup_always {P : ApiExchange → Prop}
    (hclock : ∀ clock, P ⟨.clock, clock⟩)
    (hmetric : ∀ event, P ⟨.metric event, ()⟩)
    (hlist : ∀ r, P ⟨.list .pod namespaceName (instanceSelector cluster), r⟩)
    (hpatch : ∀ body r, P ⟨.patchStatus .streamlineCluster namespaceName cluster.nameAny body, r⟩)
    (hwrites : cluster.spec.validate = .ok () →
      Always P (reconcileConfigmap cluster namespaceName) ∧
      Always P (reconcileHeadlessService cluster namespaceName) ∧
      Always P (reconcileClientService cluster namespaceName) ∧
      Always P (reconcileStatefulset cluster namespaceName)) :
    Always P (afterCleanup cluster namespaceName) := by
  rw [afterCleanup]
  cases hvalid : cluster.spec.validate with
  | error errors =>
    exact rejectSpec_always hclock (fun _ _ r => hpatch _ r) (hmetric _)
  | ok u =>
    obtain ⟨hconfig, hheadless, hclient, hset⟩ := hwrites hvalid
    have heq := renderSpec_eq cluster namespaceName
    rw [hvalid] at heq
    simp only [heq]
    apply Program.always_bind hconfig
    intro _
    apply Program.always_bind hheadless
    intro _
    apply Program.always_bind hclient
    intro _
    apply Program.always_bind hset
    intro _
    apply Program.always_bind (updateStatus_always hlist hclock hpatch)
    intro _
    exact Program.always_then (always_sendMetric (hmetric _))

private theorem afterCleanup_disciplined :
    Always (Disciplined cluster) (afterCleanup cluster namespaceName) := by
  apply afterCleanup_always
  · exact fun clock => disciplined_of_quiet (.inl rfl) rfl
  · exact fun event => disciplined_of_quiet (.inl rfl) rfl
  · exact fun r => disciplined_of_quiet (.inl rfl) rfl
  · exact fun body r => disciplined_of_quiet (.inr ⟨_, rfl⟩) rfl
  · intro hvalid
    refine ⟨disciplined_getThenWrite hvalid (by decide) (by simp [Request.writtenStatefulSet]),
      disciplined_getThenWrite hvalid (by decide) (by simp [Request.writtenStatefulSet]),
      disciplined_getThenWrite hvalid (by decide) (by simp [Request.writtenStatefulSet]),
      disciplined_getThenWrite hvalid (by decide) ?_⟩
    intro object hobject
    obtain rfl := Option.some.inj hobject
    exact buildStatefulset_isStandalone namespaceName hvalid

private theorem not_isMutation {e : ApiExchange} (hwrite : e.request.isWorkloadWrite = false)
    (hstatus : e.request.isStatusPatch = false) : ¬ isMutation e := by
  simp [isMutation, hwrite, hstatus]

private theorem not_publishesHealthy {e : ApiExchange} (h : e.request.publishedPhase = none) :
    ¬ publishesHealthy e := by
  simp [publishesHealthy, h]

private theorem never_mutates_delete :
    Always (fun e => ¬ isMutation e) (AutoScalingController.deleteHpa cluster namespaceName) := by
  intro tr res h
  obtain ⟨r, rfl, -⟩ := AutoScalingController.runs_deleteHpa h
  rw [List.forall_mem_singleton]
  exact not_isMutation rfl rfl

private theorem never_mutates_finalizer :
    Always (fun e => ¬ isMutation e) (ensureFinalizer cluster namespaceName) := by
  apply always_ensureFinalizer
  exact fun _ => not_isMutation rfl rfl

private theorem publishedPhase_patchStatus (kind : Kind) (name : String)
    (status : Crd.ClusterStatus) :
    (Request.patchStatus kind namespaceName name (Crd.statusPatch status)).publishedPhase =
      some status.phase.text := by
  rfl

private theorem never_healthy_rejectSpec {errors : List String} :
    Always (fun e => ¬ publishesHealthy e) (rejectSpec cluster namespaceName errors) := by
  apply rejectSpec_always
  · exact fun _ => not_publishesHealthy rfl
  · rintro clock message r ⟨phase, hphase, hne⟩
    rw [publishedPhase_patchStatus] at hphase
    exact hne (Option.some.inj hphase).symm
  · exact not_publishesHealthy rfl

private theorem never_healthy_getThenWrite {kind : Kind} {name : String} {object : kind.Object} :
    Always (fun e => ¬ publishesHealthy e) (getThenWrite kind namespaceName name object) := by
  apply always_getThenWrite <;> exact fun _ => not_publishesHealthy rfl

private theorem afterCleanup_orders {early : ApiExchange → Prop}
    (h : Leaves early (reconcileConfigmap cluster namespaceName) ∨
      Leaves early (reconcileHeadlessService cluster namespaceName) ∨
      Leaves early (reconcileClientService cluster namespaceName) ∨
      Leaves early (reconcileStatefulset cluster namespaceName)) :
    Orders early publishesHealthy (afterCleanup cluster namespaceName) := by
  rw [afterCleanup]
  cases hvalid : cluster.spec.validate with
  | error errors => exact Program.orders_of_never never_healthy_rejectSpec
  | ok u =>
    have heq := renderSpec_eq cluster namespaceName
    rw [hvalid] at heq
    simp only [heq]
    rcases h with h | h | h | h
    · exact Program.orders_bind_leaves never_healthy_getThenWrite h
    · apply Program.orders_bind never_healthy_getThenWrite
      intro _
      exact Program.orders_bind_leaves never_healthy_getThenWrite h
    · apply Program.orders_bind never_healthy_getThenWrite
      intro _
      apply Program.orders_bind never_healthy_getThenWrite
      intro _
      exact Program.orders_bind_leaves never_healthy_getThenWrite h
    · apply Program.orders_bind never_healthy_getThenWrite
      intro _
      apply Program.orders_bind never_healthy_getThenWrite
      intro _
      apply Program.orders_bind never_healthy_getThenWrite
      intro _
      exact Program.orders_bind_leaves never_healthy_getThenWrite h

private theorem leaves_hasWritten {kind : Kind} {name : String} {object : kind.Object}
    (hname : kind.objectName object = name) :
    Leaves (hasWritten kind name) (getThenWrite kind namespaceName name object) := by
  apply leaves_getThenWrite
  · exact ⟨rfl, rfl⟩
  · exact ⟨by rw [Request.writtenObject, hname], rfl⟩

/-- The reconcile of a cluster that is not being deleted. -/
theorem reconcile_live_eq (hlive : cluster.metadata.deletionTimestamp = none) :
    reconcile cluster =
      (sendMetric (.incReconcile "cluster")).bind fun _ =>
        (ensureFinalizer cluster cluster.namespaceOrDefault).bind fun _ =>
          (AutoScalingController.deleteHpa cluster cluster.namespaceOrDefault).bind fun _ =>
            afterCleanup cluster cluster.namespaceOrDefault := by
  simp only [reconcile, hlive, Option.isSome_none, Bool.false_eq_true, if_false,
    reconcileLive_eq, Program.bind_eq]

private theorem reconcile_orders {early : ApiExchange → Prop}
    (hlive : cluster.metadata.deletionTimestamp = none)
    (h : Orders early publishesHealthy (afterCleanup cluster cluster.namespaceOrDefault)) :
    Orders early publishesHealthy (reconcile cluster) := by
  rw [reconcile_live_eq hlive]
  apply Program.orders_bind (always_sendMetric (not_publishesHealthy rfl))
  intro _
  refine Program.orders_bind
    (always_ensureFinalizer fun _ => not_publishesHealthy rfl) fun _ => ?_
  refine Program.orders_bind ?_ fun _ => h
  intro tr res hruns
  obtain ⟨r, rfl, -⟩ := AutoScalingController.runs_deleteHpa hruns
  rw [List.forall_mem_singleton]
  exact not_publishesHealthy rfl

private theorem reconcile_disciplined (hlive : cluster.metadata.deletionTimestamp = none) :
    Always (Disciplined cluster) (reconcile cluster) := by
  rw [reconcile_live_eq hlive]
  apply Program.always_bind (always_sendMetric (disciplined_of_quiet (.inl rfl) rfl))
  intro _
  refine Program.always_bind
    (always_ensureFinalizer fun _ => disciplined_of_quiet (.inr ⟨_, rfl⟩) rfl) fun _ => ?_
  refine Program.always_bind ?_ fun _ => afterCleanup_disciplined
  intro tr res hruns
  obtain ⟨r, rfl, -⟩ := AutoScalingController.runs_deleteHpa hruns
  rw [List.forall_mem_singleton]
  exact disciplined_of_quiet (.inl rfl) rfl

private theorem never_deletes_afterCleanup :
    Always (fun e => ∀ kind name, e.request.deletedObject ≠ some (kind, name))
      (afterCleanup cluster namespaceName) := by
  have hwrite : ∀ (kind : Kind) (name : String) (object : kind.Object),
      Always (fun e => ∀ kind name, e.request.deletedObject ≠ some (kind, name))
        (getThenWrite kind namespaceName name object) := by
    intro kind name object
    apply always_getThenWrite <;> simp [Request.deletedObject]
  apply afterCleanup_always
  · simp [Request.deletedObject]
  · simp [Request.deletedObject]
  · simp [Request.deletedObject]
  · simp [Request.deletedObject]
  · exact fun _ => ⟨hwrite _ _ _, hwrite _ _ _, hwrite _ _ _, hwrite _ _ _⟩

private theorem runs_reconcile_live {tr : List ApiExchange} {res : Except OperatorError Action}
    (hlive : cluster.metadata.deletionTimestamp = none)
    (h : Program.Runs (reconcile cluster) tr res) :
    ∃ fin, (∃ err, tr = ⟨.metric (.incReconcile "cluster"), ()⟩ :: fin ∧ res = .error err ∧
        Program.Runs (ensureFinalizer cluster cluster.namespaceOrDefault) fin (.error err)) ∨
      ∃ d rest, tr = ⟨.metric (.incReconcile "cluster"), ()⟩ :: (fin ++
          ⟨.delete .horizontalPodAutoscaler cluster.namespaceOrDefault
            (AutoScalingController.hpaName cluster), d⟩ :: rest) ∧
        Program.Runs (ensureFinalizer cluster cluster.namespaceOrDefault) fin (.ok ()) ∧
        ((rest = [] ∧ ∃ err, res = .error err) ∨
          (¬ ∃ e, d = .error e ∧ e.code ≠ some 404) ∧
            Program.Runs (afterCleanup cluster cluster.namespaceOrDefault) rest res) := by
  rw [reconcile_live_eq hlive] at h
  simp only [sendMetric, send, Program.send_bind, Program.runs_call] at h
  obtain ⟨w, tr', rfl, h⟩ := h
  rw [Program.runs_bind] at h
  rcases h with ⟨err, hfin, rfl⟩ | ⟨u, fin, tr₂, rfl, hfin, h⟩
  · exact ⟨tr', .inl ⟨err, rfl, rfl, hfin⟩⟩
  rw [Program.runs_bind] at h
  rcases h with ⟨err, hdelete, rfl⟩ | ⟨v, tr₃, rest, rfl, hdelete, h⟩
  · obtain ⟨d, rfl, -⟩ := AutoScalingController.runs_deleteHpa hdelete
    exact ⟨fin, .inr ⟨d, [], rfl, hfin, .inl ⟨rfl, err, rfl⟩⟩⟩
  · obtain ⟨d, rfl, hd⟩ := AutoScalingController.runs_deleteHpa hdelete
    refine ⟨fin, .inr ⟨d, rest, rfl, hfin, .inr ⟨?_, h⟩⟩⟩
    intro hfail
    obtain ⟨e, he⟩ := hd.mpr hfail
    cases he

private theorem finalizer_quiet {fin : List ApiExchange} {res : Except OperatorError Unit}
    (h : Program.Runs (ensureFinalizer cluster namespaceName) fin res) :
    ∀ e ∈ fin, ¬ isMutation e ∧ ∀ kind name, e.request.deletedObject ≠ some (kind, name) := by
  have hdeletes : Always (fun e => ∀ kind name, e.request.deletedObject ≠ some (kind, name))
      (ensureFinalizer cluster namespaceName) := by
    apply always_ensureFinalizer
    simp [Request.deletedObject]
  exact fun e he => ⟨never_mutates_finalizer fin _ h e he, hdeletes fin _ h e he⟩

private theorem reconcile_hpaDeleteIssued {tr : List ApiExchange}
    {res : Except OperatorError Action} (hlive : cluster.metadata.deletionTimestamp = none)
    (h : Program.Runs (reconcile cluster) tr res)
    (hfinalizer : Conditions.clusterFinalizer ∈ cluster.metadata.finalizerList ∨
      ∃ e ∈ tr, appliesFinalizer cluster e ∧ succeeded e = true) :
    ∃ e ∈ tr, deletesHpa cluster e := by
  obtain ⟨fin, ⟨err, rfl, rfl, hfin⟩ | ⟨d, rest, rfl, -, -⟩⟩ := runs_reconcile_live hlive h
  · exfalso
    rcases runs_ensureFinalizer hfin with ⟨-, -, hres⟩ | ⟨hmissing, r, rfl, hr⟩
    · cases hres
    rcases hfinalizer with hpresent | ⟨e, he, happlies, hok⟩
    · exact hmissing hpresent
    · rcases List.mem_cons.mp he with rfl | he
      · cases happlies
      · obtain rfl := List.mem_singleton.mp he
        cases hr.mp hok
  · exact ⟨⟨.delete .horizontalPodAutoscaler cluster.namespaceOrDefault
      (AutoScalingController.hpaName cluster), d⟩, by simp, rfl⟩

private theorem reconcile_hpaDeleteFailure {tr : List ApiExchange}
    {res : Except OperatorError Action} (hlive : cluster.metadata.deletionTimestamp = none)
    (h : Program.Runs (reconcile cluster) tr res) {name : String} {error : KubeError}
    (hmem : ⟨.delete .horizontalPodAutoscaler namespaceName name, .error error⟩ ∈ tr)
    (hcode : error.code ≠ some 404) : (∃ e, res = .error e) ∧ ∀ e ∈ tr, ¬ isMutation e := by
  have hmetric : ¬ isMutation ⟨.metric (.incReconcile "cluster"), ()⟩ := not_isMutation rfl rfl
  obtain ⟨fin, ⟨err, rfl, rfl, hfin⟩ | ⟨d, rest, rfl, hfin, hrest⟩⟩ := runs_reconcile_live hlive h
  · refine ⟨⟨err, rfl⟩, ?_⟩
    rw [List.forall_mem_cons]
    exact ⟨hmetric, fun e he => (finalizer_quiet hfin e he).1⟩
  have hdelete : ¬ isMutation ⟨.delete .horizontalPodAutoscaler cluster.namespaceOrDefault
      (AutoScalingController.hpaName cluster), d⟩ := not_isMutation rfl rfl
  rcases hrest with ⟨rfl, err, rfl⟩ | ⟨hfine, hrest⟩
  · refine ⟨⟨err, rfl⟩, ?_⟩
    simp only [List.forall_mem_cons, List.forall_mem_append]
    exact ⟨hmetric, fun e he => (finalizer_quiet hfin e he).1, hdelete, by simp⟩
  · -- The failed delete of the trace cannot be the one that let the run go on.
    exfalso
    simp only [List.mem_cons, List.mem_append] at hmem
    rcases hmem with hmem | hmem | hmem | hmem
    · cases hmem
    · exact (finalizer_quiet hfin _ hmem).2 _ _ rfl
    · cases hmem
      exact hfine ⟨error, rfl, hcode⟩
    · exact never_deletes_afterCleanup rest res hrest _ hmem _ _ rfl

private theorem reconcile_hpaDeleteFirst {tr : List ApiExchange}
    {res : Except OperatorError Action} (hlive : cluster.metadata.deletionTimestamp = none)
    (h : Program.Runs (reconcile cluster) tr res) : Precedes (deletesHpa cluster) isMutation tr := by
  have horders : Orders (deletesHpa cluster) isMutation (reconcile cluster) := by
    rw [reconcile_live_eq hlive]
    apply Program.orders_bind (always_sendMetric (not_isMutation rfl rfl))
    intro _
    apply Program.orders_bind never_mutates_finalizer
    intro _
    refine Program.orders_bind_leaves never_mutates_delete ?_
    intro tr a hruns
    obtain ⟨r, rfl, -⟩ := AutoScalingController.runs_deleteHpa hruns
    exact ⟨_, List.mem_singleton_self _, rfl⟩
  exact horders tr res h

private theorem reconcile_finalizerFirst {tr : List ApiExchange}
    {res : Except OperatorError Action} (hlive : cluster.metadata.deletionTimestamp = none)
    (hmissing : Conditions.clusterFinalizer ∉ cluster.metadata.finalizerList)
    (h : Program.Runs (reconcile cluster) tr res) :
    Precedes (fun e => appliesFinalizer cluster e ∧ succeeded e = true) (deletesHpa cluster) tr := by
  have horders : Orders (fun e => appliesFinalizer cluster e ∧ succeeded e = true)
      (deletesHpa cluster) (reconcile cluster) := by
    rw [reconcile_live_eq hlive]
    apply Program.orders_bind (always_sendMetric (by simp [deletesHpa]))
    intro _
    refine Program.orders_bind_leaves (always_ensureFinalizer (by simp [deletesHpa])) ?_
    intro tr a hruns
    rcases runs_ensureFinalizer hruns with ⟨hpresent, -, -⟩ | ⟨-, r, rfl, hr⟩
    · exact absurd hpresent hmissing
    · exact ⟨_, List.mem_singleton_self _, rfl, hr.mpr rfl⟩
  exact horders tr res h

/-- Every run of the reconcile is a safe one, whatever the calls return. -/
theorem reconcile_safe (cluster : StreamlineCluster)
    (hlive : cluster.metadata.deletionTimestamp = none) (tr : List ApiExchange)
    (res : Except OperatorError Action) (h : Program.Runs (reconcile cluster) tr res) :
    SafeRun cluster tr res where
  validated e he := (reconcile_disciplined hlive tr res h e he).1
  standalone e he := (reconcile_disciplined hlive tr res h e he).2.1
  noHpaWrite e he := (reconcile_disciplined hlive tr res h e he).2.2
  hpaDeleteIssued := reconcile_hpaDeleteIssued hlive h
  finalizerFirst hmissing := reconcile_finalizerFirst hlive hmissing h
  hpaDeleteFirst := reconcile_hpaDeleteFirst hlive h
  hpaDeleteFailure _ _ _ := reconcile_hpaDeleteFailure hlive h
  configMapFirst :=
    reconcile_orders hlive (afterCleanup_orders (.inl (leaves_hasWritten rfl))) tr res h
  headlessServiceFirst :=
    reconcile_orders hlive (afterCleanup_orders (.inr (.inl (leaves_hasWritten rfl)))) tr res h
  clientServiceFirst := reconcile_orders hlive
    (afterCleanup_orders (.inr (.inr (.inl (leaves_hasWritten rfl))))) tr res h
  statefulSetFirst := reconcile_orders hlive
    (afterCleanup_orders (.inr (.inr (.inr (leaves_hasWritten rfl))))) tr res h

/-- A cluster with every setting at its default, before its first reconcile. -/
def freshCluster (name : String) : StreamlineCluster where
  metadata := { name := some name, namespaceName := some "streamline", uid := some "1" }
  spec := {}
  status := none

/-- The first reconcile of a fresh cluster: a safe run of fifteen exchanges that
ends well. -/
theorem reconcile_safe_freshCluster :
    SafeRun (freshCluster "demo") ((reconcile (freshCluster "demo")).answer emptyServer).1
        ((reconcile (freshCluster "demo")).answer emptyServer).2 ∧
      ((reconcile (freshCluster "demo")).answer emptyServer).1.length = 15 ∧
      ((reconcile (freshCluster "demo")).answer emptyServer).2 = .ok (.requeue 60) :=
  ⟨reconcile_safe (freshCluster "demo") rfl _ _ (Program.runs_answer emptyServer _),
    by decide, by decide⟩

end ClusterController

end StreamlineOperator.Controllers
