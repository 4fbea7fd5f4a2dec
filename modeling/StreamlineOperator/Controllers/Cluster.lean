/- source: src/src/controllers/cluster.rs (reconcile, deletion, status updates)
   digest: The cluster reconcile as a sequence of calls, and what every run of it does. -/

import StreamlineOperator.Controllers.Autoscaling
import StreamlineOperator.Controllers.ClusterRender
import StreamlineOperator.Controllers.StatusPublication

set_option autoImplicit false
set_option relaxedAutoImplicit false

namespace StreamlineOperator.Controllers

open Foundation
open Kubernetes
open Conditions
open Crd (ClusterSpec ClusterPhase StreamlineCluster)

namespace ClusterController

/-- Decide what to do about this cluster's autoscaler. Only a block that is both
enabled and accepted results in one; everything else is a cleanup. -/
def desiredHpaConfig (spec : ClusterSpec) (specIsValid : Bool) : AutoScalingConfig :=
  match spec.autoscaling with
  | none => { enabled := false }
  | some autoscaling =>
    { enabled := autoscaling.enabled && specIsValid
      minReplicas := autoscaling.minReplicas
      maxReplicas := autoscaling.maxReplicas
      targetCpuUtilization := autoscaling.targetCpuUtilization
      targetMemoryUtilization := autoscaling.targetMemoryUtilization
      partitionAware := autoscaling.partitionAware
      targetLagPerPartition := autoscaling.targetLagPerPartition
      targetMessagesPerSecond := autoscaling.targetMessagesPerSecond }

def reconcileAutoscaling (cluster : StreamlineCluster) (namespaceName : String)
    (config : AutoScalingConfig) : Operation Unit :=
  AutoScalingController.reconcileHpa cluster namespaceName config

def ensureFinalizer (cluster : StreamlineCluster) (namespaceName : String) : Operation Unit :=
  Kubernetes.ensureFinalizer .streamlineCluster clusterFinalizer cluster.metadata namespaceName

/-- The selector both list queries use. -/
def instanceSelector (cluster : StreamlineCluster) : String :=
  "app.kubernetes.io/instance=" ++ cluster.nameAny

/-- Delete one listed claim, whatever comes of it. -/
def deleteClaim (namespaceName : String) (pvc : PersistentVolumeClaim) : Operation Unit := do
  match pvc.metadata.name with
  | some pvcName =>
    let _ ← send (.delete .persistentVolumeClaim namespaceName pvcName)
    return ()
  | none => return ()

/-- Delete the listed claims, ignoring failures, and take the finalizer out. -/
def handleDeletion (cluster : StreamlineCluster) (namespaceName : String) : Operation Action := do
  let pvcList ← orKubeApi
    (← send (.list .persistentVolumeClaim namespaceName (instanceSelector cluster)))
  Program.forEach pvcList (deleteClaim namespaceName)
  removeFinalizer .streamlineCluster clusterFinalizer cluster.metadata namespaceName
  return .awaitChange

def reconcileConfigmap (cluster : StreamlineCluster) (namespaceName : String) : Operation Unit :=
  getThenWrite .configMap namespaceName (cluster.nameAny ++ "-config")
    (buildConfigmap cluster namespaceName)

def reconcileHeadlessService (cluster : StreamlineCluster) (namespaceName : String) :
    Operation Unit :=
  getThenWrite .service namespaceName (cluster.nameAny ++ "-headless")
    (headlessService cluster namespaceName)

def reconcileClientService (cluster : StreamlineCluster) (namespaceName : String) :
    Operation Unit :=
  getThenWrite .service namespaceName cluster.nameAny (clientService cluster namespaceName)

def reconcileStatefulset (cluster : StreamlineCluster) (namespaceName : String) :
    Operation Unit :=
  getThenWrite .statefulSet namespaceName cluster.nameAny (buildStatefulset cluster namespaceName)

def updateStatusInvalid (cluster : StreamlineCluster) (namespaceName message : String) :
    Operation Unit :=
  publish .streamlineCluster cluster namespaceName
    (fun clock cluster => invalidStatus clock cluster message)

def isReadyPod (pod : Pod) : Bool :=
  pod.status.any fun status =>
    status.conditions.any fun conditions =>
      conditions.any (fun c => c.type = "Ready" && c.status = "True")

/-- The pods that are counted, of those listed. -/
def readyPods (items : List Pod) : List Pod := items.filter isReadyPod

def updateStatus (cluster : StreamlineCluster) (namespaceName : String) : Operation Unit := do
  let podList ← orKubeApi (← send (.list .pod namespaceName (instanceSelector cluster)))
  let readyCount := Int32.ofNat (readyPods podList).length
  publish .streamlineCluster cluster namespaceName
    (fun clock cluster => observedStatus clock cluster namespaceName readyCount)

/-- What a reconcile does for a rejected spec. -/
def rejectSpec (cluster : StreamlineCluster) (namespaceName : String) (errors : List String) :
    Operation Action := do
  updateStatusInvalid cluster namespaceName ("; ".intercalate errors)
  sendMetric (.incError "cluster")
  return .requeue 300

/-- What a reconcile does for an accepted spec. -/
def renderSpec (cluster : StreamlineCluster) (namespaceName : String)
    (hpaConfig : AutoScalingConfig) : Operation Action := do
  reconcileConfigmap cluster namespaceName
  reconcileHeadlessService cluster namespaceName
  reconcileClientService cluster namespaceName
  reconcileStatefulset cluster namespaceName
  Program.when hpaConfig.enabled (reconcileAutoscaling cluster namespaceName hpaConfig)
  updateStatus cluster namespaceName
  sendMetric .incSuccess
  return .requeue 60

/-- Reconcile a cluster that is not being deleted. -/
def reconcileLive (cluster : StreamlineCluster) (namespaceName : String) : Operation Action := do
  ensureFinalizer cluster namespaceName
  let validation := cluster.spec.validate
  let hpaConfig := desiredHpaConfig cluster.spec validation.isOk
  Program.when (!hpaConfig.enabled) (reconcileAutoscaling cluster namespaceName hpaConfig)
  match validation with
  | .error errors => rejectSpec cluster namespaceName errors
  | .ok _ => renderSpec cluster namespaceName hpaConfig

def reconcile (cluster : StreamlineCluster) : Operation Action := do
  sendMetric (.incReconcile "cluster")
  if cluster.metadata.deletionTimestamp.isSome then
    handleDeletion cluster cluster.namespaceOrDefault
  else
    reconcileLive cluster cluster.namespaceOrDefault

section Rules

variable {P : ApiExchange → Prop} {namespaceName : String}

theorem always_deleteClaim {pvc : PersistentVolumeClaim}
    (h : ∀ name, pvc.metadata.name = some name →
      ∀ r, P ⟨.delete .persistentVolumeClaim namespaceName name, r⟩) :
    Program.Always P (deleteClaim namespaceName pvc) := by
  unfold deleteClaim
  cases hname : pvc.metadata.name with
  | none => exact Program.always_ok ()
  | some name => exact Program.always_call (h name hname) (fun _ => Program.always_ok ())

theorem always_handleDeletion {cluster : StreamlineCluster}
    (hlist : ∀ r, P ⟨.list .persistentVolumeClaim namespaceName (instanceSelector cluster), r⟩)
    (hdelete : ∀ name r, P ⟨.delete .persistentVolumeClaim namespaceName name, r⟩)
    (hpatch : ∀ r, P ⟨.mergePatch .streamlineCluster namespaceName cluster.metadata.nameAny
      (finalizersPatch (cluster.metadata.finalizerList.filter (fun f => f ≠ clusterFinalizer))),
      r⟩) :
    Program.Always P (handleDeletion cluster namespaceName) := by
  refine Program.always_send_bind hlist ?_
  intro listed
  refine Program.always_bind (always_orKubeApi listed) ?_
  intro pvcs
  have hclaims : Program.Always P (Program.forEach pvcs (deleteClaim namespaceName)) :=
    Program.always_forEach fun pvc _ => always_deleteClaim fun name _ => hdelete name
  refine Program.always_bind hclaims ?_
  intro _
  exact Program.always_then (always_removeFinalizer hpatch)

end Rules

end ClusterController

end StreamlineOperator.Controllers
