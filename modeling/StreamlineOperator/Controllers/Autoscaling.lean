/- source: src/src/controllers/autoscaling.rs
   digest: The HorizontalPodAutoscaler of a cluster: rendering it, and applying or deleting it. -/

import StreamlineOperator.Kubernetes.Api

set_option autoImplicit false
set_option relaxedAutoImplicit false

namespace StreamlineOperator.Controllers

open Foundation
open Kubernetes
open Crd (StreamlineCluster)

structure MetricTargetSpec where
  type : String
  value : Option String := none
  averageValue : Option String := none
  averageUtilization : Option Int32 := none
  deriving DecidableEq, Repr

structure CustomMetric where
  name : String
  metricType : String
  target : MetricTargetSpec
  deriving DecidableEq, Repr

structure ScalingPolicy where
  type : String
  value : Int32
  periodSeconds : Int32
  deriving DecidableEq, Repr

structure ScalingRules where
  stabilizationWindowSeconds : Option Int32 := none
  selectPolicy : Option String := none
  policies : List ScalingPolicy := []
  deriving DecidableEq, Repr

structure ScalingBehavior where
  scaleUp : Option ScalingRules := none
  scaleDown : Option ScalingRules := none
  deriving DecidableEq, Repr

/-- The field defaults are those of the derived `Default`, not of the schema. -/
structure AutoScalingConfig where
  enabled : Bool := false
  minReplicas : Int32 := 0
  maxReplicas : Int32 := 0
  targetCpuUtilization : Int32 := 0
  targetMemoryUtilization : Int32 := 0
  customMetrics : List CustomMetric := []
  behavior : Option ScalingBehavior := none
  partitionAware : Bool := false
  targetLagPerPartition : Int64 := 0
  targetMessagesPerSecond : Int64 := 0
  deriving DecidableEq, Repr

/-- What reconciling a configuration does to the cluster's autoscaler. -/
inductive HpaAction where
  | apply
  | delete
  deriving DecidableEq, Repr

def hpaAction (autoscaling : AutoScalingConfig) : HpaAction :=
  if autoscaling.enabled then .apply else .delete

/-- How a failed delete is treated. -/
inductive DeleteOutcome where
  | gone
  | propagate
  deriving DecidableEq, Repr

def classifyDeleteError (error : KubeError) : DeleteOutcome :=
  if error.code = some 404 then .gone else .propagate

namespace AutoScalingController

def commonLabels (cluster : StreamlineCluster) : StringMap :=
  ((((∅ : StringMap).insert "app.kubernetes.io/name" "streamline").insert
    "app.kubernetes.io/instance" cluster.nameAny).insert
    "app.kubernetes.io/managed-by" "streamline-operator").insert
    "app.kubernetes.io/component" "autoscaling"

def ownerReference (cluster : StreamlineCluster) : OwnerReference where
  apiVersion := "streamline.io/v1alpha1"
  kind := "StreamlineCluster"
  name := cluster.nameAny
  uid := cluster.metadata.uid.getD ""
  controller := some true
  blockOwnerDeletion := some true

def hpaName (cluster : StreamlineCluster) : String := cluster.nameAny ++ "-hpa"

def buildMetricTarget (target : MetricTargetSpec) : MetricTarget where
  type := target.type
  value := target.value
  averageValue := target.averageValue
  averageUtilization := target.averageUtilization

/-- Any type but `External` is built as a `Pods` metric. -/
def buildCustomMetric (custom : CustomMetric) : MetricSpec :=
  let source : IdentifiedMetricSource :=
    { metric := { name := custom.name }, target := buildMetricTarget custom.target }
  if custom.metricType = "External" then { type := "External", external := some source }
  else { type := "Pods", pods := some source }

/-- A utilization target for one resource. -/
def resourceMetric (name : String) (utilization : Int32) : MetricSpec where
  type := "Resource"
  resource := some
    { name := name
      target := { type := "Utilization", averageUtilization := some utilization } }

/-- An average target for one of the broker's own metrics. -/
def podsMetric (name : String) (averageValue : Int64) : MetricSpec where
  type := "Pods"
  pods := some
    { metric := { name := name }
      target := { type := "AverageValue", averageValue := some (toString averageValue) } }

def buildScalingRules (rules : ScalingRules) : HpaScalingRules where
  stabilizationWindowSeconds := rules.stabilizationWindowSeconds
  selectPolicy := rules.selectPolicy
  policies :=
    if rules.policies.isEmpty then none
    else some (rules.policies.map (fun p => ⟨p.type, p.value, p.periodSeconds⟩))

def buildBehavior (behavior : ScalingBehavior) : HorizontalPodAutoscalerBehavior where
  scaleUp := behavior.scaleUp.map buildScalingRules
  scaleDown := behavior.scaleDown.map buildScalingRules

def buildHpa (cluster : StreamlineCluster) (namespaceName : String)
    (autoscaling : AutoScalingConfig) : HorizontalPodAutoscaler where
  metadata :=
    { name := some (hpaName cluster)
      namespaceName := some namespaceName
      labels := some (commonLabels cluster)
      ownerReferences := some [ownerReference cluster] }
  spec := some
    { scaleTargetRef :=
        { apiVersion := some "apps/v1", kind := "StatefulSet", name := cluster.nameAny }
      minReplicas := some autoscaling.minReplicas
      maxReplicas := autoscaling.maxReplicas
      metrics := some
        ([resourceMetric "cpu" autoscaling.targetCpuUtilization,
            resourceMetric "memory" autoscaling.targetMemoryUtilization] ++
          autoscaling.customMetrics.map buildCustomMetric ++
          if autoscaling.partitionAware then
            [podsMetric "streamline_consumer_lag" autoscaling.targetLagPerPartition,
              podsMetric "streamline_messages_per_second" autoscaling.targetMessagesPerSecond]
          else [])
      behavior := autoscaling.behavior.map buildBehavior }

/-- A missing autoscaler is success. Every other failure is propagated. -/
def deleteHpa (cluster : StreamlineCluster) (namespaceName : String) : Operation Unit := do
  match ← send (.delete .horizontalPodAutoscaler namespaceName (hpaName cluster)) with
  | .ok _ => return ()
  | .error e =>
    match classifyDeleteError e with
    | .gone => return ()
    | .propagate =>
      .err (.kubeApi ("failed to delete HPA " ++ hpaName cluster ++ " in namespace " ++
        namespaceName ++ ": " ++ e.text))

def reconcileHpa (cluster : StreamlineCluster) (namespaceName : String)
    (autoscaling : AutoScalingConfig) : Operation Unit := do
  if hpaAction autoscaling = .delete then
    deleteHpa cluster namespaceName
  else
    getThenWrite .horizontalPodAutoscaler namespaceName (hpaName cluster)
      (buildHpa cluster namespaceName autoscaling)

/-- A delete is one call, and fails exactly on an error other than 404. -/
theorem runs_deleteHpa {cluster : StreamlineCluster} {namespaceName : String}
    {tr : List ApiExchange} {res : Except OperatorError Unit}
    (h : Program.Runs (deleteHpa cluster namespaceName) tr res) :
    ∃ r, tr = [⟨.delete .horizontalPodAutoscaler namespaceName (hpaName cluster), r⟩] ∧
      ((∃ e, res = .error e) ↔ ∃ e, r = .error e ∧ e.code ≠ some 404) := by
  simp only [deleteHpa, send, Program.bind_eq, Program.send_bind, Program.runs_call] at h
  obtain ⟨r, tr', rfl, h⟩ := h
  refine ⟨r, ?_⟩
  cases r with
  | ok a =>
    simp only [Program.pure_eq, Program.runs_ok] at h
    obtain ⟨rfl, rfl⟩ := h
    simp
  | error e =>
    by_cases hcode : e.code = some 404
    · simp only [classifyDeleteError, if_pos hcode, Program.pure_eq, Program.runs_ok] at h
      obtain ⟨rfl, rfl⟩ := h
      simp [hcode]
    · simp only [classifyDeleteError, if_neg hcode, Program.runs_err] at h
      obtain ⟨rfl, rfl⟩ := h
      simp [hcode]

end AutoScalingController

end StreamlineOperator.Controllers
