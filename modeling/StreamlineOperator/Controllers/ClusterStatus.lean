/- source: src/src/controllers/cluster.rs (status builders)
   digest: The statuses of a cluster: rejected spec, and observed broker count. -/

import StreamlineOperator.Controllers.StatusHistory
import StreamlineOperator.Crd.Resource

set_option autoImplicit false
set_option relaxedAutoImplicit false

namespace StreamlineOperator.Controllers

open Conditions
open Crd

instance : PublishedStatus ClusterStatus where
  conditions := ClusterStatus.conditions
  lastUpdated := ClusterStatus.lastUpdated
  setLastUpdated s t := { s with lastUpdated := t }
  conditions_setLastUpdated _ _ := rfl
  lastUpdated_setLastUpdated _ _ := rfl
  setLastUpdated_setLastUpdated _ _ _ := rfl
  setLastUpdated_lastUpdated _ := rfl

namespace ClusterController

def seededConditions (cluster : StreamlineCluster) : List ConditionFields :=
  Controllers.seededConditions cluster.status

def withStableTimestamp (now : String) (cluster : StreamlineCluster) (status : ClusterStatus) :
    ClusterStatus :=
  Controllers.withStableTimestamp cluster.status status now

/-- Conditions published when a spec fails validation. -/
def invalidSpecConditions (clock : Clock) (cluster : StreamlineCluster) (message : String) :
    List ConditionFields :=
  let fields := seededConditions cluster
  let fields := setCondition fields
    (buildCondition (clock 0) clusterConditionReady conditionFalse "InvalidSpec" message)
  let fields := setCondition fields
    (buildCondition (clock 1) clusterConditionAvailable conditionFalse "InvalidSpec" message)
  let fields := setCondition fields
    (buildCondition (clock 2) clusterConditionProgressing conditionFalse "InvalidSpec"
      "Reconciliation is blocked until the spec is corrected")
  setCondition fields
    (buildCondition (clock 3) clusterConditionDegraded conditionTrue "InvalidSpec" message)

/-- The status published for a spec that failed validation. -/
def invalidStatus (clock : Clock) (cluster : StreamlineCluster) (message : String) :
    ClusterStatus :=
  withStableTimestamp (clock 4) cluster
    { phase := .failed
      readyReplicas := 0
      replicas := cluster.spec.replicas
      leaderId := none
      brokerEndpoints := []
      conditions := invalidSpecConditions clock cluster message
      observedGeneration := cluster.metadata.generation
      lastUpdated := none }

def observedPhase (readyCount desired : Int32) : ClusterPhase :=
  if readyCount = desired then .running
  else if readyCount > 0 then .scaling
  else .pending

/-- One address per desired broker. -/
def brokerEndpoints (cluster : StreamlineCluster) (namespaceName : String) : List String :=
  let name := cluster.nameAny
  (List.range cluster.spec.replicas.toInt.toNat).map fun i =>
    name ++ "-" ++ toString i ++ "." ++ name ++ "-headless." ++ namespaceName ++ ".svc:" ++
      toString cluster.spec.kafkaPort

def readyReport (readyCount desired : Int32) : Report where
  conditionType := clusterConditionReady
  status := if readyCount = desired then conditionTrue else conditionFalse
  reason := if readyCount = desired then "AllBrokersReady" else "BrokersNotReady"
  message := toString readyCount ++ "/" ++ toString desired ++ " brokers ready"

/-- At least one broker is ready. -/
def availableReport (readyCount : Int32) : Report :=
  if readyCount > 0 then
    ⟨clusterConditionAvailable, conditionTrue, "MinimumAvailable",
      toString readyCount ++ " broker(s) available"⟩
  else
    ⟨clusterConditionAvailable, conditionFalse, "NoBrokersAvailable", "No brokers are available"⟩

/-- Rolling out or scaling. -/
def progressingReport (readyCount desired : Int32) : Report :=
  if readyCount < desired then
    ⟨clusterConditionProgressing, conditionTrue, "ScalingUp",
      "Scaling from " ++ toString readyCount ++ " to " ++ toString desired ++ " replicas"⟩
  else if readyCount > desired then
    ⟨clusterConditionProgressing, conditionTrue, "ScalingDown",
      "Scaling down from " ++ toString readyCount ++ " to " ++ toString desired ++ " replicas"⟩
  else
    ⟨clusterConditionProgressing, conditionFalse, "UpToDate", "All replicas are up to date"⟩

/-- False only at the exact desired count. -/
def degradedReport (readyCount desired : Int32) : Report :=
  if readyCount = desired then
    ⟨clusterConditionDegraded, conditionFalse, "Healthy", "Cluster is healthy"⟩
  else if readyCount = 0 then
    ⟨clusterConditionDegraded, conditionTrue, "NoBrokersReady",
      "No brokers are ready (0/" ++ toString desired ++ ")"⟩
  else if readyCount < desired then
    ⟨clusterConditionDegraded, conditionTrue, "PartiallyReady",
      "Only " ++ toString readyCount ++ "/" ++ toString desired ++ " brokers ready"⟩
  else
    ⟨clusterConditionDegraded, conditionTrue, "TooManyReadyBrokers",
      toString readyCount ++ "/" ++ toString desired ++ " brokers ready; expected exactly " ++
        toString desired⟩

/-- The status for an observed broker count. -/
def observedStatus (clock : Clock) (cluster : StreamlineCluster) (namespaceName : String)
    (readyCount : Int32) : ClusterStatus :=
  let desired := cluster.spec.replicas
  let condFields := seededConditions cluster
  let condFields := setCondition condFields ((readyReport readyCount desired).stamp (clock 0))
  let condFields := setCondition condFields ((availableReport readyCount).stamp (clock 1))
  let condFields := setCondition condFields
    ((progressingReport readyCount desired).stamp (clock 2))
  let condFields := setCondition condFields ((degradedReport readyCount desired).stamp (clock 3))
  withStableTimestamp (clock 4) cluster
    { phase := observedPhase readyCount desired
      readyReplicas := readyCount
      replicas := desired
      leaderId := none
      brokerEndpoints := brokerEndpoints cluster namespaceName
      conditions := condFields
      observedGeneration := cluster.metadata.generation
      lastUpdated := none }

def managedTypes : List String :=
  [clusterConditionReady, clusterConditionAvailable, clusterConditionProgressing,
    clusterConditionDegraded]

/-- The builders of a cluster status, with what each is called with. -/
inductive Build where
  | invalid (message : String)
  | observed (namespaceName : String) (readyCount : Int32)

namespace Build

def build (self : Build) (clock : Clock) (cluster : StreamlineCluster) : ClusterStatus :=
  match self with
  | invalid message => invalidStatus clock cluster message
  | observed namespaceName readyCount => observedStatus clock cluster namespaceName readyCount

def reports (cluster : StreamlineCluster) : Build → List Report
  | invalid message =>
    [⟨clusterConditionReady, conditionFalse, "InvalidSpec", message⟩,
      ⟨clusterConditionAvailable, conditionFalse, "InvalidSpec", message⟩,
      ⟨clusterConditionProgressing, conditionFalse, "InvalidSpec",
        "Reconciliation is blocked until the spec is corrected"⟩,
      ⟨clusterConditionDegraded, conditionTrue, "InvalidSpec", message⟩]
  | observed _ readyCount =>
    [readyReport readyCount cluster.spec.replicas, availableReport readyCount,
      progressingReport readyCount cluster.spec.replicas,
      degradedReport readyCount cluster.spec.replicas]

def body (cluster : StreamlineCluster) (self : Build) (conditions : List ConditionFields) :
    ClusterStatus :=
  match self with
  | invalid _ =>
    { phase := .failed, replicas := cluster.spec.replicas, conditions,
      observedGeneration := cluster.metadata.generation }
  | observed namespaceName readyCount =>
    { phase := observedPhase readyCount cluster.spec.replicas, readyReplicas := readyCount,
      replicas := cluster.spec.replicas, brokerEndpoints := brokerEndpoints cluster namespaceName,
      conditions, observedGeneration := cluster.metadata.generation }

theorem reports_types (cluster : StreamlineCluster) (self : Build) :
    (self.reports cluster).map Report.conditionType = managedTypes := by
  cases self with
  | invalid message => rfl
  | observed namespaceName readyCount =>
    have havailable : (availableReport readyCount).conditionType = clusterConditionAvailable := by
      unfold availableReport
      split <;> rfl
    have hprogressing : (progressingReport readyCount cluster.spec.replicas).conditionType =
        clusterConditionProgressing := by
      unfold progressingReport
      split
      · rfl
      · split <;> rfl
    have hdegraded : (degradedReport readyCount cluster.spec.replicas).conditionType =
        clusterConditionDegraded := by
      unfold degradedReport
      split
      · rfl
      · split
        · rfl
        · split <;> rfl
    simp only [reports, List.map_cons, List.map_nil, havailable, hprogressing, hdegraded]
    rfl

/-- Each builder is a status build over the stored status. -/
def statusBuild (cluster : StreamlineCluster) (self : Build) : StatusBuild ClusterStatus where
  reports := self.reports cluster
  keeps _ := true
  body := self.body cluster
  types_nodup := by
    rw [reports_types]
    decide
  keeps_types _ _ := rfl
  conditions_body _ := by cases self <;> rfl
  lastUpdated_body _ := by cases self <;> rfl

theorem build_eq_run (self : Build) (clock : Clock) (cluster : StreamlineCluster) :
    self.build clock cluster = (self.statusBuild cluster).run clock cluster.status := by
  have hseed : (Controllers.seededConditions cluster.status).filter (fun _ => true) =
      Controllers.seededConditions cluster.status := by simp
  cases self <;>
    · rw [StatusBuild.run, StatusBuild.conditions]
      simp only [statusBuild, hseed]
      rfl

theorem statusBuild_types (cluster : StreamlineCluster) (self : Build) :
    (self.statusBuild cluster).types = managedTypes :=
  self.reports_types cluster

end Build

end ClusterController

end StreamlineOperator.Controllers
