/- source: src/src/controllers/topic.rs (server state and status builders)
   digest: What a server reports about a topic, its comparison with the spec, and the topic statuses. -/

import StreamlineOperator.Controllers.StatusHistory
import StreamlineOperator.Crd.Resource

set_option autoImplicit false
set_option relaxedAutoImplicit false

namespace StreamlineOperator.Controllers

open Conditions
open Crd

instance : PublishedStatus TopicStatus where
  conditions := TopicStatus.conditions
  lastUpdated := TopicStatus.lastUpdated
  setLastUpdated s t := { s with lastUpdated := t }
  conditions_setLastUpdated _ _ := rfl
  lastUpdated_setLastUpdated _ _ := rfl
  setLastUpdated_setLastUpdated _ _ _ := rfl
  setLastUpdated_lastUpdated _ := rfl

/-- State the Streamline server reports for a topic. -/
structure TopicServerState where
  partitions : Option Int32 := none
  replicationFactor : Option Int32 := none
  deriving DecidableEq, Repr

namespace TopicServerState

def isEmpty (self : TopicServerState) : Bool :=
  self.partitions.isNone && self.replicationFactor.isNone

def isFullyReported (self : TopicServerState) : Bool :=
  self.partitions.isSome && self.replicationFactor.isSome

end TopicServerState

/-- Outcome of comparing the desired spec with what the server reported. -/
inductive SyncOutcome where
  | inSync (state : TopicServerState)
  | drift (message : String)
  | unverified
  deriving DecidableEq, Repr

def partitionsDrift (spec : TopicSpec) (state : TopicServerState) : List String :=
  match state.partitions with
  | some partitions =>
    if partitions ≠ spec.partitions then
      ["server reports " ++ toString partitions ++ " partitions, spec requests " ++
        toString spec.partitions]
    else []
  | none => []

def replicationFactorDrift (spec : TopicSpec) (state : TopicServerState) : List String :=
  match state.replicationFactor with
  | some rf =>
    if rf ≠ spec.replicationFactor then
      ["server reports replication factor " ++ toString rf ++ ", spec requests " ++
        toString spec.replicationFactor]
    else []
  | none => []

def evaluateSync (spec : TopicSpec) (state : TopicServerState) : SyncOutcome :=
  let drift := partitionsDrift spec state ++ replicationFactorDrift spec state
  if drift ≠ [] then .drift ("; ".intercalate drift)
  else if state.isFullyReported then .inSync state
  else .unverified

namespace TopicController

def seededConditions (topic : StreamlineTopic) : List ConditionFields :=
  Controllers.seededConditions topic.status

def withStableTimestamp (now : String) (topic : StreamlineTopic) (status : TopicStatus) :
    TopicStatus :=
  Controllers.withStableTimestamp topic.status status now

/-- The status published for a spec the server cannot honour. -/
def unsupportedStatus (clock : Clock) (topic : StreamlineTopic) (message : String) :
    TopicStatus :=
  let condFields := seededConditions topic
  let condFields := setCondition condFields
    (buildCondition (clock 0) topicConditionReady conditionFalse "UnsupportedConfiguration"
      message)
  let condFields := setCondition condFields
    (buildCondition (clock 1) topicConditionSynced conditionFalse "UnsupportedConfiguration"
      "The topic was not created because the spec requests unsupported settings")
  withStableTimestamp (clock 2) topic
    { ready := false
      phase := .failed
      partitions := 0
      replicationFactor := 0
      partitionAssignments := []
      conditions := condFields
      observedGeneration := topic.metadata.generation
      lastUpdated := none
      errorMessage := some message }

/-- What the server's answer says about the spec. -/
def syncedReport (verified : Bool) : Report :=
  if verified then
    ⟨topicConditionSynced, conditionTrue, "ConfigSynced",
      "Server-reported partition count and replication factor match the desired state. No " ++
        "other topic configuration is applied: the Streamline topic API accepts only a name " ++
        "and a partition count"⟩
  else
    ⟨topicConditionSynced, conditionUnknown, "ServerDidNotReportConfiguration",
      "The server accepted the topic but did not report both its partition count and " ++
        "replication factor, so the desired state could not be verified"⟩

/-- The status published for a topic the server accepted. -/
def readyStatus (clock : Clock) (topic : StreamlineTopic) (state : TopicServerState)
    (verified : Bool) : TopicStatus :=
  let condFields := seededConditions topic
  let condFields := setCondition condFields
    (buildCondition (clock 0) topicConditionReady conditionTrue "TopicReady"
      "Topic successfully created/updated")
  let condFields := setCondition condFields ((syncedReport verified).stamp (clock 1))
  withStableTimestamp (clock 2) topic
    { ready := true
      phase := .ready
      partitions := state.partitions.getD 0
      replicationFactor := state.replicationFactor.getD 0
      partitionAssignments := []
      conditions := condFields
      observedGeneration := topic.metadata.generation
      lastUpdated := none
      errorMessage := none }

/-- The status published while waiting for the referenced cluster. -/
def pendingStatus (clock : Clock) (topic : StreamlineTopic) (message : String) : TopicStatus :=
  let condFields := seededConditions topic
  let condFields := setCondition condFields
    (buildCondition (clock 0) topicConditionReady conditionFalse "Pending" message)
  let condFields := setCondition condFields
    (buildCondition (clock 1) topicConditionSynced conditionFalse "WaitingForCluster"
      "Topic cannot sync until cluster is ready")
  withStableTimestamp (clock 2) topic
    { ready := false
      phase := .pending
      partitions := 0
      replicationFactor := 0
      partitionAssignments := []
      conditions := condFields
      observedGeneration := topic.metadata.generation
      lastUpdated := none
      errorMessage := none }

/-- The status published when reconciliation failed or drifted. -/
def errorStatus (clock : Clock) (topic : StreamlineTopic) (errorMessage : String) : TopicStatus :=
  let condFields := seededConditions topic
  let condFields := setCondition condFields
    (buildCondition (clock 0) topicConditionReady conditionFalse "Error" errorMessage)
  let condFields := setCondition condFields
    (buildCondition (clock 1) topicConditionSynced conditionFalse "SyncFailed" errorMessage)
  withStableTimestamp (clock 2) topic
    { ready := false
      phase := .failed
      partitions := 0
      replicationFactor := 0
      partitionAssignments := []
      conditions := condFields
      observedGeneration := topic.metadata.generation
      lastUpdated := none
      errorMessage := some errorMessage }

def managedTypes : List String := [topicConditionReady, topicConditionSynced]

/-- The builders of a topic status, with what each is called with. -/
inductive Build where
  | unsupported (message : String)
  | ready (state : TopicServerState) (verified : Bool)
  | pending (message : String)
  | error (message : String)

namespace Build

def build (self : Build) (clock : Clock) (topic : StreamlineTopic) : TopicStatus :=
  match self with
  | unsupported message => unsupportedStatus clock topic message
  | ready state verified => readyStatus clock topic state verified
  | pending message => pendingStatus clock topic message
  | error message => errorStatus clock topic message

def reports : Build → List Report
  | unsupported message =>
    [⟨topicConditionReady, conditionFalse, "UnsupportedConfiguration", message⟩,
      ⟨topicConditionSynced, conditionFalse, "UnsupportedConfiguration",
        "The topic was not created because the spec requests unsupported settings"⟩]
  | ready _ verified =>
    [⟨topicConditionReady, conditionTrue, "TopicReady", "Topic successfully created/updated"⟩,
      syncedReport verified]
  | pending message =>
    [⟨topicConditionReady, conditionFalse, "Pending", message⟩,
      ⟨topicConditionSynced, conditionFalse, "WaitingForCluster",
        "Topic cannot sync until cluster is ready"⟩]
  | error message =>
    [⟨topicConditionReady, conditionFalse, "Error", message⟩,
      ⟨topicConditionSynced, conditionFalse, "SyncFailed", message⟩]

def body (topic : StreamlineTopic) (self : Build) (conditions : List ConditionFields) :
    TopicStatus :=
  match self with
  | unsupported message =>
    { phase := .failed, conditions, observedGeneration := topic.metadata.generation,
      errorMessage := some message }
  | ready state _ =>
    { ready := true, phase := .ready, partitions := state.partitions.getD 0,
      replicationFactor := state.replicationFactor.getD 0, conditions,
      observedGeneration := topic.metadata.generation }
  | pending _ => { conditions, observedGeneration := topic.metadata.generation }
  | error message =>
    { phase := .failed, conditions, observedGeneration := topic.metadata.generation,
      errorMessage := some message }

theorem reports_types (self : Build) : self.reports.map Report.conditionType = managedTypes := by
  cases self with
  | ready state verified => cases verified <;> rfl
  | _ => rfl

/-- Each builder is a status build over the stored status. -/
def statusBuild (topic : StreamlineTopic) (self : Build) : StatusBuild TopicStatus where
  reports := self.reports
  keeps _ := true
  body := self.body topic
  types_nodup := by
    rw [reports_types]
    decide
  keeps_types _ _ := rfl
  conditions_body _ := by cases self <;> rfl
  lastUpdated_body _ := by cases self <;> rfl

theorem build_eq_run (self : Build) (clock : Clock) (topic : StreamlineTopic) :
    self.build clock topic = (self.statusBuild topic).run clock topic.status := by
  have hseed : (Controllers.seededConditions topic.status).filter (fun _ => true) =
      Controllers.seededConditions topic.status := by simp
  cases self <;>
    · rw [StatusBuild.run, StatusBuild.conditions]
      simp only [statusBuild, hseed]
      rfl

theorem statusBuild_types (topic : StreamlineTopic) (self : Build) :
    (self.statusBuild topic).types = managedTypes :=
  self.reports_types

end Build

end TopicController

end StreamlineOperator.Controllers
