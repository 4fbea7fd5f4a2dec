/- source: src/src/controllers/topic.rs (unsupported_fields, reconcile and what it calls)
   digest: The gate on topic settings, and the topic reconcile as a sequence of calls with its runs. -/

import StreamlineOperator.Controllers.StatusPublication
import StreamlineOperator.Upgrade

set_option autoImplicit false
set_option relaxedAutoImplicit false

namespace StreamlineOperator.Controllers

open Foundation
open Kubernetes
open Conditions
open Crd (TopicSpec TopicConfig StreamlineCluster StreamlineTopic)

namespace TopicController

/-- The number under the first of the keys that holds one, if it fits an `i32`. -/
def reportedNumber (root : Json) (keys : List String) : Option Int32 :=
  (keys.findSome? (fun k => (root.members.lookup k).bind Decoder.int64)).bind fun v =>
    if -2147483648 ≤ v.toInt ∧ v.toInt ≤ 2147483647 then some (Int32.ofInt v.toInt) else none

/-- The topic state in a response body, bare or wrapped in `topic`. -/
def parseTopicState (body : Option Json) : TopicServerState :=
  match body with
  | none => {}
  | some json =>
    let root := (json.members.lookup "topic").getD json
    { partitions := reportedNumber root ["partitions", "partition_count", "partitionCount"]
      replicationFactor := reportedNumber root ["replication_factor", "replicationFactor"] }

def replicationFactorMessage (replicationFactor : Int32) : String :=
  "replicationFactor=" ++ toString replicationFactor ++ " is not supported: the Streamline " ++
    "topic API creates single-replica topics (set replicationFactor: 1), so this topic would " ++
    "claim durability the cluster does not provide." ++
    Upgrade.remediationFor "spec.replicationFactor"
      (replicationFactor = Upgrade.legacyTopicReplicationFactor)

def partitionsMessage (partitions : Int32) : String :=
  "partitions must be >= 1, got " ++ toString partitions

/-- The refusal of a setting the create endpoint drops. -/
def settingMessage (field requested default : String) : String :=
  field ++ "=" ++ requested ++ " is not supported: the Streamline topic API applies no topic " ++
    "configuration (it accepts only name and partitions), so this setting would be silently " ++
    "discarded (leave it at the default " ++ default ++ ")." ++
    Upgrade.remediationForValue ("spec." ++ field) requested

/-- The overrides of `spec.config`, each with its value if it has one. -/
def configOverrides (config : TopicConfig) : List (String × Option String) := [
  ("config.minInsyncReplicas", config.minInsyncReplicas.map toString),
  ("config.maxMessageBytes", config.maxMessageBytes.map toString),
  ("config.segmentBytes", config.segmentBytes.map toString),
  ("config.indexIntervalBytes", config.indexIntervalBytes.map toString),
  ("config.flushIntervalMs", config.flushIntervalMs.map toString),
  ("config.flushMessages", config.flushMessages.map toString)]

/-- The topic settings the server cannot honour, one message for each. -/
def unsupportedFields (spec : TopicSpec) : List String :=
  let defaults := TopicSpec.configDefaults
  reject (spec.replicationFactor ≠ 1) (replicationFactorMessage spec.replicationFactor) ++
    reject (spec.partitions < 1) (partitionsMessage spec.partitions) ++
    reject (spec.retention.retentionMs ≠ defaults.retentionMs)
      (settingMessage "retention.retentionMs" (toString spec.retention.retentionMs)
        (toString defaults.retentionMs)) ++
    reject (spec.retention.retentionBytes ≠ defaults.retentionBytes)
      (settingMessage "retention.retentionBytes" (toString spec.retention.retentionBytes)
        (toString defaults.retentionBytes)) ++
    reject (spec.retention.cleanupPolicy ≠ defaults.cleanupPolicy)
      (settingMessage "retention.cleanupPolicy" spec.retention.cleanupPolicy
        defaults.cleanupPolicy) ++
    reject (spec.compression.type ≠ defaults.compressionType)
      (settingMessage "compression.type" spec.compression.type defaults.compressionType) ++
    (configOverrides spec.config).filterMap
      (fun entry => entry.2.map (fun value => settingMessage entry.1 value "unset")) ++
    spec.config.custom.keys.map
      (fun key => settingMessage ("config.custom[" ++ key ++ "]") "set" "unset")

def ensureFinalizer (topic : StreamlineTopic) (namespaceName : String) : Operation Unit :=
  Kubernetes.ensureFinalizer .streamlineTopic topicFinalizer topic.metadata namespaceName

/-- The HTTP endpoint of the cluster's first broker. -/
def httpEndpoint (cluster : StreamlineCluster) (namespaceName : String) : String :=
  "http://" ++ cluster.nameAny ++ "-0." ++ cluster.nameAny ++ "-headless." ++ namespaceName ++
    ".svc:" ++ toString cluster.spec.httpPort

/-- Delete the topic from the server, as far as the cluster can be read, and
take the finalizer out. -/
def handleDeletion (topic : StreamlineTopic) (namespaceName : String) : Operation Action := do
  match ← send (.get .streamlineCluster namespaceName topic.spec.clusterRef) with
  | .ok cluster =>
    let _ ← send (.httpDelete
      (httpEndpoint cluster namespaceName ++ "/api/v1/topics/" ++ topic.nameAny))
    removeFinalizer .streamlineTopic topicFinalizer topic.metadata namespaceName
  | .error _ => removeFinalizer .streamlineTopic topicFinalizer topic.metadata namespaceName
  return .awaitChange

/-- Read a topic back; no answer, or a failure, is an empty state. -/
def fetchTopicState (httpEndpoint name : String) : Operation TopicServerState := do
  match ← send (.httpGet (httpEndpoint ++ "/api/v1/topics/" ++ name)) with
  | .ok response => return if response.isSuccess then parseTopicState response.json else {}
  | .error _ => return {}

/-- The body of the create request. -/
def topicConfig (topic : StreamlineTopic) : Json :=
  .obj [("name", .str topic.nameAny), ("partitions", .ofInt32 topic.spec.partitions)]

/-- What becomes of the answer to the create request. -/
def createdTopicState (topic : StreamlineTopic) (httpEndpoint : String)
    (response : HttpResponse) : Operation TopicServerState := do
  if !response.isSuccess && response.status ≠ 409 then
    .err (.internal ("Failed to create topic " ++ topic.nameAny ++ " (HTTP " ++
      toString response.status ++ " " ++ response.reason ++ "): " ++ response.text))
  else
    let state := parseTopicState response.json
    if state.isEmpty then fetchTopicState httpEndpoint topic.nameAny else return state

/-- Create the topic and return the state the server reports for it. -/
def createOrUpdateTopic (topic : StreamlineTopic) (cluster : StreamlineCluster) :
    Operation TopicServerState := do
  let endpoint := httpEndpoint cluster cluster.namespaceOrDefault
  match ← send (.httpPost (endpoint ++ "/api/v1/topics") (topicConfig topic)) with
  | .ok response => createdTopicState topic endpoint response
  | .error e =>
    .err (.internal ("HTTP request to create topic " ++ topic.nameAny ++ " failed: " ++ e))

def updateStatusUnsupported (topic : StreamlineTopic) (namespaceName message : String) :
    Operation Unit :=
  publish .streamlineTopic topic namespaceName
    (fun clock topic => unsupportedStatus clock topic message)

def updateStatusReady (topic : StreamlineTopic) (namespaceName : String)
    (state : TopicServerState) (verified : Bool) : Operation Unit :=
  publish .streamlineTopic topic namespaceName
    (fun clock topic => readyStatus clock topic state verified)

def updateStatusPending (topic : StreamlineTopic) (namespaceName message : String) :
    Operation Unit :=
  publish .streamlineTopic topic namespaceName
    (fun clock topic => pendingStatus clock topic message)

def updateStatusError (topic : StreamlineTopic) (namespaceName errorMessage : String) :
    Operation Unit :=
  publish .streamlineTopic topic namespaceName
    (fun clock topic => errorStatus clock topic errorMessage)

/-- Publish the status that follows from the state the server reported. -/
def updateStatusFromServer (topic : StreamlineTopic) (namespaceName : String)
    (state : TopicServerState) : Operation Unit :=
  match evaluateSync topic.spec state with
  | .inSync state => updateStatusReady topic namespaceName state true
  | .unverified => updateStatusReady topic namespaceName state false
  | .drift message => updateStatusError topic namespaceName message

def clusterReady (cluster : StreamlineCluster) : Bool :=
  cluster.status.any (fun status => status.readyReplicas > 0 && !status.brokerEndpoints.isEmpty)

/-- What a reconcile does for a spec the server cannot honour. -/
def rejectSpec (topic : StreamlineTopic) (namespaceName : String) (unsupported : List String) :
    Operation Action := do
  updateStatusUnsupported topic namespaceName ("; ".intercalate unsupported)
  sendMetric (.incError "topic")
  return .requeue 300

/-- Create the topic on a ready cluster and publish what came of it. -/
def syncTopic (topic : StreamlineTopic) (namespaceName : String) (cluster : StreamlineCluster) :
    Operation Action := do
  match ← (createOrUpdateTopic topic cluster).attempt with
  | .ok state =>
    updateStatusFromServer topic namespaceName state
    sendMetric .incSuccess
    return .requeue 60
  | .error e =>
    updateStatusError topic namespaceName e.text
    return .requeue 30

/-- What a reconcile does for an accepted spec. -/
def applySpec (topic : StreamlineTopic) (namespaceName : String) : Operation Action := do
  match ← send (.get .streamlineCluster namespaceName topic.spec.clusterRef) with
  | .error _ =>
    updateStatusError topic namespaceName ("Cluster " ++ topic.spec.clusterRef ++ " not found")
    return .requeue 30
  | .ok cluster =>
    if clusterReady cluster then syncTopic topic namespaceName cluster
    else
      updateStatusPending topic namespaceName "Waiting for cluster to be ready"
      return .requeue 10

/-- Reconcile a topic that is not being deleted. -/
def reconcileLive (topic : StreamlineTopic) (namespaceName : String) : Operation Action := do
  ensureFinalizer topic namespaceName
  let unsupported := unsupportedFields topic.spec
  if !unsupported.isEmpty then rejectSpec topic namespaceName unsupported
  else applySpec topic namespaceName

def reconcile (topic : StreamlineTopic) : Operation Action := do
  sendMetric (.incReconcile "topic")
  if topic.metadata.deletionTimestamp.isSome then
    handleDeletion topic topic.namespaceOrDefault
  else
    reconcileLive topic topic.namespaceOrDefault

/-! What a run does. -/

section Runs

variable {topic : StreamlineTopic} {namespaceName : String} {cluster : StreamlineCluster}

/-- The URLs of one topic on a cluster, for creating it and for the topic itself. -/
def createUrl (cluster : StreamlineCluster) : String :=
  httpEndpoint cluster cluster.namespaceOrDefault ++ "/api/v1/topics"

def readUrl (topic : StreamlineTopic) (cluster : StreamlineCluster) : String :=
  httpEndpoint cluster cluster.namespaceOrDefault ++ "/api/v1/topics/" ++ topic.nameAny

def deleteUrl (topic : StreamlineTopic) (namespaceName : String) (cluster : StreamlineCluster) :
    String :=
  httpEndpoint cluster namespaceName ++ "/api/v1/topics/" ++ topic.nameAny

/-- Nothing is sent to a broker, and no finalizer is taken out. -/
def Silent (e : ApiExchange) : Prop := e.request.url = none ∧ e.request.isMergePatch = false

/-- As before, but for a read of the topic. -/
def Reads (topic : StreamlineTopic) (cluster : StreamlineCluster) (e : ApiExchange) : Prop :=
  Silent e ∨ e.request = .httpGet (readUrl topic cluster)

theorem publish_silent {build : Clock → StreamlineTopic → Crd.TopicStatus} :
    Program.Always Silent (publish .streamlineTopic topic namespaceName build) :=
  always_publish (fun _ => ⟨rfl, rfl⟩) (fun _ _ => ⟨rfl, rfl⟩)

private theorem publish_reads {build : Clock → StreamlineTopic → Crd.TopicStatus} :
    Program.Always (Reads topic cluster) (publish .streamlineTopic topic namespaceName build) :=
  always_publish (fun _ => .inl ⟨rfl, rfl⟩) (fun _ _ => .inl ⟨rfl, rfl⟩)

private theorem createdTopicState_reads (response : HttpResponse) :
    Program.Always (Reads topic cluster) (createdTopicState topic
      (httpEndpoint cluster cluster.namespaceOrDefault) response) := by
  unfold createdTopicState
  split
  · exact Program.always_err _
  · dsimp only
    split
    · refine Program.always_call (fun _ => .inr rfl) ?_
      intro answer
      cases answer <;> exact Program.always_ok _
    · exact Program.always_ok _

private theorem updateStatusFromServer_reads (state : TopicServerState) :
    Program.Always (Reads topic cluster) (updateStatusFromServer topic namespaceName state) := by
  unfold updateStatusFromServer
  split <;> exact publish_reads

theorem runs_createOrUpdateTopic {tr : List ApiExchange} {res : Except OperatorError TopicServerState}
    (h : Program.Runs (createOrUpdateTopic topic cluster) tr res) :
    ∃ answer rest, tr = ⟨.httpPost (createUrl cluster) (topicConfig topic), answer⟩ :: rest ∧
      ∀ e ∈ rest, Reads topic cluster e := by
  simp only [createOrUpdateTopic, send, Program.bind_eq, Program.send_bind, Program.runs_call] at h
  obtain ⟨answer, rest, rfl, h⟩ := h
  refine ⟨answer, rest, rfl, ?_⟩
  cases answer with
  | ok response => exact createdTopicState_reads response rest res h
  | error e => exact Program.always_err _ rest res h

theorem runs_syncTopic {tr : List ApiExchange} {res : Except OperatorError Action}
    (h : Program.Runs (syncTopic topic namespaceName cluster) tr res) :
    ∃ answer rest, tr = ⟨.httpPost (createUrl cluster) (topicConfig topic), answer⟩ :: rest ∧
      ∀ e ∈ rest, Reads topic cluster e := by
  rw [syncTopic, Program.bind_eq, Program.runs_bind] at h
  rcases h with ⟨e, h, -⟩ | ⟨outcome, created, after, rfl, h, hafter⟩
  · obtain ⟨outcome, -, hres⟩ := Program.runs_attempt.mp h
    cases hres
  obtain ⟨outcome', h, -⟩ := Program.runs_attempt.mp h
  obtain ⟨answer, rest, rfl, hrest⟩ := runs_createOrUpdateTopic h
  refine ⟨answer, rest ++ after, rfl, List.forall_mem_append.mpr ⟨hrest, ?_⟩⟩
  cases outcome with
  | error e => exact Program.always_then publish_reads after res hafter
  | ok state =>
    have hreads : Program.Always (Reads topic cluster)
        ((updateStatusFromServer topic namespaceName state).bind fun _ =>
          (sendMetric .incSuccess).bind fun _ => (.ok (.requeue 60) : Operation Action)) := by
      apply Program.always_bind (updateStatusFromServer_reads state)
      intro _
      exact Program.always_then (always_sendMetric (.inl ⟨rfl, rfl⟩))
    exact hreads after res hafter

/-- A run of a live reconcile: it sends nothing to a broker, or it finds a ready
cluster for an accepted spec and synchronizes the topic with it. -/
inductive LiveRun (topic : StreamlineTopic) (namespaceName : String) :
    List ApiExchange → Except OperatorError Action → Prop
  | silent {tr : List ApiExchange} {res : Except OperatorError Action}
      (silent : ∀ e ∈ tr, Silent e) : LiveRun topic namespaceName tr res
  | synced {before after : List ApiExchange} {cluster : StreamlineCluster}
      {res : Except OperatorError Action} (accepted : unsupportedFields topic.spec = [])
      (ready : clusterReady cluster = true) (silent : ∀ e ∈ before, Silent e)
      (sync : Program.Runs (syncTopic topic namespaceName cluster) after res) :
      LiveRun topic namespaceName (before ++
        ⟨.get .streamlineCluster namespaceName topic.spec.clusterRef, .ok cluster⟩ :: after) res

theorem LiveRun.append {before tr : List ApiExchange} {res : Except OperatorError Action}
    (hbefore : ∀ e ∈ before, Silent e) (h : LiveRun topic namespaceName tr res) :
    LiveRun topic namespaceName (before ++ tr) res := by
  cases h with
  | silent hsilent => exact .silent (List.forall_mem_append.mpr ⟨hbefore, hsilent⟩)
  | synced accepted ready hsilent sync =>
    rw [← List.append_assoc]
    exact .synced accepted ready (List.forall_mem_append.mpr ⟨hbefore, hsilent⟩) sync

theorem runs_applySpec {tr : List ApiExchange} {res : Except OperatorError Action}
    (haccepted : unsupportedFields topic.spec = [])
    (h : Program.Runs (applySpec topic namespaceName) tr res) :
    LiveRun topic namespaceName tr res := by
  simp only [applySpec, send, Program.bind_eq, Program.send_bind, Program.runs_call] at h
  obtain ⟨found, tr', rfl, h⟩ := h
  cases found with
  | error e =>
    have hsilent := Program.always_then publish_silent tr' res h
    exact .silent (List.forall_mem_cons.mpr ⟨⟨rfl, rfl⟩, hsilent⟩)
  | ok cluster =>
    by_cases hready : clusterReady cluster = true
    · simp only [hready, if_true] at h
      exact @LiveRun.synced _ _ [] _ _ _ haccepted hready (by simp) h
    · simp only [hready, if_false, Bool.false_eq_true] at h
      have hsilent := Program.always_then publish_silent tr' res h
      exact .silent (List.forall_mem_cons.mpr ⟨⟨rfl, rfl⟩, hsilent⟩)

private theorem runs_gate {unsupported : List String} {tr : List ApiExchange}
    {res : Except OperatorError Action}
    (hgate : unsupported = [] → unsupportedFields topic.spec = [])
    (h : Program.Runs (if !unsupported.isEmpty then rejectSpec topic namespaceName unsupported
      else applySpec topic namespaceName) tr res) : LiveRun topic namespaceName tr res := by
  split at h
  · have hreject : Program.Always Silent (rejectSpec topic namespaceName unsupported) := by
      apply Program.always_bind publish_silent
      intro _
      exact Program.always_then (always_sendMetric ⟨rfl, rfl⟩)
    exact .silent (hreject tr res h)
  · rename_i haccepted
    exact runs_applySpec (hgate (by simpa using haccepted)) h

theorem runs_reconcileLive {tr : List ApiExchange} {res : Except OperatorError Action}
    (h : Program.Runs (reconcileLive topic namespaceName) tr res) :
    LiveRun topic namespaceName tr res := by
  have hfinalizer : Program.Always Silent (ensureFinalizer topic namespaceName) :=
    always_ensureFinalizer fun _ => ⟨rfl, rfl⟩
  rw [reconcileLive, Program.bind_eq, Program.runs_bind] at h
  rcases h with ⟨e, h, rfl⟩ | ⟨_, before, after, rfl, hbefore, h⟩
  · exact .silent (hfinalizer tr _ h)
  · exact LiveRun.append (hfinalizer before _ hbefore) (runs_gate id h)

/-- A deletion: the topic is deleted from the cluster if that is found, and the
finalizer is patched whatever came of it. -/
theorem runs_handleDeletion {tr : List ApiExchange} {res : Except OperatorError Action}
    (h : Program.Runs (handleDeletion topic namespaceName) tr res) :
    ∃ patched, (patched.isOk = true ↔ res = .ok .awaitChange) ∧
      ((∃ cluster deleted, tr =
          [⟨.get .streamlineCluster namespaceName topic.spec.clusterRef, .ok cluster⟩,
            ⟨.httpDelete (deleteUrl topic namespaceName cluster), deleted⟩,
            ⟨.mergePatch .streamlineTopic namespaceName topic.nameAny (finalizersPatch
              (topic.metadata.finalizerList.filter (fun f => f ≠ topicFinalizer))), patched⟩]) ∨
        ∃ e, tr = [⟨.get .streamlineCluster namespaceName topic.spec.clusterRef, .error e⟩,
          ⟨.mergePatch .streamlineTopic namespaceName topic.nameAny (finalizersPatch
            (topic.metadata.finalizerList.filter (fun f => f ≠ topicFinalizer))), patched⟩]) := by
  have hremove : ∀ {tr res}, Program.Runs ((removeFinalizer .streamlineTopic topicFinalizer
      topic.metadata namespaceName).bind fun _ => .ok Action.awaitChange) tr res →
        ∃ patched, (patched.isOk = true ↔ res = .ok .awaitChange) ∧
          tr = [⟨.mergePatch .streamlineTopic namespaceName topic.nameAny (finalizersPatch
            (topic.metadata.finalizerList.filter (fun f => f ≠ topicFinalizer))), patched⟩] := by
    intro tr res hrun
    rw [Program.runs_bind] at hrun
    rcases hrun with ⟨e, hrun, rfl⟩ | ⟨u, tr₁, tr₂, rfl, hrun, hend⟩
    · obtain ⟨patched, rfl, hok⟩ := runs_removeFinalizer hrun
      exact ⟨patched, by simp [hok], rfl⟩
    · obtain ⟨patched, rfl, hok⟩ := runs_removeFinalizer hrun
      obtain ⟨rfl, rfl⟩ := Program.runs_ok.mp hend
      exact ⟨patched, by simp [hok], by simp; rfl⟩
  simp only [handleDeletion, send, Program.bind_eq, Program.send_bind, Program.runs_call] at h
  obtain ⟨found, tr', rfl, h⟩ := h
  cases found with
  | error e =>
    obtain ⟨patched, hok, rfl⟩ := hremove h
    exact ⟨patched, hok, .inr ⟨e, rfl⟩⟩
  | ok cluster =>
    simp only [Program.runs_call] at h
    obtain ⟨deleted, tr'', rfl, h⟩ := h
    obtain ⟨patched, hok, rfl⟩ := hremove h
    exact ⟨patched, hok, .inl ⟨cluster, deleted, rfl⟩⟩

/-- A reconcile is counted and then is a deletion or a live run. -/
theorem runs_reconcile {tr : List ApiExchange} {res : Except OperatorError Action}
    (h : Program.Runs (reconcile topic) tr res) :
    ∃ tr', tr = ⟨.metric (.incReconcile "topic"), ()⟩ :: tr' ∧
      ((topic.metadata.deletionTimestamp.isSome = true ∧
          Program.Runs (handleDeletion topic topic.namespaceOrDefault) tr' res) ∨
        (topic.metadata.deletionTimestamp.isSome = false ∧
          LiveRun topic topic.namespaceOrDefault tr' res)) := by
  simp only [reconcile, sendMetric, send, Program.bind_eq, Program.send_bind,
    Program.runs_call] at h
  obtain ⟨_, tr', rfl, h⟩ := h
  refine ⟨tr', rfl, ?_⟩
  cases hdeleted : topic.metadata.deletionTimestamp.isSome with
  | true =>
    simp only [hdeleted, if_true] at h
    exact .inl ⟨rfl, h⟩
  | false =>
    simp only [hdeleted, if_false, Bool.false_eq_true] at h
    exact .inr ⟨rfl, runs_reconcileLive h⟩

end Runs

end TopicController

end StreamlineOperator.Controllers
