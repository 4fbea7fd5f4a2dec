/- source: src/src/controllers/cluster.rs (Services, observed_status), topic.rs (HTTP endpoint),
     scale_to_zero.rs (default trigger)
   digest: Which of the broker addresses the operator constructs are served by what it renders. -/

import StreamlineOperator.Controllers.ScaleToZero
import StreamlineOperator.Controllers.Topic
import StreamlineOperator.Controllers.ClusterRender
import StreamlineOperator.Kubernetes.Workload

set_option autoImplicit false
set_option relaxedAutoImplicit false

namespace StreamlineOperator.Controllers

open Foundation
open Kubernetes
open Crd (StreamlineCluster StreamlineTopic)
open ClusterController (buildContainer buildStatefulset clientService headlessService renderConfig
  configHeader renderTls ServerSection serverSection renderConfig_eq observedStatus)

/-- A host name stands for one of the objects rendered for the cluster. -/
inductive RenderedBackend (cluster : StreamlineCluster) (namespaceName : String) : Backend → Prop
  | client : RenderedBackend cluster namespaceName (.service (clientService cluster namespaceName))
  | pod (ordinal : Nat) : RenderedBackend cluster namespaceName
      (.pod (buildStatefulset cluster namespaceName) (headlessService cluster namespaceName) ordinal)

/-- The address resolves to a rendered object, under the port that its Service
publishes by this name, the container declares and the broker is told to listen
on (`configured`). -/
def ServedAt (cluster : StreamlineCluster) (namespaceName portName configured scheme path
    address : String) : Prop :=
  ∃ backend port, RenderedBackend cluster namespaceName backend ∧ backend.Resolves ∧
    AddressOf scheme path backend port address ∧
    backend.portsOf.publishedPort portName = some port ∧
    (buildContainer cluster).declaredPort portName = some port ∧
    configured = "0.0.0.0:" ++ toString port

/-- Everything the operator calls or publishes as a broker's address is served. -/
structure AddressesServed (cluster : StreamlineCluster) (namespaceName : String) : Prop where
  brokers : ∃ values : ServerSection,
    renderConfig cluster = configHeader cluster ++ values.render ++ renderTls cluster.spec.tls ∧
    ∀ clock readyCount,
      ∀ address ∈ (observedStatus clock cluster namespaceName readyCount).brokerEndpoints,
        ServedAt cluster namespaceName "kafka" values.listenAddr "" "" address
  topics : ∃ values : ServerSection,
    renderConfig cluster = configHeader cluster ++ values.render ++ renderTls cluster.spec.tls ∧
    ∀ topic : StreamlineTopic, topic.namespaceOrDefault = namespaceName → ∀ tr res,
      Program.Runs (TopicController.reconcile topic) tr res →
      (∀ found, (⟨.get .streamlineCluster namespaceName topic.spec.clusterRef, .ok found⟩ :
        ApiExchange) ∈ tr → found = cluster) →
      ∀ e ∈ tr, ∀ url ∈ e.request.url, ∃ rest,
        ServedAt cluster namespaceName "http" values.httpAddr "http://" ("/api/v1/topics" ++ rest) url
  trigger : ∃ values : ServerSection,
    renderConfig cluster = configHeader cluster ++ values.render ++ renderTls cluster.spec.tls ∧
    ∀ config : KedaConfig, config.triggers = [] →
      ∀ trigger ∈ (ScaleToZeroController.buildKedaScaledObject cluster namespaceName
        config).spec.triggers, ∀ url ∈ trigger.metadata["url"]?,
        ServedAt cluster namespaceName "http" values.httpAddr "http://" "/scaling/metrics" url

section ServedAt

variable {cluster : StreamlineCluster} {namespaceName : String}

/-- A pod of the StatefulSet is reached under its ordinal. -/
theorem resolves_pod {ordinal : Nat} (h : (ordinal : Int) < cluster.spec.replicas.toInt) :
    (Backend.pod (buildStatefulset cluster namespaceName) (headlessService cluster namespaceName)
      ordinal).Resolves :=
  ⟨rfl, _, rfl, rfl, _, rfl, h⟩

theorem published_http {backend : Backend} (h : RenderedBackend cluster namespaceName backend) :
    backend.portsOf.publishedPort "http" = some cluster.spec.httpPort := by
  cases h <;> rfl

variable (cluster namespaceName) in
theorem host_pod (ordinal : Nat) (path port : String) :
    cluster.nameAny ++ "-" ++ toString ordinal ++ "." ++ cluster.nameAny ++ "-headless." ++
        namespaceName ++ ".svc:" ++ port ++ path =
      (Backend.pod (buildStatefulset cluster namespaceName) (headlessService cluster namespaceName)
        ordinal).host ++ ".svc" ++ ":" ++ port ++ path := by
  have hheadless : "-headless." = "-headless" ++ "." := by simp
  have hcolon : ".svc:" = ".svc" ++ ":" := by simp
  rw [hheadless, hcolon]
  simp only [Backend.host, headlessService, buildStatefulset,
    ClusterController.childMetadata_nameAny, ClusterController.childMetadata_namespaceOrDefault,
    String.append_assoc]

theorem brokerEndpoint_served {address : String}
    (h : address ∈ ClusterController.brokerEndpoints cluster namespaceName) :
    ServedAt cluster namespaceName "kafka" (serverSection cluster).listenAddr "" "" address := by
  obtain ⟨ordinal, hordinal, rfl⟩ := List.mem_map.mp h
  have hlt : (ordinal : Int) < cluster.spec.replicas.toInt := by
    have := List.mem_range.mp hordinal
    omega
  refine ⟨_, cluster.spec.kafkaPort, .pod ordinal, resolves_pod hlt, ⟨".svc", by simp, ?_⟩,
    rfl, rfl, rfl⟩
  have hhost := host_pod cluster namespaceName ordinal ""
    (toString cluster.spec.kafkaPort)
  simpa only [String.empty_append, String.append_empty] using hhost

theorem httpEndpoint_served (hreplicas : cluster.spec.replicas = 1) (path : String) :
    ServedAt cluster namespaceName "http" (serverSection cluster).httpAddr "http://" path
      (TopicController.httpEndpoint cluster namespaceName ++ path) := by
  have hlt : ((0 : Nat) : Int) < cluster.spec.replicas.toInt := by
    rw [hreplicas]
    decide
  refine ⟨_, cluster.spec.httpPort, .pod 0, resolves_pod hlt, ⟨".svc", by simp, ?_⟩, rfl, rfl, rfl⟩
  have hhost := host_pod cluster namespaceName 0 path
    (toString cluster.spec.httpPort)
  have hfirst : "-0." = "-" ++ toString 0 ++ "." := by decide
  rw [TopicController.httpEndpoint, hfirst]
  simp only [String.append_assoc] at hhost ⊢
  rw [← hhost]

theorem topicUrl_of_mem {topic : StreamlineTopic} {tr : List ApiExchange}
    {res : Except OperatorError Action} (hnamespace : cluster.namespaceOrDefault = namespaceName)
    (htopic : topic.namespaceOrDefault = namespaceName)
    (h : Program.Runs (TopicController.reconcile topic) tr res)
    (hfound : ∀ found, (⟨.get .streamlineCluster namespaceName topic.spec.clusterRef, .ok found⟩ :
      ApiExchange) ∈ tr → found = cluster) {e : ApiExchange} (he : e ∈ tr) {url : String}
    (hurl : url ∈ e.request.url) :
    ∃ rest, url = TopicController.httpEndpoint cluster namespaceName ++ ("/api/v1/topics" ++ rest) := by
  have htopics : "/api/v1/topics/" = "/api/v1/topics" ++ "/" := by simp
  obtain ⟨tr', rfl, hrun⟩ := TopicController.runs_reconcile h
  rw [htopic] at hrun
  rcases List.mem_cons.mp he with rfl | he
  · cases hurl
  rcases hrun with ⟨-, hdeletion⟩ | ⟨-, hlive⟩
  · obtain ⟨patched, -, ⟨found, deleted, rfl⟩ | ⟨failure, rfl⟩⟩ :=
      TopicController.runs_handleDeletion hdeletion
    · obtain rfl := hfound found (by simp)
      simp only [List.mem_cons, List.not_mem_nil, or_false] at he
      rcases he with rfl | rfl | rfl
      · cases hurl
      · obtain rfl := Option.some.inj hurl
        refine ⟨"/" ++ topic.nameAny, ?_⟩
        rw [TopicController.deleteUrl, htopics]
        simp only [String.append_assoc]
      · cases hurl
    · simp only [List.mem_cons, List.not_mem_nil, or_false] at he
      rcases he with rfl | rfl <;> cases hurl
  · cases hlive with
    | silent hsilent =>
      rw [(hsilent e he).1] at hurl
      cases hurl
    | @synced before after found _ accepted ready hsilent sync =>
      obtain rfl := hfound found (by simp)
      obtain ⟨answer, rest, rfl, hrest⟩ := TopicController.runs_syncTopic sync
      simp only [List.mem_append, List.mem_cons] at he
      rcases he with he | rfl | rfl | he
      · rw [(hsilent e he).1] at hurl
        cases hurl
      · cases hurl
      · obtain rfl := Option.some.inj hurl
        refine ⟨"", ?_⟩
        rw [TopicController.createUrl, hnamespace, String.append_empty]
      · rcases hrest e he with hquiet | hread
        · rw [hquiet.1] at hurl
          cases hurl
        · rw [hread] at hurl
          obtain rfl := Option.some.inj hurl
          refine ⟨"/" ++ topic.nameAny, ?_⟩
          rw [TopicController.readUrl, hnamespace, htopics]
          simp only [String.append_assoc]

theorem defaultTriggerUrl_eq :
    ScaleToZeroController.defaultTriggerUrl cluster namespaceName =
      "http://" ++ (Backend.service (clientService cluster namespaceName)).host ++
        ".svc.cluster.local" ++ ":" ++ toString (9094 : Int32) ++ "/scaling/metrics" := by
  have hcolon : ".svc.cluster.local:" = ".svc.cluster.local" ++ ":" := by simp
  rw [ScaleToZeroController.defaultTriggerUrl, hcolon]
  simp only [Backend.host, clientService, ClusterController.childMetadata_nameAny,
    ClusterController.childMetadata_namespaceOrDefault, String.append_assoc]

theorem addressOf_port {scheme path : String} {a b : Backend} {p q : Int32} {address : String}
    (ha : AddressOf scheme path a p address) (hb : AddressOf scheme path b q address) : p = q := by
  obtain ⟨s, -, hs⟩ := ha
  obtain ⟨t, -, ht⟩ := hb
  have hcolon : ∀ n : Int32, ':' ∉ (toString n).toList := by
    intro n hmem
    rcases char_of_mem_toString_int32 hmem with h | h <;> exact absurd h (by decide)
  have heq := (String.append_left_inj path).mp (hs.symm.trans ht)
  have hlist := congrArg String.toList heq
  simp only [String.toList_append] at hlist
  have hsep : ":".toList = [':'] := rfl
  simp only [hsep, List.append_assoc, List.singleton_append] at hlist
  simp only [← List.append_assoc] at hlist
  have hdigits := afterLast_unique (hcolon p) (hcolon q) hlist
  exact toString_int32_injective (String.toList_inj.mp hdigits)

theorem triggers_default {config : KedaConfig} (h : config.triggers = []) :
    (ScaleToZeroController.buildKedaScaledObject cluster namespaceName config).spec.triggers =
      [ScaleToZeroController.defaultTrigger cluster namespaceName] := by
  simp [ScaleToZeroController.buildKedaScaledObject, h]

theorem defaultTrigger_url :
    (ScaleToZeroController.defaultTrigger cluster namespaceName).metadata["url"]? =
      some (ScaleToZeroController.defaultTriggerUrl cluster namespaceName) := by
  rw [ScaleToZeroController.defaultTrigger, StringMap.getElem?_insert', StringMap.getElem?_insert']
  simp

theorem httpPort_of_served (h : AddressesServed cluster namespaceName) :
    cluster.spec.httpPort = 9094 := by
  obtain ⟨values, -, htrigger⟩ := h.trigger
  have hdefault : ScaleToZeroController.defaultTrigger cluster namespaceName ∈
      (ScaleToZeroController.buildKedaScaledObject cluster namespaceName {}).spec.triggers :=
    List.mem_singleton_self _
  obtain ⟨backend, port, hrendered, -, haddress, hpublished, -, -⟩ :=
    htrigger {} rfl _ hdefault _ defaultTrigger_url
  have hport : port = 9094 :=
    addressOf_port haddress ⟨".svc.cluster.local", by simp, defaultTriggerUrl_eq⟩
  rw [published_http hrendered, hport] at hpublished
  exact Option.some.inj hpublished

end ServedAt

/-- For an accepted spec, every address is served exactly when the HTTP port is
the one the default trigger polls. -/
theorem addressesServed_iff (cluster : StreamlineCluster) (h : cluster.spec.validate = .ok ()) :
    AddressesServed cluster cluster.namespaceOrDefault ↔ cluster.spec.httpPort = 9094 := by
  have haccepted := Crd.ClusterSpec.validate_eq_ok.mp h
  constructor
  · exact httpPort_of_served
  · intro hport
    refine ⟨⟨serverSection cluster, renderConfig_eq cluster, ?_⟩,
      ⟨serverSection cluster, renderConfig_eq cluster, ?_⟩,
      ⟨serverSection cluster, renderConfig_eq cluster, ?_⟩⟩
    · intro clock readyCount address haddress
      exact brokerEndpoint_served haddress
    · intro topic htopic tr res hrun hfound e he url hurl
      obtain ⟨rest, rfl⟩ := topicUrl_of_mem rfl htopic hrun hfound he hurl
      exact ⟨rest, httpEndpoint_served haccepted.replicas _⟩
    · intro config hconfig trigger htrigger url hurl
      rw [triggers_default hconfig, List.mem_singleton] at htrigger
      subst htrigger
      rw [defaultTrigger_url] at hurl
      obtain rfl := Option.some.inj hurl
      refine ⟨_, cluster.spec.httpPort, .client, trivial,
        ⟨".svc.cluster.local", by simp, ?_⟩, rfl, rfl, rfl⟩
      rw [hport]
      exact defaultTriggerUrl_eq

/-- A cluster with every setting but its HTTP port at its default. -/
def clusterWithHttpPort (httpPort : Int32) : StreamlineCluster where
  metadata := { name := some "events", namespaceName := some "streamline" }
  spec := { httpPort }
  status := none

theorem addressesServed_iff_defaultPort :
    AddressesServed (clusterWithHttpPort 9094) "streamline" ↔
      (clusterWithHttpPort 9094).spec.httpPort = 9094 :=
  addressesServed_iff (clusterWithHttpPort 9094) (by decide)

/-- With another HTTP port, KEDA polls a port nothing listens on. -/
theorem trigger_misses_httpPort :
    ¬ ∀ cluster : StreamlineCluster, cluster.spec.validate = .ok () →
      AddressesServed cluster cluster.namespaceOrDefault := by
  intro h
  have hserved := h (clusterWithHttpPort 8080) (by decide)
  exact absurd (httpPort_of_served hserved) (by decide)

end StreamlineOperator.Controllers
