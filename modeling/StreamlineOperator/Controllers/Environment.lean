/- source: src/src/controllers/cluster.rs (build_statefulset, environment; render_config)
   digest: When the environment of the broker container and its configuration file agree. -/

import StreamlineOperator.Controllers.ClusterRender
import StreamlineOperator.Kubernetes.Workload

set_option autoImplicit false
set_option relaxedAutoImplicit false

namespace StreamlineOperator.Controllers

open Foundation
open Kubernetes (ObjectMeta ConfigMap Container PodSpec effectiveEnv effectiveEnv_of_mem MountsFile)
open Crd (ClusterSpec StreamlineCluster)

namespace ClusterController

/-- The environment of the rendered broker container. -/
def containerEnv (cluster : StreamlineCluster) : List Kubernetes.EnvVar :=
  (buildContainer cluster).env.getD []

/-- The literal value that takes effect for a name. -/
def effectiveValue (cluster : StreamlineCluster) (name : String) : Option String :=
  (effectiveEnv (containerEnv cluster) name).bind Kubernetes.EnvVar.value

/-- The pod field that takes effect for a name. -/
def effectiveField (cluster : StreamlineCluster) (name : String) : Option String :=
  (effectiveEnv (containerEnv cluster) name).bind fun env =>
    (env.valueFrom.bind Kubernetes.EnvVarSource.fieldRef).map Kubernetes.ObjectFieldSelector.fieldPath

/-- The environment and the configuration file say the same. -/
structure EnvironmentAgrees (cluster : StreamlineCluster) (namespaceName : String) : Prop where
  distinct : ((containerEnv cluster).map Kubernetes.EnvVar.name).Nodup
  config : ∃ path, effectiveValue cluster "STREAMLINE_CONFIG" = some path ∧
    MountsFile (buildConfigAndTlsVolumes cluster).1 ((buildContainer cluster).volumeMounts.getD [])
      (buildConfigmap cluster namespaceName) path (renderConfig cluster)
  server : ∃ values : ServerSection,
    renderConfig cluster = configHeader cluster ++ values.render ++ renderTls cluster.spec.tls ∧
      effectiveValue cluster "STREAMLINE_LISTEN_ADDR" = some values.listenAddr ∧
      effectiveValue cluster "STREAMLINE_HTTP_ADDR" = some values.httpAddr ∧
      effectiveValue cluster "STREAMLINE_DATA_DIR" = some values.dataDir ∧
      effectiveValue cluster "STREAMLINE_LOG_LEVEL" = some values.logLevel
  listenPort : ∃ port, (clientService cluster namespaceName).publishedPort "kafka" = some port ∧
    effectiveValue cluster "STREAMLINE_LISTEN_ADDR" = some ("0.0.0.0:" ++ toString port)
  httpPort : ∃ port, (clientService cluster namespaceName).publishedPort "http" = some port ∧
    effectiveValue cluster "STREAMLINE_HTTP_ADDR" = some ("0.0.0.0:" ++ toString port)
  podName : effectiveField cluster "POD_NAME" = some "metadata.name"
  podNamespace : effectiveField cluster "POD_NAMESPACE" = some "metadata.namespace"

/-- The names the operator sets itself. -/
def operatorEnvNames : List String := [
  "STREAMLINE_CONFIG", "STREAMLINE_DATA_DIR", "STREAMLINE_LISTEN_ADDR", "STREAMLINE_HTTP_ADDR",
  "STREAMLINE_LOG_LEVEL", "POD_NAME", "POD_NAMESPACE"]

/-- The entries of the spec are named apart from one another and from the
operator's own. -/
def EnvNamedApart (spec : ClusterSpec) : Prop :=
  (spec.env.map Crd.EnvVar.name).Nodup ∧ ∀ env ∈ spec.env, env.name ∉ operatorEnvNames

theorem operatorEnv_names (cluster : StreamlineCluster) :
    (operatorEnv cluster).map Kubernetes.EnvVar.name = operatorEnvNames := rfl

theorem buildEnvVar_name {env : Crd.EnvVar} {source : Option Crd.EnvVarRef}
    (h : env.resolveSource = .ok source) :
    (buildEnvVar env).map Kubernetes.EnvVar.name = some env.name := by
  cases source <;> simp [buildEnvVar, h]

theorem containerEnv_names {cluster : StreamlineCluster}
    (h : ∀ env ∈ cluster.spec.env, ∃ source, env.resolveSource = .ok source) :
    (containerEnv cluster).map Kubernetes.EnvVar.name =
      operatorEnvNames ++ cluster.spec.env.map Crd.EnvVar.name := by
  have hentries : ∀ envs : List Crd.EnvVar,
      (∀ env ∈ envs, ∃ source, env.resolveSource = .ok source) →
        (envs.filterMap buildEnvVar).map Kubernetes.EnvVar.name = envs.map Crd.EnvVar.name := by
    intro envs
    induction envs with
    | nil => simp
    | cons env envs ih =>
      intro henvs
      obtain ⟨source, hsource⟩ := henvs env (by simp)
      obtain ⟨built, hbuilt, hname⟩ := Option.map_eq_some_iff.mp (buildEnvVar_name hsource)
      rw [List.filterMap_cons_some hbuilt, List.map_cons, List.map_cons, hname,
        ih fun e he => henvs e (List.mem_cons_of_mem _ he)]
  simp only [containerEnv, buildContainer, Option.getD_some, List.map_append, operatorEnv_names,
    hentries _ h]

private theorem containerEnv_nodup_iff {cluster : StreamlineCluster}
    (h : ∀ env ∈ cluster.spec.env, ∃ source, env.resolveSource = .ok source) :
    ((containerEnv cluster).map Kubernetes.EnvVar.name).Nodup ↔ EnvNamedApart cluster.spec := by
  have hown : operatorEnvNames.Nodup := by decide
  rw [containerEnv_names h, List.nodup_append, EnvNamedApart]
  constructor
  · rintro ⟨-, hnodup, hdisjoint⟩
    refine ⟨hnodup, ?_⟩
    intro env henv hreserved
    exact hdisjoint env.name hreserved env.name (List.mem_map_of_mem henv) rfl
  · rintro ⟨hnodup, hapart⟩
    refine ⟨hown, hnodup, ?_⟩
    rintro name hname _ hentry rfl
    obtain ⟨env, henv, rfl⟩ := List.mem_map.mp hentry
    exact hapart env henv hname

private theorem effectiveEnv_operator {cluster : StreamlineCluster}
    (h : ((containerEnv cluster).map Kubernetes.EnvVar.name).Nodup) {env : Kubernetes.EnvVar}
    (henv : env ∈ operatorEnv cluster) : effectiveEnv (containerEnv cluster) env.name = some env := by
  apply effectiveEnv_of_mem h
  simp only [containerEnv, buildContainer, Option.getD_some, List.mem_append]
  exact .inl henv

theorem mountsFile_config (cluster : StreamlineCluster) (namespaceName : String) :
    MountsFile (buildConfigAndTlsVolumes cluster).1 ((buildContainer cluster).volumeMounts.getD [])
      (buildConfigmap cluster namespaceName) configFilePath (renderConfig cluster) := by
  refine ⟨readOnlyMount "config" configMountPath, ?_,
    { name := "config", configMap := some ⟨cluster.nameAny ++ "-config"⟩ }, ?_,
    ⟨cluster.nameAny ++ "-config"⟩, configFileName, rfl, rfl, rfl, ?_, ?_⟩
  · simp [buildContainer, buildConfigAndTlsVolumes]
  · simp [buildConfigAndTlsVolumes]
  · simp [buildConfigmap]
  · simp [configFilePath, readOnlyMount, configMountPath, configFileName]

private theorem effectiveValue_operator {cluster : StreamlineCluster}
    (h : ((containerEnv cluster).map Kubernetes.EnvVar.name).Nodup) {name value : String}
    (henv : { name := name, value := some value } ∈ operatorEnv cluster) :
    effectiveValue cluster name = some value := by
  have heffective := effectiveEnv_operator h henv
  simp only at heffective
  simp [effectiveValue, heffective]

private theorem effectiveField_operator {cluster : StreamlineCluster}
    (h : ((containerEnv cluster).map Kubernetes.EnvVar.name).Nodup) {name path : String}
    (henv : { name := name, valueFrom := some { fieldRef := some ⟨path⟩ } } ∈ operatorEnv cluster) :
    effectiveField cluster name = some path := by
  have heffective := effectiveEnv_operator h henv
  simp only at heffective
  simp [effectiveField, heffective]

/-- For an accepted spec, the environment agrees with the configuration file
exactly when the entries of the spec are named apart. -/
theorem environmentAgrees_iff (cluster : StreamlineCluster) (namespaceName : String)
    (h : cluster.spec.validate = .ok ()) :
    EnvironmentAgrees cluster namespaceName ↔ EnvNamedApart cluster.spec := by
  have henv := (ClusterSpec.validate_eq_ok.mp h).env
  rw [← containerEnv_nodup_iff henv]
  constructor
  · exact EnvironmentAgrees.distinct
  · intro hnodup
    have hlisten : effectiveValue cluster "STREAMLINE_LISTEN_ADDR" =
        some ("0.0.0.0:" ++ toString cluster.spec.kafkaPort) :=
      effectiveValue_operator hnodup (by simp [operatorEnv])
    have hhttp : effectiveValue cluster "STREAMLINE_HTTP_ADDR" =
        some ("0.0.0.0:" ++ toString cluster.spec.httpPort) :=
      effectiveValue_operator hnodup (by simp [operatorEnv])
    exact
      { distinct := hnodup
        config := ⟨configFilePath, effectiveValue_operator hnodup (by simp [operatorEnv]),
          mountsFile_config cluster namespaceName⟩
        server := ⟨serverSection cluster, renderConfig_eq cluster, hlisten, hhttp,
          effectiveValue_operator hnodup (by simp [operatorEnv, serverSection]),
          effectiveValue_operator hnodup (by simp [operatorEnv, serverSection])⟩
        listenPort := ⟨cluster.spec.kafkaPort, rfl, hlisten⟩
        httpPort := ⟨cluster.spec.httpPort, rfl, hhttp⟩
        podName := effectiveField_operator hnodup (by simp [operatorEnv])
        podNamespace := effectiveField_operator hnodup (by simp [operatorEnv]) }

/-- A cluster with every setting but its environment at its default. -/
def clusterWithEnv (env : List Crd.EnvVar) : StreamlineCluster where
  metadata := { name := some "events", namespaceName := some "streamline" }
  spec := { env := env }
  status := none

theorem environmentAgrees_iff_heapSize :
    EnvironmentAgrees (clusterWithEnv [{ name := "HEAP_SIZE", value := some "1g" }]) "streamline" ↔
      EnvNamedApart (clusterWithEnv [{ name := "HEAP_SIZE", value := some "1g" }]).spec :=
  environmentAgrees_iff _ _ (by decide)

/-- An accepted entry that repeats a name of the operator takes effect in its
place, and the broker listens where nothing is published. -/
theorem environment_overridden :
    ¬ ∀ (cluster : StreamlineCluster) (namespaceName : String), cluster.spec.validate = .ok () →
      EnvironmentAgrees cluster namespaceName := by
  intro h
  have hagrees := h (clusterWithEnv [{ name := "STREAMLINE_LISTEN_ADDR", value := some "0.0.0.0:1" }])
    "streamline" (by decide)
  exact absurd hagrees.distinct (by decide)

end ClusterController

end StreamlineOperator.Controllers
