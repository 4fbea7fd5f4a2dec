/- source: src/src/controllers/cluster.rs (rendering)
   digest: The ConfigMap, Services and StatefulSet rendered for a cluster. -/

import StreamlineOperator.Crd.Resource

set_option autoImplicit false
set_option relaxedAutoImplicit false

namespace StreamlineOperator.Controllers

open Foundation
open Kubernetes (ObjectMeta OwnerReference ConfigMap ServicePort ServiceSpec Service Container
  ContainerPort VolumeMount Volume SecretVolumeSource Probe PodSpec PodTemplateSpec
  PersistentVolumeClaim StatefulSetUpdateStrategy StatefulSetSpec StatefulSet)
open Crd (StreamlineCluster ClusterStorage ClusterTls EnvVarRef)

namespace ClusterController

def configFileName : String := "streamline.toml"

def configMountPath : String := "/etc/streamline"

def configFilePath : String := "/etc/streamline/streamline.toml"

def tlsMountPath : String := "/etc/streamline-tls"

def tlsCaMountPath : String := "/etc/streamline-tls-ca"

def tlsVolumeName : String := "tls"

def tlsCaVolumeName : String := "tls-ca"

/-- The `[tls]` section, rendered when TLS is enabled. -/
def renderTls : Option ClusterTls → String
  | some tls =>
    if tls.enabled then
      "\n[tls]\n" ++ "enabled = true\n" ++ "cert = \"" ++ tlsMountPath ++ "/tls.crt\"\n" ++
        "key = \"" ++ tlsMountPath ++ "/tls.key\"\n" ++
        (if tls.mtlsEnabled then
          "require_client_cert = true\n" ++ "ca_cert = \"" ++ tlsCaMountPath ++ "/ca.crt\"\n"
        else "")
    else ""
  | none => ""

/-- The broker configuration file. -/
def renderConfig (cluster : StreamlineCluster) : String :=
  "# Managed by streamline-operator. Do not edit.\n" ++
    "# Rendered from StreamlineCluster/" ++ cluster.nameAny ++ "\n\n" ++
    "[server]\n" ++
    "listen_addr = \"0.0.0.0:" ++ toString cluster.spec.kafkaPort ++ "\"\n" ++
    "http_addr = \"0.0.0.0:" ++ toString cluster.spec.httpPort ++ "\"\n" ++
    "data_dir = \"/data\"\n" ++
    "log_level = \"" ++ cluster.spec.logLevel ++ "\"\n" ++
    renderTls cluster.spec.tls

/-- The values of the `[server]` section. -/
structure ServerSection where
  listenAddr : String
  httpAddr : String
  dataDir : String
  logLevel : String
  deriving DecidableEq, Repr

/-- The section with these values between its quotes. -/
def ServerSection.render (self : ServerSection) : String :=
  "[server]\n" ++ "listen_addr = \"" ++ self.listenAddr ++ "\"\n" ++
    "http_addr = \"" ++ self.httpAddr ++ "\"\n" ++ "data_dir = \"" ++ self.dataDir ++ "\"\n" ++
    "log_level = \"" ++ self.logLevel ++ "\"\n"

def serverSection (cluster : StreamlineCluster) : ServerSection where
  listenAddr := "0.0.0.0:" ++ toString cluster.spec.kafkaPort
  httpAddr := "0.0.0.0:" ++ toString cluster.spec.httpPort
  dataDir := "/data"
  logLevel := cluster.spec.logLevel

/-- The two comment lines in front of it. -/
def configHeader (cluster : StreamlineCluster) : String :=
  "# Managed by streamline-operator. Do not edit.\n" ++
    "# Rendered from StreamlineCluster/" ++ cluster.nameAny ++ "\n\n"

private theorem regroup (managed rendered name blank server listen any kafka close http web dir
    quote data level log tls listenKey httpKey dirLine : String) (hlisten : listenKey = listen ++ any)
    (hhttp : httpKey = http ++ any) (hdir : dirLine = dir ++ data ++ quote) :
    managed ++ rendered ++ name ++ blank ++ server ++ listenKey ++ kafka ++ close ++ httpKey ++ web ++
        close ++ dirLine ++ level ++ log ++ quote ++ tls =
      managed ++ rendered ++ name ++ blank ++
        (server ++ listen ++ (any ++ kafka) ++ close ++ http ++ (any ++ web) ++ close ++ dir ++ data ++
          quote ++ level ++ log ++ quote) ++ tls := by
  subst hlisten hhttp hdir
  simp only [String.append_assoc]

/-- The file is a header, the `[server]` section and the `[tls]` section. -/
theorem renderConfig_eq (cluster : StreamlineCluster) :
    renderConfig cluster =
      configHeader cluster ++ (serverSection cluster).render ++ renderTls cluster.spec.tls :=
  regroup _ _ _ _ _ _ "0.0.0.0:" _ _ _ _ _ _ "/data" _ _ _ _ _ _ (by simp) (by simp) (by simp)

def commonLabels (cluster : StreamlineCluster) : StringMap :=
  (((∅ : StringMap).insert "app.kubernetes.io/name" "streamline").insert
    "app.kubernetes.io/instance" cluster.nameAny).insert
    "app.kubernetes.io/managed-by" "streamline-operator"

def podSelector (cluster : StreamlineCluster) : StringMap :=
  ((∅ : StringMap).insert "app.kubernetes.io/name" "streamline").insert
    "app.kubernetes.io/instance" cluster.nameAny

def ownerReference (cluster : StreamlineCluster) : OwnerReference where
  apiVersion := "streamline.io/v1alpha1"
  kind := "StreamlineCluster"
  name := cluster.nameAny
  uid := cluster.metadata.uid.getD ""
  controller := some true
  blockOwnerDeletion := some true

/-- The metadata of a rendered child object. -/
def childMetadata (cluster : StreamlineCluster) (namespaceName name : String) : ObjectMeta where
  name := some name
  namespaceName := some namespaceName
  labels := some (commonLabels cluster)
  ownerReferences := some [ownerReference cluster]

@[simp] theorem childMetadata_nameAny (cluster : StreamlineCluster) (namespaceName name : String) :
    (childMetadata cluster namespaceName name).nameAny = name := rfl

@[simp] theorem childMetadata_namespaceOrDefault (cluster : StreamlineCluster)
    (namespaceName name : String) :
    (childMetadata cluster namespaceName name).namespaceOrDefault = namespaceName := rfl

def buildConfigmap (cluster : StreamlineCluster) (namespaceName : String) : ConfigMap where
  metadata := childMetadata cluster namespaceName (cluster.nameAny ++ "-config")
  data := some ((∅ : StringMap).insert configFileName (renderConfig cluster))

/-- The Service that `reconcile_headless_service` applies. -/
def headlessService (cluster : StreamlineCluster) (namespaceName : String) : Service where
  metadata := childMetadata cluster namespaceName (cluster.nameAny ++ "-headless")
  spec := some
    { clusterIp := some "None"
      selector := some (podSelector cluster)
      ports := some [
        { name := some "kafka", port := cluster.spec.kafkaPort },
        { name := some "http", port := cluster.spec.httpPort },
        { name := some "raft", port := cluster.spec.raftPort }]
      publishNotReadyAddresses := some true }

/-- The Service that `reconcile_client_service` applies. -/
def clientService (cluster : StreamlineCluster) (namespaceName : String) : Service where
  metadata := childMetadata cluster namespaceName cluster.nameAny
  spec := some
    { selector := some (podSelector cluster)
      ports := some [
        { name := some "kafka", port := cluster.spec.kafkaPort },
        { name := some "http", port := cluster.spec.httpPort }] }

def buildEnvVarSource : EnvVarRef → Kubernetes.EnvVarSource
  | .secret secret => { secretKeyRef := some ⟨secret.name, secret.key⟩ }
  | .configMap configMap => { configMapKeyRef := some ⟨configMap.name, configMap.key⟩ }

/-- The variables every broker container starts with. -/
def operatorEnv (cluster : StreamlineCluster) : List Kubernetes.EnvVar := [
  { name := "STREAMLINE_CONFIG", value := some configFilePath },
  { name := "STREAMLINE_DATA_DIR", value := some "/data" },
  { name := "STREAMLINE_LISTEN_ADDR",
    value := some ("0.0.0.0:" ++ toString cluster.spec.kafkaPort) },
  { name := "STREAMLINE_HTTP_ADDR",
    value := some ("0.0.0.0:" ++ toString cluster.spec.httpPort) },
  { name := "STREAMLINE_LOG_LEVEL", value := some cluster.spec.logLevel },
  { name := "POD_NAME", valueFrom := some { fieldRef := some ⟨"metadata.name"⟩ } },
  { name := "POD_NAMESPACE", valueFrom := some { fieldRef := some ⟨"metadata.namespace"⟩ } }]

/-- What one entry of `spec.env` renders to; an unmappable entry is dropped. -/
def buildEnvVar (env : Crd.EnvVar) : Option Kubernetes.EnvVar :=
  match env.resolveSource with
  | .ok none => some { name := env.name, value := env.value }
  | .ok (some source) => some { name := env.name, valueFrom := some (buildEnvVarSource source) }
  | .error _ => none

def insertQuantity (key : String) (quantity : Option String) (quantities : StringMap) :
    StringMap :=
  match quantity with
  | some quantity => quantities.insert key quantity
  | none => quantities

/-- One of the two halves of the resource requirements. -/
def buildResourceList (resources : Crd.ResourceList) : Option StringMap :=
  let quantities := insertQuantity "memory" resources.memory (insertQuantity "cpu" resources.cpu ∅)
  if quantities.isEmpty then none else some quantities

def buildResourceRequirements (spec : Crd.ResourceRequirements) :
    Kubernetes.ResourceRequirements where
  limits := buildResourceList spec.limits
  requests := buildResourceList spec.requests

def buildVolumeClaimTemplates (storage : ClusterStorage) : List PersistentVolumeClaim :=
  [{ metadata := { name := some "data" }
     spec := some
      { accessModes := some storage.accessModes
        storageClassName := storage.storageClassName
        requests := some ((∅ : StringMap).insert "storage" storage.size) } }]

/-- A certificate volume, readable by the broker's group. -/
def secretVolume (name secretName : String) : Volume where
  name := name
  secret := some { secretName := some secretName, defaultMode := some 0o440 }

def readOnlyMount (name mountPath : String) : VolumeMount where
  name := name
  mountPath := mountPath
  readOnly := some true

/-- The certificate volumes and their mounts. -/
def buildTlsVolumes : Option ClusterTls → List Volume × List VolumeMount
  | some tls =>
    if tls.enabled && !isBlank tls.secretName then
      match tls.caSecretName.filter (fun _ => tls.mtlsEnabled) with
      | some caSecret =>
        ([secretVolume tlsVolumeName tls.secretName, secretVolume tlsCaVolumeName caSecret],
          [readOnlyMount tlsVolumeName tlsMountPath, readOnlyMount tlsCaVolumeName tlsCaMountPath])
      | none =>
        ([secretVolume tlsVolumeName tls.secretName], [readOnlyMount tlsVolumeName tlsMountPath])
    else ([], [])
  | none => ([], [])

def buildConfigAndTlsVolumes (cluster : StreamlineCluster) : List Volume × List VolumeMount :=
  ({ name := "config", configMap := some ⟨cluster.nameAny ++ "-config"⟩ } ::
      (buildTlsVolumes cluster.spec.tls).1,
    readOnlyMount "config" configMountPath :: (buildTlsVolumes cluster.spec.tls).2)

/-- An HTTP probe on the broker's HTTP port. -/
def httpProbe (path : String) (httpPort initialDelay period timeout failures : Int32) :
    Probe where
  httpGet := some { path := some path, port := .int httpPort }
  initialDelaySeconds := some initialDelay
  periodSeconds := some period
  timeoutSeconds := some timeout
  failureThreshold := some failures

def buildContainer (cluster : StreamlineCluster) : Container where
  name := "streamline"
  image := some cluster.spec.image
  imagePullPolicy := some cluster.spec.imagePullPolicy
  ports := some [
    { name := some "kafka", containerPort := cluster.spec.kafkaPort },
    { name := some "http", containerPort := cluster.spec.httpPort },
    { name := some "raft", containerPort := cluster.spec.raftPort }]
  env := some (operatorEnv cluster ++ cluster.spec.env.filterMap buildEnvVar)
  resources := some (buildResourceRequirements cluster.spec.resources)
  volumeMounts := some
    ({ name := "data", mountPath := "/data" } :: (buildConfigAndTlsVolumes cluster).2)
  livenessProbe := some (httpProbe "/health" cluster.spec.httpPort 30 10 5 3)
  readinessProbe := some (httpProbe "/health/ready" cluster.spec.httpPort 10 5 3 3)
  startupProbe := some (httpProbe "/health" cluster.spec.httpPort 5 5 3 30)

def buildPodTemplate (cluster : StreamlineCluster) : PodTemplateSpec where
  metadata := some { labels := some (podSelector cluster) }
  spec := some
    { serviceAccountName := cluster.spec.serviceAccountName
      containers := [buildContainer cluster]
      securityContext := some { fsGroup := some 1000, runAsNonRoot := some true }
      nodeSelector :=
        if cluster.spec.nodeSelector.isEmpty then none else some cluster.spec.nodeSelector
      volumes := some (buildConfigAndTlsVolumes cluster).1 }

/-- Every type but `OnDelete` is rendered as a rolling update. -/
def buildUpdateStrategy (strategy : Crd.UpdateStrategy) : StatefulSetUpdateStrategy :=
  if strategy.type = "OnDelete" then { type := some "OnDelete" }
  else
    { type := some "RollingUpdate"
      rollingUpdate := strategy.maxUnavailable.map
        (fun max => { maxUnavailable := some (.int max) }) }

def buildStatefulset (cluster : StreamlineCluster) (namespaceName : String) : StatefulSet where
  metadata := childMetadata cluster namespaceName cluster.nameAny
  spec := some
    { replicas := some cluster.spec.replicas
      selector := { matchLabels := some (podSelector cluster) }
      serviceName := cluster.nameAny ++ "-headless"
      template := buildPodTemplate cluster
      volumeClaimTemplates := some (buildVolumeClaimTemplates cluster.spec.storage)
      podManagementPolicy := some "Parallel"
      updateStrategy := some (buildUpdateStrategy cluster.spec.updateStrategy) }

end ClusterController

end StreamlineOperator.Controllers
