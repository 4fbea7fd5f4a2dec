/- source: the Kubernetes types that src/src/controllers/*.rs build and read
   digest: Kubernetes objects with the fields the operator sets or reads, and label selectors. -/

import StreamlineOperator.Foundation.Json

set_option autoImplicit false
set_option relaxedAutoImplicit false

namespace StreamlineOperator.Kubernetes

open Foundation

structure OwnerReference where
  apiVersion : String
  kind : String
  name : String
  uid : String
  controller : Option Bool
  blockOwnerDeletion : Option Bool
  deriving DecidableEq

structure ObjectMeta where
  name : Option String := none
  generateName : Option String := none
  namespaceName : Option String := none
  uid : Option String := none
  generation : Option Int64 := none
  deletionTimestamp : Option String := none
  finalizers : Option (List String) := none
  labels : Option StringMap := none
  ownerReferences : Option (List OwnerReference) := none
  deriving DecidableEq

namespace ObjectMeta

/-- `ResourceExt::name_any`. -/
def nameAny (self : ObjectMeta) : String :=
  (self.name <|> self.generateName).getD ""

/-- The namespace a controller works in for an object. -/
def namespaceOrDefault (self : ObjectMeta) : String :=
  self.namespaceName.getD "default"

/-- `finalizers.as_deref().unwrap_or_default()`. -/
def finalizerList (self : ObjectMeta) : List String := self.finalizers.getD []

end ObjectMeta

structure LabelSelector where
  matchLabels : Option StringMap := none
  deriving DecidableEq

structure ConfigMap where
  metadata : ObjectMeta := {}
  data : Option StringMap := none
  deriving DecidableEq

structure ServicePort where
  name : Option String := none
  port : Int32
  deriving DecidableEq

structure ServiceSpec where
  clusterIp : Option String := none
  selector : Option StringMap := none
  ports : Option (List ServicePort) := none
  publishNotReadyAddresses : Option Bool := none
  deriving DecidableEq

structure Service where
  metadata : ObjectMeta := {}
  spec : Option ServiceSpec := none
  deriving DecidableEq

structure SecretKeySelector where
  name : String
  key : String
  deriving DecidableEq

structure ConfigMapKeySelector where
  name : String
  key : String
  deriving DecidableEq

structure ObjectFieldSelector where
  fieldPath : String
  deriving DecidableEq

structure EnvVarSource where
  fieldRef : Option ObjectFieldSelector := none
  secretKeyRef : Option SecretKeySelector := none
  configMapKeyRef : Option ConfigMapKeySelector := none
  deriving DecidableEq

structure EnvVar where
  name : String
  value : Option String := none
  valueFrom : Option EnvVarSource := none
  deriving DecidableEq

structure ContainerPort where
  name : Option String := none
  containerPort : Int32
  deriving DecidableEq

structure ResourceRequirements where
  limits : Option StringMap := none
  requests : Option StringMap := none
  deriving DecidableEq

structure VolumeMount where
  name : String
  mountPath : String
  readOnly : Option Bool := none
  deriving DecidableEq

inductive IntOrString where
  | int (value : Int32)
  | string (value : String)
  deriving DecidableEq

structure HttpGetAction where
  path : Option String := none
  port : IntOrString
  deriving DecidableEq

structure Probe where
  httpGet : Option HttpGetAction := none
  initialDelaySeconds : Option Int32 := none
  periodSeconds : Option Int32 := none
  timeoutSeconds : Option Int32 := none
  failureThreshold : Option Int32 := none
  deriving DecidableEq

structure Container where
  name : String
  image : Option String := none
  imagePullPolicy : Option String := none
  ports : Option (List ContainerPort) := none
  env : Option (List EnvVar) := none
  resources : Option ResourceRequirements := none
  volumeMounts : Option (List VolumeMount) := none
  livenessProbe : Option Probe := none
  readinessProbe : Option Probe := none
  startupProbe : Option Probe := none
  deriving DecidableEq

structure ConfigMapVolumeSource where
  name : String
  deriving DecidableEq

structure SecretVolumeSource where
  secretName : Option String := none
  defaultMode : Option Int32 := none
  deriving DecidableEq

structure Volume where
  name : String
  configMap : Option ConfigMapVolumeSource := none
  secret : Option SecretVolumeSource := none
  deriving DecidableEq

structure PodSecurityContext where
  fsGroup : Option Int64 := none
  runAsNonRoot : Option Bool := none
  deriving DecidableEq

structure Toleration where
  key : Option String := none
  operator : Option String := none
  value : Option String := none
  effect : Option String := none
  tolerationSeconds : Option Int64 := none
  deriving DecidableEq

/-- The operator never sets an affinity or a spread constraint, so their shape is
left open. -/
structure PodSpec where
  serviceAccountName : Option String := none
  containers : List Container
  securityContext : Option PodSecurityContext := none
  nodeSelector : Option StringMap := none
  volumes : Option (List Volume) := none
  affinity : Option Json := none
  tolerations : Option (List Toleration) := none
  topologySpreadConstraints : Option (List Json) := none

structure PodTemplateSpec where
  metadata : Option ObjectMeta := none
  spec : Option PodSpec := none

structure PersistentVolumeClaimSpec where
  accessModes : Option (List String) := none
  storageClassName : Option String := none
  /-- The `requests` of its `resources`. -/
  requests : Option StringMap := none
  deriving DecidableEq

structure PersistentVolumeClaim where
  metadata : ObjectMeta := {}
  spec : Option PersistentVolumeClaimSpec := none
  deriving DecidableEq

structure RollingUpdateStatefulSetStrategy where
  maxUnavailable : Option IntOrString := none
  deriving DecidableEq

structure StatefulSetUpdateStrategy where
  type : Option String := none
  rollingUpdate : Option RollingUpdateStatefulSetStrategy := none
  deriving DecidableEq

structure StatefulSetSpec where
  replicas : Option Int32 := none
  selector : LabelSelector
  serviceName : String
  template : PodTemplateSpec
  volumeClaimTemplates : Option (List PersistentVolumeClaim) := none
  podManagementPolicy : Option String := none
  updateStrategy : Option StatefulSetUpdateStrategy := none

structure StatefulSet where
  metadata : ObjectMeta := {}
  spec : Option StatefulSetSpec := none

structure PodCondition where
  type : String
  status : String
  deriving DecidableEq

structure PodStatus where
  conditions : Option (List PodCondition) := none
  deriving DecidableEq

structure Pod where
  metadata : ObjectMeta := {}
  status : Option PodStatus := none
  deriving DecidableEq

structure MetricIdentifier where
  name : String
  selector : Option LabelSelector := none
  deriving DecidableEq

structure MetricTarget where
  type : String
  value : Option String := none
  averageValue : Option String := none
  averageUtilization : Option Int32 := none
  deriving DecidableEq

structure ResourceMetricSource where
  name : String
  target : MetricTarget
  deriving DecidableEq

/-- `PodsMetricSource` and `ExternalMetricSource` have the same fields. -/
structure IdentifiedMetricSource where
  metric : MetricIdentifier
  target : MetricTarget
  deriving DecidableEq

structure MetricSpec where
  type : String
  resource : Option ResourceMetricSource := none
  pods : Option IdentifiedMetricSource := none
  external : Option IdentifiedMetricSource := none
  deriving DecidableEq

structure HpaScalingPolicy where
  type : String
  value : Int32
  periodSeconds : Int32
  deriving DecidableEq

structure HpaScalingRules where
  stabilizationWindowSeconds : Option Int32 := none
  selectPolicy : Option String := none
  policies : Option (List HpaScalingPolicy) := none
  deriving DecidableEq

structure HorizontalPodAutoscalerBehavior where
  scaleUp : Option HpaScalingRules := none
  scaleDown : Option HpaScalingRules := none
  deriving DecidableEq

structure CrossVersionObjectReference where
  apiVersion : Option String := none
  kind : String
  name : String
  deriving DecidableEq

structure HorizontalPodAutoscalerSpec where
  scaleTargetRef : CrossVersionObjectReference
  minReplicas : Option Int32 := none
  maxReplicas : Int32
  metrics : Option (List MetricSpec) := none
  behavior : Option HorizontalPodAutoscalerBehavior := none
  deriving DecidableEq

structure HorizontalPodAutoscaler where
  metadata : ObjectMeta := {}
  spec : Option HorizontalPodAutoscalerSpec := none
  deriving DecidableEq

structure KedaTrigger where
  type : String
  metadata : StringMap := ∅
  deriving DecidableEq

structure ScaledObjectSpec where
  scaleTargetRef : CrossVersionObjectReference
  pollingInterval : Int32
  cooldownPeriod : Int32
  minReplicaCount : Int32
  maxReplicaCount : Int32
  triggers : List KedaTrigger
  deriving DecidableEq

/-- A KEDA ScaledObject, which the source builds as an untyped document. -/
structure ScaledObject where
  apiVersion : String
  kind : String
  metadata : ObjectMeta
  spec : ScaledObjectSpec
  deriving DecidableEq

/-! Label selectors. A list request carries its selector as text; only equality
terms (`key=value`, joined by commas) occur here. -/

def selectorTerm (term : List Char) : String × String :=
  (String.ofList (term.takeWhile (· ≠ '=')), String.ofList ((term.dropWhile (· ≠ '=')).drop 1))

/-- The requirements an equality-based selector text stands for. -/
def selectorRequirements (selector : String) : List (String × String) :=
  (selector.toList.splitOn ',').map selectorTerm

def ObjectMeta.labelMap (self : ObjectMeta) : StringMap := self.labels.getD ∅

/-- The API server lists an object under a selector when it meets every term. -/
def matchesSelector (selector : String) (metadata : ObjectMeta) : Bool :=
  (selectorRequirements selector).all (fun term => metadata.labelMap[term.1]? = some term.2)

/-- The object carries every one of the labels. -/
def carriesLabels (labels : StringMap) (metadata : ObjectMeta) : Bool :=
  labels.toList.all (fun label => metadata.labelMap[label.1]? = some label.2)

theorem carriesLabels_iff {labels : StringMap} {metadata : ObjectMeta} :
    carriesLabels labels metadata = true ↔
      ∀ (key value : String), labels[key]? = some value → metadata.labelMap[key]? = some value := by
  simp only [carriesLabels, List.all_eq_true, decide_eq_true_eq, Prod.forall,
    Std.ExtTreeMap.mem_toList_iff_getElem?_eq_some]

theorem selectorRequirements_single {key value : String} (hkey : ∀ c ∈ key.toList, c ≠ '=' ∧ c ≠ ',')
    (hvalue : ',' ∉ value.toList) :
    selectorRequirements (key ++ "=" ++ value) = [(key, value)] := by
  have hsplit : (key ++ "=" ++ value).toList.splitOn ',' = [(key ++ "=" ++ value).toList] := by
    apply List.splitOnP_eq_singleton
    intro c hc
    simp only [String.toList_append, List.mem_append] at hc
    rcases hc with (hc | hc) | hc
    · simpa using (hkey c hc).2
    · simp at hc
      simp [hc]
    · have hne : c ≠ ',' := fun he => hvalue (he ▸ hc)
      simpa using hne
  have htake : ∀ c ∈ key.toList, (decide (c ≠ '=')) = true := fun c hc => by
    simpa using (hkey c hc).1
  rw [selectorRequirements, hsplit]
  have hlist : (key ++ "=" ++ value).toList = key.toList ++ '=' :: value.toList := by simp
  simp only [List.map_cons, List.map_nil, selectorTerm, hlist]
  rw [List.takeWhile_append_of_pos htake, List.dropWhile_append_of_pos htake]
  simp

end StreamlineOperator.Kubernetes
