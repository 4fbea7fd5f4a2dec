/- source: deploy/crds/{streamlinecluster,streamlinetopic,streamlineuser}-crd.yaml
   digest: The schemas of the installed definitions, and that the derived decoders fit them. -/

import StreamlineOperator.Crd.ClusterDecode
import StreamlineOperator.Crd.Resource
import StreamlineOperator.Crd.User
import StreamlineOperator.Foundation.StructuralSchema

set_option autoImplicit false
set_option relaxedAutoImplicit false

namespace StreamlineOperator.Crd

open Foundation
open Foundation.Schema (describes_bool describes_string describes_int32 describes_int64
  describes_list describes_stringMap describes_oneOf describes_object reads_bind reads_done
  reads_field reads_fieldOr reads_fieldOption)

/-! The schemas, block by block. The properties stand in the order of the Rust
fields; the manifests have them in alphabetical order. -/

def intJson (n : Int) : Json := .num (.int n)

def scalingPolicySchema : Schema :=
  .object [("type", .string), ("value", .integer .int32), ("periodSeconds", .integer .int32)]
    ["periodSeconds", "type", "value"]

def scalingRulesSchema : Schema :=
  .object [
    ("stabilizationWindowSeconds", .nullable (.integer .int32)),
    ("selectPolicy", .nullable .string),
    ("policies", .default (.arr []) (.array scalingPolicySchema))] []

def scalingBehaviorSchema : Schema :=
  .object [
    ("scaleUp", .nullable scalingRulesSchema),
    ("scaleDown", .nullable scalingRulesSchema)] []

def autoScalingSchema : Schema :=
  .object [
    ("enabled", .default (.bool false) .boolean),
    ("minReplicas", .default (intJson 1) (.integer .int32)),
    ("maxReplicas", .default (intJson 10) (.integer .int32)),
    ("targetCpuUtilization", .default (intJson 70) (.integer .int32)),
    ("targetMemoryUtilization", .default (intJson 80) (.integer .int32)),
    ("partitionAware", .default (.bool false) .boolean),
    ("targetLagPerPartition", .default (intJson 10000) (.integer .int64)),
    ("targetMessagesPerSecond", .default (intJson 100000) (.integer .int64)),
    ("behavior", .nullable scalingBehaviorSchema)] []

def resourceListSchema : Schema :=
  .object [("cpu", .nullable .string), ("memory", .nullable .string)] []

def resourceListDefault : Json := .obj [("cpu", .null), ("memory", .null)]

def resourceRequirementsSchema : Schema :=
  .object [
    ("limits", .default resourceListDefault resourceListSchema),
    ("requests", .default resourceListDefault resourceListSchema)] []

def clusterStorageSchema : Schema :=
  .object [
    ("storageClassName", .nullable .string),
    ("size", .default (.str "10Gi") .string),
    ("accessModes", .default (.arr [.str "ReadWriteOnce"]) (.array .string))] []

def clusterTlsSchema : Schema :=
  .object [
    ("enabled", .boolean),
    ("secretName", .string),
    ("mtlsEnabled", .default (.bool false) .boolean),
    ("caSecretName", .nullable .string),
    ("insecureSkipVerify", .default (.bool false) .boolean)] ["enabled", "secretName"]

/-- The reference to a key of a Secret, and that to a key of a ConfigMap. -/
def keyRefSchema : Schema := .object [("name", .string), ("key", .string)] ["key", "name"]

def envVarSourceSchema : Schema :=
  .object [
    ("secretKeyRef", .nullable keyRefSchema),
    ("configMapKeyRef", .nullable keyRefSchema)] []

def envVarSchema : Schema :=
  .object [
    ("name", .string),
    ("value", .nullable .string),
    ("valueFrom", .nullable envVarSourceSchema)] ["name"]

def tolerationSchema : Schema :=
  .object [
    ("key", .nullable .string),
    ("operator", .nullable .string),
    ("value", .nullable .string),
    ("effect", .nullable .string),
    ("tolerationSeconds", .nullable (.integer .int64))] []

def rackAwarenessSchema : Schema :=
  .object [
    ("enabled", .boolean),
    ("topologyKey", .default (.str "topology.kubernetes.io/zone") .string)] ["enabled"]

def updateStrategySchema : Schema :=
  .object [
    ("type", .default (.str "RollingUpdate") .string),
    ("maxUnavailable", .nullable (.integer .int32))] []

def clusterSpecSchema : Schema :=
  .object [
    ("replicas", .default (intJson 1) (.integer .int32)),
    ("image", .default (.str "ghcr.io/streamlinelabs/streamline:0.4.0") .string),
    ("imagePullPolicy", .default (.str "IfNotPresent") .string),
    ("resources", .default
      (.obj [("limits", resourceListDefault), ("requests", resourceListDefault)])
      resourceRequirementsSchema),
    ("storage", .default
      (.obj [("accessModes", .arr [.str "ReadWriteOnce"]), ("size", .str "10Gi"),
        ("storageClassName", .null)]) clusterStorageSchema),
    ("tls", .nullable clusterTlsSchema),
    ("kafkaPort", .default (intJson 9092) (.integer .int32)),
    ("httpPort", .default (intJson 9094) (.integer .int32)),
    ("raftPort", .default (intJson 9095) (.integer .int32)),
    ("env", .default (.arr []) (.array envVarSchema)),
    ("nodeSelector", .default (.obj []) (.map .string)),
    ("tolerations", .default (.arr []) (.array tolerationSchema)),
    ("podAntiAffinity", .default (.bool false) .boolean),
    ("rackAwareness", .nullable rackAwarenessSchema),
    ("serviceAccountName", .nullable .string),
    ("logLevel", .default (.str "info") .string),
    ("metricsEnabled", .default (.bool true) .boolean),
    ("updateStrategy", .default
      (.obj [("maxUnavailable", intJson 1), ("type", .str "RollingUpdate")]) updateStrategySchema),
    ("autoscaling", .nullable autoScalingSchema)] []

def topicConfigSchema : Schema :=
  .object [
    ("minInsyncReplicas", .nullable (.integer .int32)),
    ("maxMessageBytes", .nullable (.integer .int64)),
    ("segmentBytes", .nullable (.integer .int64)),
    ("indexIntervalBytes", .nullable (.integer .int64)),
    ("flushIntervalMs", .nullable (.integer .int64)),
    ("flushMessages", .nullable (.integer .int64)),
    ("custom", .default (.obj []) (.map .string))] []

def retentionConfigSchema : Schema :=
  .object [
    ("retentionMs", .default (intJson (-1)) (.integer .int64)),
    ("retentionBytes", .default (intJson (-1)) (.integer .int64)),
    ("cleanupPolicy", .default (.str "delete") .string)] []

def compressionConfigSchema : Schema :=
  .object [("type", .default (.str "producer") .string)] []

def topicSpecSchema : Schema :=
  .object [
    ("clusterRef", .string),
    ("partitions", .default (intJson 3) (.integer .int32)),
    ("replicationFactor", .default (intJson 1) (.integer .int32)),
    ("config", .default
      (.obj [("custom", .obj []), ("flushIntervalMs", .null), ("flushMessages", .null),
        ("indexIntervalBytes", .null), ("maxMessageBytes", .null), ("minInsyncReplicas", .null),
        ("segmentBytes", .null)]) topicConfigSchema),
    ("retention", .default
      (.obj [("cleanupPolicy", .str "delete"), ("retentionBytes", intJson (-1)),
        ("retentionMs", intJson (-1))]) retentionConfigSchema),
    ("compression", .default (.obj [("type", .str "producer")]) compressionConfigSchema)]
    ["clusterRef"]

def secretReferenceSchema : Schema :=
  .object [("name", .string), ("key", .default (.str "password") .string)] ["name"]

def userCredentialsSchema : Schema :=
  .object [("secretRef", .nullable secretReferenceSchema), ("value", .nullable .string)] []

def userAuthenticationSchema : Schema :=
  .object [
    ("type", .oneOf ["scram-sha256", "scram-sha512", "plain", "tls-client-auth"]),
    ("credentials", .nullable userCredentialsSchema)] ["type"]

def userAclSchema : Schema :=
  .object [
    ("resourceType", .oneOf ["topic", "group", "cluster", "transactionalId"]),
    ("resourceName", .string),
    ("patternType", .default (.str "literal") (.oneOf ["literal", "prefixed"])),
    ("operations", .array (.oneOf ["read", "write", "create", "delete", "alter", "describe",
      "describeConfigs", "alterConfigs", "idempotentWrite", "all"])),
    ("permission", .default (.str "allow") (.oneOf ["allow", "deny"]))]
    ["operations", "resourceName", "resourceType"]

def userAuthorizationSchema : Schema :=
  .object [
    ("type", .default (.str "simple") (.oneOf ["simple", "rbac"])),
    ("acls", .default (.arr []) (.array userAclSchema)),
    ("roles", .default (.arr []) (.array .string))] []

def userQuotasSchema : Schema :=
  .object [
    ("producerByteRate", .nullable (.integer .int64)),
    ("consumerByteRate", .nullable (.integer .int64)),
    ("requestRate", .nullable (.integer .int32)),
    ("connectionRate", .nullable (.integer .int32))] []

def userSpecSchema : Schema :=
  .object [
    ("clusterRef", .string),
    ("authentication", userAuthenticationSchema),
    ("authorization", .default
      (.obj [("acls", .arr []), ("roles", .arr []), ("type", .str "simple")])
      userAuthorizationSchema),
    ("quotas", .nullable userQuotasSchema)] ["authentication", "clusterRef"]

/-- The conditions of all three kinds. -/
def conditionSchema : Schema :=
  .object [
    ("type", .string),
    ("status", .string),
    ("lastTransitionTime", .nullable .string),
    ("reason", .nullable .string),
    ("message", .nullable .string)] ["status", "type"]

def clusterStatusSchema : Schema :=
  .object [
    ("phase", .default (.str "Pending")
      (.oneOf ["Pending", "Running", "Scaling", "Upgrading", "Failed", "Terminating"])),
    ("readyReplicas", .default (intJson 0) (.integer .int32)),
    ("replicas", .default (intJson 0) (.integer .int32)),
    ("leaderId", .nullable (.integer .int32)),
    ("brokerEndpoints", .default (.arr []) (.array .string)),
    ("conditions", .default (.arr []) (.array conditionSchema)),
    ("observedGeneration", .nullable (.integer .int64)),
    ("lastUpdated", .nullable .string)] []

def partitionAssignmentSchema : Schema :=
  .object [
    ("partition", .integer .int32),
    ("leader", .integer .int32),
    ("replicas", .array (.integer .int32)),
    ("isr", .array (.integer .int32))] ["isr", "leader", "partition", "replicas"]

def topicStatusSchema : Schema :=
  .object [
    ("ready", .default (.bool false) .boolean),
    ("phase", .default (.str "Pending")
      (.oneOf ["Pending", "Ready", "Updating", "Failed", "Terminating"])),
    ("partitions", .default (intJson 0) (.integer .int32)),
    ("replicationFactor", .default (intJson 0) (.integer .int32)),
    ("partitionAssignments", .default (.arr []) (.array partitionAssignmentSchema)),
    ("conditions", .default (.arr []) (.array conditionSchema)),
    ("observedGeneration", .nullable (.integer .int64)),
    ("lastUpdated", .nullable .string),
    ("errorMessage", .nullable .string)] []

def userStatusSchema : Schema :=
  .object [
    ("ready", .default (.bool false) .boolean),
    ("phase", .default (.str "Pending")
      (.oneOf ["Pending", "Unsupported", "Ready", "Updating", "Failed", "Terminating"])),
    ("username", .nullable .string),
    ("credentialsSecret", .nullable .string),
    ("conditions", .default (.arr []) (.array conditionSchema)),
    ("observedGeneration", .nullable (.integer .int64)),
    ("lastUpdated", .nullable .string),
    ("errorMessage", .nullable .string)] []

/-! Block by block, the decoder fits the schema. -/

theorem describes_scalingPolicy : scalingPolicySchema.Describes ScalingPolicySpec.decode :=
  describes_object (by decide) <|
    reads_bind (reads_field (by decide) describes_string) fun _ =>
    reads_bind (reads_field (by decide) describes_int32) fun _ =>
    reads_bind (reads_field (by decide) describes_int32) fun _ => reads_done _

theorem describes_scalingRules : scalingRulesSchema.Describes ScalingRulesSpec.decode :=
  describes_object (by decide) <|
    reads_bind (reads_fieldOption describes_int32 rfl) fun _ =>
    reads_bind (reads_fieldOption describes_string rfl) fun _ =>
    reads_bind (reads_fieldOr (describes_list describes_scalingPolicy) rfl rfl) fun _ => reads_done _

theorem describes_scalingBehavior : scalingBehaviorSchema.Describes ScalingBehaviorSpec.decode :=
  describes_object (by decide) <|
    reads_bind (reads_fieldOption describes_scalingRules rfl) fun _ =>
    reads_bind (reads_fieldOption describes_scalingRules rfl) fun _ => reads_done _

theorem describes_autoScaling : autoScalingSchema.Describes AutoScalingSpec.decode :=
  describes_object (by decide) <|
    reads_bind (reads_fieldOr describes_bool rfl rfl) fun _ =>
    reads_bind (reads_fieldOr describes_int32 rfl rfl) fun _ =>
    reads_bind (reads_fieldOr describes_int32 rfl rfl) fun _ =>
    reads_bind (reads_fieldOr describes_int32 rfl rfl) fun _ =>
    reads_bind (reads_fieldOr describes_int32 rfl rfl) fun _ =>
    reads_bind (reads_fieldOr describes_bool rfl rfl) fun _ =>
    reads_bind (reads_fieldOr describes_int64 rfl rfl) fun _ =>
    reads_bind (reads_fieldOr describes_int64 rfl rfl) fun _ =>
    reads_bind (reads_fieldOption describes_scalingBehavior rfl) fun _ => reads_done _

theorem describes_resourceList : resourceListSchema.Describes ResourceList.decode :=
  describes_object (by decide) <|
    reads_bind (reads_fieldOption describes_string rfl) fun _ =>
    reads_bind (reads_fieldOption describes_string rfl) fun _ => reads_done _

theorem describes_resourceRequirements : resourceRequirementsSchema.Describes ResourceRequirements.decode :=
  describes_object (by decide) <|
    reads_bind (reads_fieldOr describes_resourceList rfl rfl) fun _ =>
    reads_bind (reads_fieldOr describes_resourceList rfl rfl) fun _ => reads_done _

theorem describes_clusterStorage : clusterStorageSchema.Describes ClusterStorage.decode :=
  describes_object (by decide) <|
    reads_bind (reads_fieldOption describes_string rfl) fun _ =>
    reads_bind (reads_fieldOr describes_string rfl rfl) fun _ =>
    reads_bind (reads_fieldOr (describes_list describes_string) rfl rfl) fun _ => reads_done _

theorem describes_clusterTls : clusterTlsSchema.Describes ClusterTls.decode :=
  describes_object (by decide) <|
    reads_bind (reads_field (by decide) describes_bool) fun _ =>
    reads_bind (reads_field (by decide) describes_string) fun _ =>
    reads_bind (reads_fieldOr describes_bool rfl rfl) fun _ =>
    reads_bind (reads_fieldOption describes_string rfl) fun _ =>
    reads_bind (reads_fieldOr describes_bool rfl rfl) fun _ => reads_done _

theorem describes_secretKeyRef : keyRefSchema.Describes SecretKeyRef.decode :=
  describes_object (by decide) <|
    reads_bind (reads_field (by decide) describes_string) fun _ =>
    reads_bind (reads_field (by decide) describes_string) fun _ => reads_done _

theorem describes_configMapKeyRef : keyRefSchema.Describes ConfigMapKeyRef.decode :=
  describes_object (by decide) <|
    reads_bind (reads_field (by decide) describes_string) fun _ =>
    reads_bind (reads_field (by decide) describes_string) fun _ => reads_done _

theorem describes_envVarSource : envVarSourceSchema.Describes EnvVarSource.decode :=
  describes_object (by decide) <|
    reads_bind (reads_fieldOption describes_secretKeyRef rfl) fun _ =>
    reads_bind (reads_fieldOption describes_configMapKeyRef rfl) fun _ => reads_done _

theorem describes_envVar : envVarSchema.Describes EnvVar.decode :=
  describes_object (by decide) <|
    reads_bind (reads_field (by decide) describes_string) fun _ =>
    reads_bind (reads_fieldOption describes_string rfl) fun _ =>
    reads_bind (reads_fieldOption describes_envVarSource rfl) fun _ => reads_done _

theorem describes_toleration : tolerationSchema.Describes Toleration.decode :=
  describes_object (by decide) <|
    reads_bind (reads_fieldOption describes_string rfl) fun _ =>
    reads_bind (reads_fieldOption describes_string rfl) fun _ =>
    reads_bind (reads_fieldOption describes_string rfl) fun _ =>
    reads_bind (reads_fieldOption describes_string rfl) fun _ =>
    reads_bind (reads_fieldOption describes_int64 rfl) fun _ => reads_done _

theorem describes_rackAwareness : rackAwarenessSchema.Describes RackAwareness.decode :=
  describes_object (by decide) <|
    reads_bind (reads_field (by decide) describes_bool) fun _ =>
    reads_bind (reads_fieldOr describes_string rfl rfl) fun _ => reads_done _

theorem describes_updateStrategy : updateStrategySchema.Describes UpdateStrategy.decode :=
  describes_object (by decide) <|
    reads_bind (reads_fieldOr describes_string rfl rfl) fun _ =>
    reads_bind (reads_fieldOption describes_int32 rfl) fun _ => reads_done _

theorem describes_clusterSpec : clusterSpecSchema.Describes ClusterSpec.decode :=
  describes_object (by decide) <|
    reads_bind (reads_fieldOr describes_int32 rfl rfl) fun _ =>
    reads_bind (reads_fieldOr describes_string rfl rfl) fun _ =>
    reads_bind (reads_fieldOr describes_string rfl rfl) fun _ =>
    reads_bind (reads_fieldOr describes_resourceRequirements rfl rfl) fun _ =>
    reads_bind (reads_fieldOr describes_clusterStorage rfl rfl) fun _ =>
    reads_bind (reads_fieldOption describes_clusterTls rfl) fun _ =>
    reads_bind (reads_fieldOr describes_int32 rfl rfl) fun _ =>
    reads_bind (reads_fieldOr describes_int32 rfl rfl) fun _ =>
    reads_bind (reads_fieldOr describes_int32 rfl rfl) fun _ =>
    reads_bind (reads_fieldOr (describes_list describes_envVar) rfl rfl) fun _ =>
    reads_bind (reads_fieldOr describes_stringMap rfl rfl) fun _ =>
    reads_bind (reads_fieldOr (describes_list describes_toleration) rfl rfl) fun _ =>
    reads_bind (reads_fieldOr describes_bool rfl rfl) fun _ =>
    reads_bind (reads_fieldOption describes_rackAwareness rfl) fun _ =>
    reads_bind (reads_fieldOption describes_string rfl) fun _ =>
    reads_bind (reads_fieldOr describes_string rfl rfl) fun _ =>
    reads_bind (reads_fieldOr describes_bool rfl rfl) fun _ =>
    reads_bind (reads_fieldOr describes_updateStrategy rfl rfl) fun _ =>
    reads_bind (reads_fieldOption describes_autoScaling rfl) fun _ => reads_done _

theorem describes_topicConfig : topicConfigSchema.Describes TopicConfig.decode :=
  describes_object (by decide) <|
    reads_bind (reads_fieldOption describes_int32 rfl) fun _ =>
    reads_bind (reads_fieldOption describes_int64 rfl) fun _ =>
    reads_bind (reads_fieldOption describes_int64 rfl) fun _ =>
    reads_bind (reads_fieldOption describes_int64 rfl) fun _ =>
    reads_bind (reads_fieldOption describes_int64 rfl) fun _ =>
    reads_bind (reads_fieldOption describes_int64 rfl) fun _ =>
    reads_bind (reads_fieldOr describes_stringMap rfl rfl) fun _ => reads_done _

theorem describes_retentionConfig : retentionConfigSchema.Describes RetentionConfig.decode :=
  describes_object (by decide) <|
    reads_bind (reads_fieldOr describes_int64 rfl rfl) fun _ =>
    reads_bind (reads_fieldOr describes_int64 rfl rfl) fun _ =>
    reads_bind (reads_fieldOr describes_string rfl rfl) fun _ => reads_done _

theorem describes_compressionConfig : compressionConfigSchema.Describes CompressionConfig.decode :=
  describes_object (by decide) <|
    reads_bind (reads_fieldOr describes_string rfl rfl) fun _ => reads_done _

theorem describes_topicSpec : topicSpecSchema.Describes TopicSpec.decode :=
  describes_object (by decide) <|
    reads_bind (reads_field (by decide) describes_string) fun _ =>
    reads_bind (reads_fieldOr describes_int32 rfl rfl) fun _ =>
    reads_bind (reads_fieldOr describes_int32 rfl rfl) fun _ =>
    reads_bind (reads_fieldOr describes_topicConfig rfl rfl) fun _ =>
    reads_bind (reads_fieldOr describes_retentionConfig rfl rfl) fun _ =>
    reads_bind (reads_fieldOr describes_compressionConfig rfl rfl) fun _ => reads_done _

theorem describes_secretReference : secretReferenceSchema.Describes SecretReference.decode :=
  describes_object (by decide) <|
    reads_bind (reads_field (by decide) describes_string) fun _ =>
    reads_bind (reads_fieldOr describes_string rfl rfl) fun _ => reads_done _

theorem describes_userCredentials : userCredentialsSchema.Describes UserCredentials.decode :=
  describes_object (by decide) <|
    reads_bind (reads_fieldOption describes_secretReference rfl) fun _ =>
    reads_bind (reads_fieldOption describes_string rfl) fun _ => reads_done _

theorem describes_userAuthentication : userAuthenticationSchema.Describes UserAuthentication.decode :=
  describes_object (by decide) <|
    reads_bind (reads_field (by decide) (describes_oneOf (by decide))) fun _ =>
    reads_bind (reads_fieldOption describes_userCredentials rfl) fun _ => reads_done _

theorem describes_userAcl : userAclSchema.Describes UserAcl.decode :=
  describes_object (by decide) <|
    reads_bind (reads_field (by decide) (describes_oneOf (by decide))) fun _ =>
    reads_bind (reads_field (by decide) describes_string) fun _ =>
    reads_bind (reads_fieldOr (describes_oneOf (by decide)) rfl rfl) fun _ =>
    reads_bind (reads_field (by decide) (describes_list (describes_oneOf (by decide)))) fun _ =>
    reads_bind (reads_fieldOr (describes_oneOf (by decide)) rfl rfl) fun _ => reads_done _

theorem describes_userAuthorization : userAuthorizationSchema.Describes UserAuthorization.decode :=
  describes_object (by decide) <|
    reads_bind (reads_fieldOr (describes_oneOf (by decide)) rfl rfl) fun _ =>
    reads_bind (reads_fieldOr (describes_list describes_userAcl) rfl rfl) fun _ =>
    reads_bind (reads_fieldOr (describes_list describes_string) rfl rfl) fun _ => reads_done _

theorem describes_userQuotas : userQuotasSchema.Describes UserQuotas.decode :=
  describes_object (by decide) <|
    reads_bind (reads_fieldOption describes_int64 rfl) fun _ =>
    reads_bind (reads_fieldOption describes_int64 rfl) fun _ =>
    reads_bind (reads_fieldOption describes_int32 rfl) fun _ =>
    reads_bind (reads_fieldOption describes_int32 rfl) fun _ => reads_done _

theorem describes_userSpec : userSpecSchema.Describes UserSpec.decode :=
  describes_object (by decide) <|
    reads_bind (reads_field (by decide) describes_string) fun _ =>
    reads_bind (reads_field (by decide) describes_userAuthentication) fun _ =>
    reads_bind (reads_fieldOr describes_userAuthorization rfl rfl) fun _ =>
    reads_bind (reads_fieldOption describes_userQuotas rfl) fun _ => reads_done _

theorem describes_condition : conditionSchema.Describes decodeCondition :=
  describes_object (by decide) <|
    reads_bind (reads_field (by decide) describes_string) fun _ =>
    reads_bind (reads_field (by decide) describes_string) fun _ =>
    reads_bind (reads_fieldOption describes_string rfl) fun _ =>
    reads_bind (reads_fieldOption describes_string rfl) fun _ =>
    reads_bind (reads_fieldOption describes_string rfl) fun _ => reads_done _

theorem describes_clusterStatus : clusterStatusSchema.Describes ClusterStatus.decode :=
  describes_object (by decide) <|
    reads_bind (reads_fieldOr (describes_oneOf (by decide)) rfl rfl) fun _ =>
    reads_bind (reads_fieldOr describes_int32 rfl rfl) fun _ =>
    reads_bind (reads_fieldOr describes_int32 rfl rfl) fun _ =>
    reads_bind (reads_fieldOption describes_int32 rfl) fun _ =>
    reads_bind (reads_fieldOr (describes_list describes_string) rfl rfl) fun _ =>
    reads_bind (reads_fieldOr (describes_list describes_condition) rfl rfl) fun _ =>
    reads_bind (reads_fieldOption describes_int64 rfl) fun _ =>
    reads_bind (reads_fieldOption describes_string rfl) fun _ => reads_done _

theorem describes_partitionAssignment : partitionAssignmentSchema.Describes PartitionAssignment.decode :=
  describes_object (by decide) <|
    reads_bind (reads_field (by decide) describes_int32) fun _ =>
    reads_bind (reads_field (by decide) describes_int32) fun _ =>
    reads_bind (reads_field (by decide) (describes_list describes_int32)) fun _ =>
    reads_bind (reads_field (by decide) (describes_list describes_int32)) fun _ => reads_done _

theorem describes_topicStatus : topicStatusSchema.Describes TopicStatus.decode :=
  describes_object (by decide) <|
    reads_bind (reads_fieldOr describes_bool rfl rfl) fun _ =>
    reads_bind (reads_fieldOr (describes_oneOf (by decide)) rfl rfl) fun _ =>
    reads_bind (reads_fieldOr describes_int32 rfl rfl) fun _ =>
    reads_bind (reads_fieldOr describes_int32 rfl rfl) fun _ =>
    reads_bind (reads_fieldOr (describes_list describes_partitionAssignment) rfl rfl) fun _ =>
    reads_bind (reads_fieldOr (describes_list describes_condition) rfl rfl) fun _ =>
    reads_bind (reads_fieldOption describes_int64 rfl) fun _ =>
    reads_bind (reads_fieldOption describes_string rfl) fun _ =>
    reads_bind (reads_fieldOption describes_string rfl) fun _ => reads_done _

theorem describes_userStatus : userStatusSchema.Describes UserStatus.decode :=
  describes_object (by decide) <|
    reads_bind (reads_fieldOr describes_bool rfl rfl) fun _ =>
    reads_bind (reads_fieldOr (describes_oneOf (by decide)) rfl rfl) fun _ =>
    reads_bind (reads_fieldOption describes_string rfl) fun _ =>
    reads_bind (reads_fieldOption describes_string rfl) fun _ =>
    reads_bind (reads_fieldOr (describes_list describes_condition) rfl rfl) fun _ =>
    reads_bind (reads_fieldOption describes_int64 rfl) fun _ =>
    reads_bind (reads_fieldOption describes_string rfl) fun _ =>
    reads_bind (reads_fieldOption describes_string rfl) fun _ => reads_done _

/-! A definition, and what the API server makes of a document under it. -/

/-- The parts of a custom resource definition that speak of documents. -/
structure CustomResourceDefinition where
  spec : Schema
  status : Schema

namespace CustomResourceDefinition

def properties (self : CustomResourceDefinition) : List (String × Schema) :=
  [("spec", self.spec), ("status", .nullable self.status)]

def root (self : CustomResourceDefinition) : Schema := .object self.properties ["spec"]

/-- The members of every object, which no definition speaks of. -/
def commonMembers : List String := ["apiVersion", "kind", "metadata"]

/-- The members of a document after defaulting and pruning. -/
def completeMembers (self : CustomResourceDefinition) (ms : Members) : Members :=
  ms.filter (fun m => m.1 ∈ commonMembers) ++ Schema.completeMembers self.properties ms

def complete (self : CustomResourceDefinition) : Json → Json
  | .obj ms => .obj (self.completeMembers ms)
  | document => document

/-- What the API server stores of a document, or returns of a stored one: it is
completed, then validated. -/
def receive (self : CustomResourceDefinition) (document : Json) : Option Json :=
  if self.root.admits (self.complete document) then some (self.complete document) else none

/-- The decoders fit the definition, and its defaults are admitted. -/
structure Fits {Spec : Type} (crd : CustomResourceDefinition) (Status : Type)
    [StatusCodec Status] (decodeSpec : Decoder Spec) : Prop where
  spec : crd.spec.Describes decodeSpec
  status : crd.status.Describes (StatusCodec.decode : Decoder Status)
  sound : crd.root.sound = true
  absent : crd.status.fallback = none

/-- How a controller reads what is stored of a document: whenever the integers
are in range; the same however often it is completed; and as it would have read
the document, if that was admitted as it stood. -/
structure ReadsStored {Spec : Type} (crd : CustomResourceDefinition) (Status : Type)
    [StatusCodec Status] (decodeSpec : Decoder Spec) (document stored : Json) : Prop where
  reads : (decodeResource decodeSpec stored : Option (CustomResource Spec Status)).isSome = true ↔
    crd.root.inRange stored = true
  settled : crd.receive stored = some stored
  transparent : crd.root.admits document = true →
    (decodeResource decodeSpec stored : Option (CustomResource Spec Status)) =
      decodeResource decodeSpec document

/-- So it reads all that is stored, metadata permitting. -/
def Serves {Spec : Type} (self : CustomResourceDefinition) (Status : Type) [StatusCodec Status]
    (decodeSpec : Decoder Spec) : Prop :=
  ∀ document stored, self.receive document = some stored →
    (Decoder.field decodeObjectMeta document.members "metadata").isSome = true →
      self.ReadsStored Status decodeSpec document stored

section Fits

variable {Spec Status : Type} [StatusCodec Status] {decodeSpec : Decoder Spec}
variable {self : CustomResourceDefinition} {ms : Members} {name : String}

theorem lookup_completeMembers (name : String) :
    (self.completeMembers ms).lookup name =
      (if name ∈ commonMembers then ms.lookup name else none).or
        ((Schema.completeMembers self.properties ms).lookup name) := by
  rw [completeMembers, Members.lookup, List.lookup_append]
  exact congrArg (fun found => Option.or found _)
    (Members.lookup_filter (· ∈ commonMembers) ms name)

theorem lookup_metadata : (self.completeMembers ms).lookup "metadata" = ms.lookup "metadata" := by
  have habsent : (Schema.completeMembers self.properties ms).lookup "metadata" = none :=
    Schema.lookup_completeMembers_of_not_mem (by simp [properties])
  rw [lookup_completeMembers, habsent, Option.or_none, if_pos (by decide)]

theorem lookup_property (hdistinct : (self.properties.map Prod.fst).Nodup) {p : String × Schema}
    (hp : p ∈ self.properties) :
    (self.completeMembers ms).lookup p.1 = (p.2.supply (ms.lookup p.1)).map p.2.complete := by
  have hother : p.1 ∉ commonMembers := by
    simp only [properties, List.mem_cons, List.not_mem_nil, or_false] at hp
    rcases hp with rfl | rfl <;> simp [commonMembers]
  rw [lookup_completeMembers, if_neg hother, Option.none_or]
  exact Schema.lookup_completeMembers hdistinct hp

/-- Spec and status of an object, as its decoder reads them. -/
def readParts (Status : Type) [StatusCodec Status] (decodeSpec : Decoder Spec) (ms : Members) :
    Option (Spec × Option Status) :=
  Decoder.field decodeSpec ms "spec" >>= fun spec =>
    Decoder.fieldOption StatusCodec.decode ms "status" >>= fun status => some (spec, status)

theorem decodeResource_eq (ms : Members) :
    (decodeResource decodeSpec (.obj ms) : Option (CustomResource Spec Status)) =
      Decoder.field decodeObjectMeta ms "metadata" >>= fun metadata =>
        readParts Status decodeSpec ms >>= fun parts =>
          some { metadata, spec := parts.1, status := parts.2 } := by
  simp only [decodeResource, readParts, Decoder.struct, Option.bind_eq_bind, Option.bind_some,
    Option.bind_assoc]

theorem reads_parts (hfits : self.Fits Status decodeSpec) :
    Schema.Reads ["spec"] self.properties (readParts Status decodeSpec) :=
  reads_bind (reads_field (by decide) hfits.spec) fun _ =>
    reads_bind (reads_fieldOption hfits.status hfits.absent) fun _ => reads_done _

theorem lookup_schema_completeMembers (hdistinct : (self.properties.map Prod.fst).Nodup)
    {p : String × Schema} (hp : p ∈ self.properties) :
    (Schema.completeMembers self.properties ms).lookup p.1 =
      (self.completeMembers ms).lookup p.1 := by
  rw [lookup_property hdistinct hp]
  exact Schema.lookup_completeMembers hdistinct hp

/-- A completed document that is admitted is complete. -/
theorem completeMembers_completeMembers (hsound : self.root.sound = true)
    (hadmits : self.root.admits (self.complete (.obj ms)) = true) :
    self.completeMembers (self.completeMembers ms) = self.completeMembers ms := by
  obtain ⟨hdistinct, -, -⟩ := Schema.sound_object.mp hsound
  have hadmitsAll := Schema.admits_object.mp hadmits
  have hproperties : Schema.AdmitsAll self.properties ["spec"]
      (Schema.completeMembers self.properties ms) := by
    refine ⟨fun name hname => ?_, fun p hp => ?_⟩
    · obtain rfl := List.mem_singleton.mp hname
      have hspec : ("spec", self.spec) ∈ self.properties := by simp [properties]
      exact lookup_schema_completeMembers hdistinct hspec ▸ hadmitsAll.required "spec" (by simp)
    · rw [lookup_schema_completeMembers hdistinct hp]
      exact hadmitsAll.admitted p hp
  have htwice := @Schema.complete_complete self.root (.obj ms) hsound
    (Schema.admits_object.mpr hproperties)
  have hschema : Schema.completeMembers self.properties (self.completeMembers ms) =
      Schema.completeMembers self.properties ms := by
    refine Eq.trans (Schema.completeMembers_congr fun p hp => ?_) (Json.obj.inj htwice)
    rw [lookup_schema_completeMembers hdistinct hp]
  have hcommon : (self.completeMembers ms).filter (fun m => m.1 ∈ commonMembers) =
      ms.filter (fun m => m.1 ∈ commonMembers) := by
    have hnone : (Schema.completeMembers self.properties ms).filter
        (fun m => m.1 ∈ commonMembers) = [] := by
      rw [List.filter_eq_nil_iff]
      intro m hm
      have hname := Schema.mem_completeMembers hm
      simp only [properties, List.map_cons, List.map_nil, List.mem_cons, List.not_mem_nil,
        or_false] at hname
      rcases hname with hname | hname <;> simp [hname, commonMembers]
    rw [completeMembers, List.filter_append, List.filter_filter, hnone, List.append_nil]
    simp only [Bool.and_self]
  rw [completeMembers, hschema, hcommon, completeMembers]

theorem receive_of_admits (hsound : self.root.sound = true) {document : Json}
    (hadmits : self.root.admits document = true) :
    self.receive document = some (self.complete document) := by
  obtain ⟨ms, rfl, hms⟩ := Schema.exists_of_admits_object hadmits
  obtain ⟨hdistinct, -, -⟩ := Schema.sound_object.mp hsound
  have hcompleted := Schema.admits_object.mp (Schema.admits_complete hsound hadmits)
  refine if_pos (Schema.admits_object.mpr ⟨fun name hname => ?_, fun p hp => ?_⟩)
  · obtain rfl := List.mem_singleton.mp hname
    have hspec : ("spec", self.spec) ∈ self.properties := by simp [properties]
    rw [← lookup_schema_completeMembers hdistinct hspec]
    exact hcompleted.required "spec" hname
  · rw [← lookup_schema_completeMembers hdistinct hp]
    exact hcompleted.admitted p hp

theorem admits_of_receive {document stored : Json} (h : self.receive document = some stored) :
    self.root.admits stored = true := by
  unfold receive at h
  split at h
  case isFalse => cases h
  case isTrue hadmits => exact Option.some.inj h ▸ hadmits

/-- What fits, serves. -/
theorem Fits.serves (hfits : self.Fits Status decodeSpec) : self.Serves Status decodeSpec := by
  intro document stored hreceive hmetadata
  obtain ⟨hdistinct, -, -⟩ := Schema.sound_object.mp hfits.sound
  unfold receive at hreceive
  split at hreceive
  case isFalse => cases hreceive
  case isTrue hadmits =>
    obtain rfl := Option.some.inj hreceive
    cases document with
    | obj ms =>
      obtain ⟨metadata, hmetadata⟩ := Option.isSome_iff_exists.mp hmetadata
      have hmeta : Decoder.field decodeObjectMeta (self.completeMembers ms) "metadata" =
          some metadata :=
        (Decoder.field_congr lookup_metadata decodeObjectMeta).trans hmetadata
      have hadmitsAll := Schema.admits_object.mp hadmits
      have hcomplete : self.complete (self.complete (.obj ms)) = self.complete (.obj ms) :=
        congrArg Json.obj (completeMembers_completeMembers hfits.sound hadmits)
      refine ⟨?_, ?_, fun hdocument => ?_⟩
      · rw [complete, decodeResource_eq, hmeta, root, Schema.inRange,
          Schema.inRangeMembers_iff, ← (reads_parts hfits _ hadmitsAll).1, Option.bind_eq_bind,
          Option.bind_some]
        cases readParts Status decodeSpec (self.completeMembers ms) <;> rfl
      · rw [receive, hcomplete, if_pos hadmits]
      · have hsame := (reads_parts hfits _ (Schema.admits_object.mp hdocument)).2
          (self.completeMembers ms) (fun p hp => lookup_property hdistinct hp)
        have hbefore : Decoder.field decodeObjectMeta ms "metadata" = some metadata := hmetadata
        rw [complete, decodeResource_eq, decodeResource_eq, hmeta, hbefore, hsame]
    | _ => cases hadmits

end Fits

end CustomResourceDefinition

open CustomResourceDefinition

def clusterDefinition : CustomResourceDefinition := ⟨clusterSpecSchema, clusterStatusSchema⟩

def topicDefinition : CustomResourceDefinition := ⟨topicSpecSchema, topicStatusSchema⟩

def userDefinition : CustomResourceDefinition := ⟨userSpecSchema, userStatusSchema⟩

theorem fits_cluster : clusterDefinition.Fits ClusterStatus ClusterSpec.decode :=
  ⟨describes_clusterSpec, describes_clusterStatus, by decide, rfl⟩

theorem fits_topic : topicDefinition.Fits TopicStatus TopicSpec.decode :=
  ⟨describes_topicSpec, describes_topicStatus, by decide, rfl⟩

theorem fits_user : userDefinition.Fits UserStatus UserSpec.decode :=
  ⟨describes_userSpec, describes_userStatus, by decide, rfl⟩

/-- What the API server accepts under the three installed definitions, the
operator reads. -/
theorem installed_definitions_serve :
    clusterDefinition.Serves ClusterStatus ClusterSpec.decode ∧
      topicDefinition.Serves TopicStatus TopicSpec.decode ∧
      userDefinition.Serves UserStatus UserSpec.decode :=
  ⟨fits_cluster.serves, fits_topic.serves, fits_user.serves⟩

/-- A topic with a null where none is allowed and a member that is unknown. -/
def draftTopic : Json := .obj [
  ("metadata", .obj [("name", .str "orders"), ("namespace", .str "streamline")]),
  ("spec", .obj [("clusterRef", .str "main"), ("partitions", .null), ("owner", .str "a")])]

/-- The null makes room for the default, and what is unknown is dropped. -/
example : (topicDefinition.receive draftTopic).map
    (fun stored => (Members.lookup stored.members "spec").map fun spec =>
      (Members.lookup spec.members "partitions", Members.lookup spec.members "owner")) =
    some (some (some (intJson 3), none)) := by
  rfl

theorem installed_definitions_serve_draftTopic :
    ∃ stored, topicDefinition.receive draftTopic = some stored ∧
      topicDefinition.receive stored = some stored ∧
      (decodeResource TopicSpec.decode stored : Option StreamlineTopic).isSome = true := by
  have hserves := installed_definitions_serve.2.1 draftTopic _ rfl rfl
  exact ⟨_, rfl, hserves.settled, hserves.reads.mpr rfl⟩

end StreamlineOperator.Crd
