/- source: src/src/crd/cluster.rs (the `Deserialize` derives)
   digest: Deserialization of a StreamlineCluster spec, with the defaults of its fields and blocks. -/

import StreamlineOperator.Crd.Cluster
import StreamlineOperator.Foundation.Json

set_option autoImplicit false
set_option relaxedAutoImplicit false

namespace StreamlineOperator.Crd

open Foundation

def ScalingPolicySpec.decode : Decoder ScalingPolicySpec := fun v => do
  let ms ← Decoder.derived ["type", "value", "periodSeconds"] v
  let type ← Decoder.field .string ms "type"
  let value ← Decoder.field .int32 ms "value"
  let periodSeconds ← Decoder.field .int32 ms "periodSeconds"
  some { type, value, periodSeconds }

def ScalingRulesSpec.decode : Decoder ScalingRulesSpec := fun v => do
  let ms ← Decoder.derived ["stabilizationWindowSeconds", "selectPolicy", "policies"] v
  let stabilizationWindowSeconds ← Decoder.fieldOption .int32 ms "stabilizationWindowSeconds"
  let selectPolicy ← Decoder.fieldOption .string ms "selectPolicy"
  let policies ← Decoder.fieldOr [] (.list ScalingPolicySpec.decode) ms "policies"
  some { stabilizationWindowSeconds, selectPolicy, policies }

def ScalingBehaviorSpec.decode : Decoder ScalingBehaviorSpec := fun v => do
  let ms ← Decoder.derived ["scaleUp", "scaleDown"] v
  let scaleUp ← Decoder.fieldOption ScalingRulesSpec.decode ms "scaleUp"
  let scaleDown ← Decoder.fieldOption ScalingRulesSpec.decode ms "scaleDown"
  some { scaleUp, scaleDown }

def AutoScalingSpec.decode : Decoder AutoScalingSpec := fun v => do
  let ms ← Decoder.derived ["enabled", "minReplicas", "maxReplicas", "targetCpuUtilization",
    "targetMemoryUtilization", "partitionAware", "targetLagPerPartition", "targetMessagesPerSecond",
    "behavior"] v
  let enabled ← Decoder.fieldOr false .bool ms "enabled"
  let minReplicas ← Decoder.fieldOr defaultMinReplicas .int32 ms "minReplicas"
  let maxReplicas ← Decoder.fieldOr defaultMaxReplicas .int32 ms "maxReplicas"
  let targetCpuUtilization ← Decoder.fieldOr defaultCpuTarget .int32 ms "targetCpuUtilization"
  let targetMemoryUtilization ←
    Decoder.fieldOr defaultMemoryTarget .int32 ms "targetMemoryUtilization"
  let partitionAware ← Decoder.fieldOr false .bool ms "partitionAware"
  let targetLagPerPartition ← Decoder.fieldOr defaultLagThreshold .int64 ms "targetLagPerPartition"
  let targetMessagesPerSecond ←
    Decoder.fieldOr defaultMpsThreshold .int64 ms "targetMessagesPerSecond"
  let behavior ← Decoder.fieldOption ScalingBehaviorSpec.decode ms "behavior"
  some { enabled, minReplicas, maxReplicas, targetCpuUtilization, targetMemoryUtilization,
         partitionAware, targetLagPerPartition, targetMessagesPerSecond, behavior }

def ResourceList.decode : Decoder ResourceList := fun v => do
  let ms ← Decoder.derived ["cpu", "memory"] v
  let cpu ← Decoder.fieldOption .string ms "cpu"
  let memory ← Decoder.fieldOption .string ms "memory"
  some { cpu, memory }

def ResourceRequirements.decode : Decoder ResourceRequirements := fun v => do
  let ms ← Decoder.derived ["limits", "requests"] v
  let limits ← Decoder.fieldOr {} ResourceList.decode ms "limits"
  let requests ← Decoder.fieldOr {} ResourceList.decode ms "requests"
  some { limits, requests }

def ClusterStorage.decode : Decoder ClusterStorage := fun v => do
  let ms ← Decoder.derived ["storageClassName", "size", "accessModes"] v
  let storageClassName ← Decoder.fieldOption .string ms "storageClassName"
  let size ← Decoder.fieldOr defaultStorageSize .string ms "size"
  let accessModes ← Decoder.fieldOr defaultAccessModes (.list .string) ms "accessModes"
  some { storageClassName, size, accessModes }

def ClusterTls.decode : Decoder ClusterTls := fun v => do
  let ms ← Decoder.derived ["enabled", "secretName", "mtlsEnabled", "caSecretName",
    "insecureSkipVerify"] v
  let enabled ← Decoder.field .bool ms "enabled"
  let secretName ← Decoder.field .string ms "secretName"
  let mtlsEnabled ← Decoder.fieldOr false .bool ms "mtlsEnabled"
  let caSecretName ← Decoder.fieldOption .string ms "caSecretName"
  let insecureSkipVerify ← Decoder.fieldOr false .bool ms "insecureSkipVerify"
  some { enabled, secretName, mtlsEnabled, caSecretName, insecureSkipVerify }

def SecretKeyRef.decode : Decoder SecretKeyRef := fun v => do
  let ms ← Decoder.derived ["name", "key"] v
  let name ← Decoder.field .string ms "name"
  let key ← Decoder.field .string ms "key"
  some { name, key }

def ConfigMapKeyRef.decode : Decoder ConfigMapKeyRef := fun v => do
  let ms ← Decoder.derived ["name", "key"] v
  let name ← Decoder.field .string ms "name"
  let key ← Decoder.field .string ms "key"
  some { name, key }

def EnvVarSource.decode : Decoder EnvVarSource := fun v => do
  let ms ← Decoder.derived ["secretKeyRef", "configMapKeyRef"] v
  let secretKeyRef ← Decoder.fieldOption SecretKeyRef.decode ms "secretKeyRef"
  let configMapKeyRef ← Decoder.fieldOption ConfigMapKeyRef.decode ms "configMapKeyRef"
  some { secretKeyRef, configMapKeyRef }

def EnvVar.decode : Decoder EnvVar := fun v => do
  let ms ← Decoder.derived ["name", "value", "valueFrom"] v
  let name ← Decoder.field .string ms "name"
  let value ← Decoder.fieldOption .string ms "value"
  let valueFrom ← Decoder.fieldOption EnvVarSource.decode ms "valueFrom"
  some { name, value, valueFrom }

def Toleration.decode : Decoder Toleration := fun v => do
  let ms ← Decoder.derived ["key", "operator", "value", "effect", "tolerationSeconds"] v
  let key ← Decoder.fieldOption .string ms "key"
  let operator ← Decoder.fieldOption .string ms "operator"
  let value ← Decoder.fieldOption .string ms "value"
  let effect ← Decoder.fieldOption .string ms "effect"
  let tolerationSeconds ← Decoder.fieldOption .int64 ms "tolerationSeconds"
  some { key, operator, value, effect, tolerationSeconds }

def RackAwareness.decode : Decoder RackAwareness := fun v => do
  let ms ← Decoder.derived ["enabled", "topologyKey"] v
  let enabled ← Decoder.field .bool ms "enabled"
  let topologyKey ← Decoder.fieldOr defaultRackLabel .string ms "topologyKey"
  some { enabled, topologyKey }

def UpdateStrategy.decode : Decoder UpdateStrategy := fun v => do
  let ms ← Decoder.derived ["type", "maxUnavailable"] v
  let type ← Decoder.fieldOr defaultUpdateType .string ms "type"
  let maxUnavailable ← Decoder.fieldOption .int32 ms "maxUnavailable"
  some { type, maxUnavailable }

def ClusterSpec.decode : Decoder ClusterSpec := fun v => do
  let ms ← Decoder.derived ["replicas", "image", "imagePullPolicy", "resources", "storage", "tls",
    "kafkaPort", "httpPort", "raftPort", "env", "nodeSelector", "tolerations", "podAntiAffinity",
    "rackAwareness", "serviceAccountName", "logLevel", "metricsEnabled", "updateStrategy",
    "autoscaling"] v
  let replicas ← Decoder.fieldOr defaultReplicas .int32 ms "replicas"
  let image ← Decoder.fieldOr defaultImage .string ms "image"
  let imagePullPolicy ← Decoder.fieldOr defaultPullPolicy .string ms "imagePullPolicy"
  let resources ← Decoder.fieldOr {} ResourceRequirements.decode ms "resources"
  let storage ← Decoder.fieldOr {} ClusterStorage.decode ms "storage"
  let tls ← Decoder.fieldOption ClusterTls.decode ms "tls"
  let kafkaPort ← Decoder.fieldOr defaultKafkaPort .int32 ms "kafkaPort"
  let httpPort ← Decoder.fieldOr defaultHttpPort .int32 ms "httpPort"
  let raftPort ← Decoder.fieldOr defaultRaftPort .int32 ms "raftPort"
  let env ← Decoder.fieldOr [] (.list EnvVar.decode) ms "env"
  let nodeSelector ← Decoder.fieldOr ∅ .stringMap ms "nodeSelector"
  let tolerations ← Decoder.fieldOr [] (.list Toleration.decode) ms "tolerations"
  let podAntiAffinity ← Decoder.fieldOr false .bool ms "podAntiAffinity"
  let rackAwareness ← Decoder.fieldOption RackAwareness.decode ms "rackAwareness"
  let serviceAccountName ← Decoder.fieldOption .string ms "serviceAccountName"
  let logLevel ← Decoder.fieldOr defaultLogLevel .string ms "logLevel"
  let metricsEnabled ← Decoder.fieldOr true .bool ms "metricsEnabled"
  let updateStrategy ← Decoder.fieldOr .default UpdateStrategy.decode ms "updateStrategy"
  let autoscaling ← Decoder.fieldOption AutoScalingSpec.decode ms "autoscaling"
  some { replicas, image, imagePullPolicy, resources, storage, tls, kafkaPort, httpPort, raftPort,
         env, nodeSelector, tolerations, podAntiAffinity, rackAwareness, serviceAccountName,
         logLevel, metricsEnabled, updateStrategy, autoscaling }

end StreamlineOperator.Crd
