/- source: src/src/crd/topic.rs
   digest: The StreamlineTopic spec, its schema defaults, and its deserialization. -/

import StreamlineOperator.Foundation.Json

set_option autoImplicit false
set_option relaxedAutoImplicit false

namespace StreamlineOperator.Crd

open Foundation

/-! Default value functions. -/

def defaultPartitions : Int32 := 3

def defaultReplicationFactor : Int32 := 1

def defaultRetentionMs : Int64 := -1

def defaultRetentionBytes : Int64 := -1

def defaultCleanupPolicy : String := "delete"

def defaultCompressionType : String := "producer"

structure TopicConfig where
  minInsyncReplicas : Option Int32 := none
  maxMessageBytes : Option Int64 := none
  segmentBytes : Option Int64 := none
  indexIntervalBytes : Option Int64 := none
  flushIntervalMs : Option Int64 := none
  flushMessages : Option Int64 := none
  custom : StringMap := ∅
  deriving DecidableEq

structure RetentionConfig where
  retentionMs : Int64 := defaultRetentionMs
  retentionBytes : Int64 := defaultRetentionBytes
  cleanupPolicy : String := defaultCleanupPolicy
  deriving DecidableEq

structure CompressionConfig where
  type : String := defaultCompressionType
  deriving DecidableEq

structure TopicSpec where
  clusterRef : String
  partitions : Int32 := defaultPartitions
  replicationFactor : Int32 := defaultReplicationFactor
  config : TopicConfig := {}
  retention : RetentionConfig := {}
  compression : CompressionConfig := {}
  deriving DecidableEq

structure TopicConfigDefaults where
  retentionMs : Int64
  retentionBytes : Int64
  cleanupPolicy : String
  compressionType : String

def TopicSpec.configDefaults : TopicConfigDefaults :=
  let retention : RetentionConfig := {}
  let compression : CompressionConfig := {}
  { retentionMs := retention.retentionMs
    retentionBytes := retention.retentionBytes
    cleanupPolicy := retention.cleanupPolicy
    compressionType := compression.type }

def TopicConfig.decode : Decoder TopicConfig := fun v => do
  let ms ← Decoder.derived ["minInsyncReplicas", "maxMessageBytes", "segmentBytes",
    "indexIntervalBytes", "flushIntervalMs", "flushMessages", "custom"] v
  let minInsyncReplicas ← Decoder.fieldOption .int32 ms "minInsyncReplicas"
  let maxMessageBytes ← Decoder.fieldOption .int64 ms "maxMessageBytes"
  let segmentBytes ← Decoder.fieldOption .int64 ms "segmentBytes"
  let indexIntervalBytes ← Decoder.fieldOption .int64 ms "indexIntervalBytes"
  let flushIntervalMs ← Decoder.fieldOption .int64 ms "flushIntervalMs"
  let flushMessages ← Decoder.fieldOption .int64 ms "flushMessages"
  let custom ← Decoder.fieldOr ∅ .stringMap ms "custom"
  some { minInsyncReplicas, maxMessageBytes, segmentBytes, indexIntervalBytes, flushIntervalMs,
         flushMessages, custom }

def RetentionConfig.decode : Decoder RetentionConfig := fun v => do
  let ms ← Decoder.derived ["retentionMs", "retentionBytes", "cleanupPolicy"] v
  let retentionMs ← Decoder.fieldOr defaultRetentionMs .int64 ms "retentionMs"
  let retentionBytes ← Decoder.fieldOr defaultRetentionBytes .int64 ms "retentionBytes"
  let cleanupPolicy ← Decoder.fieldOr defaultCleanupPolicy .string ms "cleanupPolicy"
  some { retentionMs, retentionBytes, cleanupPolicy }

def CompressionConfig.decode : Decoder CompressionConfig := fun v => do
  let ms ← Decoder.derived ["type"] v
  let type ← Decoder.fieldOr defaultCompressionType .string ms "type"
  some { type }

def TopicSpec.decode : Decoder TopicSpec := fun v => do
  let ms ← Decoder.derived ["clusterRef", "partitions", "replicationFactor", "config", "retention",
    "compression"] v
  let clusterRef ← Decoder.field .string ms "clusterRef"
  let partitions ← Decoder.fieldOr defaultPartitions .int32 ms "partitions"
  let replicationFactor ← Decoder.fieldOr defaultReplicationFactor .int32 ms "replicationFactor"
  let config ← Decoder.fieldOr {} TopicConfig.decode ms "config"
  let retention ← Decoder.fieldOr {} RetentionConfig.decode ms "retention"
  let compression ← Decoder.fieldOr {} CompressionConfig.decode ms "compression"
  some { clusterRef, partitions, replicationFactor, config, retention, compression }

namespace TopicSpec

/-- A document with only the two members that reach the server. -/
def minimalDocument (clusterRef : String) (partitions : Int32) : Json :=
  .obj [("clusterRef", .str clusterRef), ("partitions", .ofInt32 partitions)]

theorem decode_minimalDocument (clusterRef : String) (partitions : Int32) :
    decode (minimalDocument clusterRef partitions) = some { clusterRef, partitions } := by
  have hpartitions := Decoder.int32_inverts.decode partitions
  simp only [decode, minimalDocument, Decoder.derived, Decoder.field, Decoder.fieldOr,
    Members.lookup_cons, Members.lookup_nil, Option.bind_eq_bind, Option.bind_some,
    Decoder.string, hpartitions, String.reduceEq, if_true, if_false]

end TopicSpec

end StreamlineOperator.Crd
