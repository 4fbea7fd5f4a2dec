/- source: src/src/crd/cluster.rs, src/src/crd/topic.rs, src/src/crd/user.rs
   digest: The three status types and their JSON form, which survives a merge patch. -/

import StreamlineOperator.Foundation.Json
import StreamlineOperator.Conditions

set_option autoImplicit false
set_option relaxedAutoImplicit false

namespace StreamlineOperator.Crd

open Foundation
open Conditions

/-- A status type with its JSON form: reading back what a merge patch wrote
gives the status that was written, whatever was stored before. -/
class StatusCodec (S : Type) where
  members : S → Members
  decode : Decoder S
  decode_mergePatch : ∀ (target : Json) (status : S),
    decode (target.mergePatch (.obj (members status))) = some status

def StatusCodec.toJson {S : Type} [StatusCodec S] (status : S) : Json :=
  .obj (StatusCodec.members status)

/-! Conditions. The three kinds use the same five members. -/

def conditionMembers (c : ConditionFields) : Members :=
  [("type", .str c.conditionType), ("status", .str c.status),
    ("lastTransitionTime", .ofOption .str c.lastTransitionTime),
    ("reason", .ofOption .str c.reason), ("message", .ofOption .str c.message)]

def encodeCondition (c : ConditionFields) : Json := .obj (conditionMembers c)

def decodeCondition : Decoder ConditionFields := fun v => do
  let ms ← Decoder.derived ["type", "status", "lastTransitionTime", "reason", "message"] v
  let conditionType ← Decoder.field .string ms "type"
  let status ← Decoder.field .string ms "status"
  let lastTransitionTime ← Decoder.fieldOption .string ms "lastTransitionTime"
  let reason ← Decoder.fieldOption .string ms "reason"
  let message ← Decoder.fieldOption .string ms "message"
  some { conditionType, status, lastTransitionTime, reason, message }

theorem decodeCondition_encode (c : ConditionFields) :
    decodeCondition (encodeCondition c) = some c := by
  have htype : Decoder.field .string (conditionMembers c) "type" = some c.conditionType := rfl
  have hstatus : Decoder.field .string (conditionMembers c) "status" = some c.status := rfl
  have htime : Decoder.fieldOption .string (conditionMembers c) "lastTransitionTime" =
      some c.lastTransitionTime :=
    Decoder.fieldOption_lookup Decoder.string_inverts _ _ rfl
  have hreason : Decoder.fieldOption .string (conditionMembers c) "reason" = some c.reason :=
    Decoder.fieldOption_lookup Decoder.string_inverts _ _ rfl
  have hmessage : Decoder.fieldOption .string (conditionMembers c) "message" = some c.message :=
    Decoder.fieldOption_lookup Decoder.string_inverts _ _ rfl
  simp only [decodeCondition, encodeCondition, Decoder.derived, Option.bind_eq_bind,
    Option.bind_some, htype, hstatus, htime, hreason, hmessage]

private theorem conditions_inverts :
    Decoder.Inverts (Decoder.list decodeCondition) (fun cs => .arr (cs.map encodeCondition)) :=
  Decoder.list_inverts decodeCondition_encode

private theorem strings_inverts :
    Decoder.Inverts (Decoder.list .string) (fun xs => .arr (xs.map Json.str)) :=
  Decoder.list_inverts Decoder.string_inverts.decode

inductive ClusterPhase where
  | pending
  | running
  | scaling
  | upgrading
  | failed
  | terminating
  deriving DecidableEq, Repr

namespace ClusterPhase

def text : ClusterPhase → String
  | pending => "Pending"
  | running => "Running"
  | scaling => "Scaling"
  | upgrading => "Upgrading"
  | failed => "Failed"
  | terminating => "Terminating"

def decode : Decoder ClusterPhase :=
  Decoder.variant text [pending, running, scaling, upgrading, failed, terminating]

theorem inverts : Decoder.Inverts decode (fun p => .str p.text) where
  decode p := by cases p <;> rfl
  isAtomic _ := rfl
  ne_null _ := by simp

end ClusterPhase

structure ClusterStatus where
  phase : ClusterPhase := .pending
  readyReplicas : Int32 := 0
  replicas : Int32 := 0
  leaderId : Option Int32 := none
  brokerEndpoints : List String := []
  conditions : List ConditionFields := []
  observedGeneration : Option Int64 := none
  lastUpdated : Option String := none
  deriving DecidableEq, Repr

namespace ClusterStatus

def members (self : ClusterStatus) : Members :=
  [("phase", .str self.phase.text), ("readyReplicas", .ofInt32 self.readyReplicas),
    ("replicas", .ofInt32 self.replicas), ("leaderId", .ofOption .ofInt32 self.leaderId),
    ("brokerEndpoints", .arr (self.brokerEndpoints.map Json.str)),
    ("conditions", .arr (self.conditions.map encodeCondition)),
    ("observedGeneration", .ofOption .ofInt64 self.observedGeneration),
    ("lastUpdated", .ofOption .str self.lastUpdated)]

def decode : Decoder ClusterStatus := fun v => do
  let ms ← Decoder.derived ["phase", "readyReplicas", "replicas", "leaderId", "brokerEndpoints",
    "conditions", "observedGeneration", "lastUpdated"] v
  let phase ← Decoder.fieldOr .pending ClusterPhase.decode ms "phase"
  let readyReplicas ← Decoder.fieldOr 0 .int32 ms "readyReplicas"
  let replicas ← Decoder.fieldOr 0 .int32 ms "replicas"
  let leaderId ← Decoder.fieldOption .int32 ms "leaderId"
  let brokerEndpoints ← Decoder.fieldOr [] (.list .string) ms "brokerEndpoints"
  let conditions ← Decoder.fieldOr [] (.list decodeCondition) ms "conditions"
  let observedGeneration ← Decoder.fieldOption .int64 ms "observedGeneration"
  let lastUpdated ← Decoder.fieldOption .string ms "lastUpdated"
  some { phase, readyReplicas, replicas, leaderId, brokerEndpoints, conditions,
         observedGeneration, lastUpdated }

theorem decode_mergePatch (target : Json) (self : ClusterStatus) :
    decode (target.mergePatch (.obj self.members)) = some self := by
  have hd : (self.members.map Prod.fst).Nodup := by
    change ["phase", "readyReplicas", "replicas", "leaderId", "brokerEndpoints", "conditions",
      "observedGeneration", "lastUpdated"].Nodup
    decide
  have hphase := Decoder.fieldOr_mergeMembers ClusterPhase.inverts hd
    target.members "phase" .pending self.phase rfl
  have hready := Decoder.fieldOr_mergeMembers Decoder.int32_inverts hd
    target.members "readyReplicas" 0 self.readyReplicas rfl
  have hreplicas := Decoder.fieldOr_mergeMembers Decoder.int32_inverts hd
    target.members "replicas" 0 self.replicas rfl
  have hleader := Decoder.fieldOption_mergeMembers Decoder.int32_inverts hd
    target.members "leaderId" self.leaderId rfl
  have hendpoints := Decoder.fieldOr_mergeMembers strings_inverts hd
    target.members "brokerEndpoints" [] self.brokerEndpoints rfl
  have hconditions := Decoder.fieldOr_mergeMembers conditions_inverts hd
    target.members "conditions" [] self.conditions rfl
  have hgeneration := Decoder.fieldOption_mergeMembers Decoder.int64_inverts hd
    target.members "observedGeneration" self.observedGeneration rfl
  have hupdated := Decoder.fieldOption_mergeMembers Decoder.string_inverts hd
    target.members "lastUpdated" self.lastUpdated rfl
  simp only [decode, Json.mergePatch, Decoder.derived, Option.bind_eq_bind, Option.bind_some,
    hphase, hready, hreplicas, hleader, hendpoints, hconditions, hgeneration, hupdated]

instance : StatusCodec ClusterStatus := ⟨members, decode, decode_mergePatch⟩

end ClusterStatus

inductive TopicPhase where
  | pending
  | ready
  | updating
  | failed
  | terminating
  deriving DecidableEq, Repr

namespace TopicPhase

def text : TopicPhase → String
  | pending => "Pending"
  | ready => "Ready"
  | updating => "Updating"
  | failed => "Failed"
  | terminating => "Terminating"

def decode : Decoder TopicPhase :=
  Decoder.variant text [pending, ready, updating, failed, terminating]

theorem inverts : Decoder.Inverts decode (fun p => .str p.text) where
  decode p := by cases p <;> rfl
  isAtomic _ := rfl
  ne_null _ := by simp

end TopicPhase

structure PartitionAssignment where
  partition : Int32
  leader : Int32
  replicas : List Int32
  isr : List Int32
  deriving DecidableEq, Repr

namespace PartitionAssignment

def encode (self : PartitionAssignment) : Json :=
  .obj [("partition", .ofInt32 self.partition), ("leader", .ofInt32 self.leader),
    ("replicas", .arr (self.replicas.map Json.ofInt32)),
    ("isr", .arr (self.isr.map Json.ofInt32))]

def decode : Decoder PartitionAssignment := fun v => do
  let ms ← Decoder.derived ["partition", "leader", "replicas", "isr"] v
  let partition ← Decoder.field .int32 ms "partition"
  let leader ← Decoder.field .int32 ms "leader"
  let replicas ← Decoder.field (.list .int32) ms "replicas"
  let isr ← Decoder.field (.list .int32) ms "isr"
  some { partition, leader, replicas, isr }

theorem decode_encode (self : PartitionAssignment) : decode self.encode = some self := by
  have hint := Decoder.int32_inverts.decode
  have hlist := (Decoder.list_inverts hint).decode
  obtain ⟨partition, leader, replicas, isr⟩ := self
  have hpartition := hint partition
  have hleader := hint leader
  have hreplicas := hlist replicas
  have hisr := hlist isr
  simp only [decode, encode, Decoder.derived, Decoder.field, Members.lookup_cons, Option.bind_eq_bind,
    Option.bind_some, String.reduceEq, if_false, if_true, hpartition, hleader, hreplicas, hisr]

end PartitionAssignment

private theorem assignments_inverts :
    Decoder.Inverts (Decoder.list PartitionAssignment.decode)
      (fun xs => .arr (xs.map PartitionAssignment.encode)) :=
  Decoder.list_inverts PartitionAssignment.decode_encode

structure TopicStatus where
  ready : Bool := false
  phase : TopicPhase := .pending
  partitions : Int32 := 0
  replicationFactor : Int32 := 0
  partitionAssignments : List PartitionAssignment := []
  conditions : List ConditionFields := []
  observedGeneration : Option Int64 := none
  lastUpdated : Option String := none
  errorMessage : Option String := none
  deriving DecidableEq, Repr

namespace TopicStatus

def members (self : TopicStatus) : Members :=
  [("ready", .bool self.ready), ("phase", .str self.phase.text),
    ("partitions", .ofInt32 self.partitions),
    ("replicationFactor", .ofInt32 self.replicationFactor),
    ("partitionAssignments", .arr (self.partitionAssignments.map PartitionAssignment.encode)),
    ("conditions", .arr (self.conditions.map encodeCondition)),
    ("observedGeneration", .ofOption .ofInt64 self.observedGeneration),
    ("lastUpdated", .ofOption .str self.lastUpdated),
    ("errorMessage", .ofOption .str self.errorMessage)]

def decode : Decoder TopicStatus := fun v => do
  let ms ← Decoder.derived ["ready", "phase", "partitions", "replicationFactor",
    "partitionAssignments", "conditions", "observedGeneration", "lastUpdated", "errorMessage"] v
  let ready ← Decoder.fieldOr false .bool ms "ready"
  let phase ← Decoder.fieldOr .pending TopicPhase.decode ms "phase"
  let partitions ← Decoder.fieldOr 0 .int32 ms "partitions"
  let replicationFactor ← Decoder.fieldOr 0 .int32 ms "replicationFactor"
  let partitionAssignments ←
    Decoder.fieldOr [] (.list PartitionAssignment.decode) ms "partitionAssignments"
  let conditions ← Decoder.fieldOr [] (.list decodeCondition) ms "conditions"
  let observedGeneration ← Decoder.fieldOption .int64 ms "observedGeneration"
  let lastUpdated ← Decoder.fieldOption .string ms "lastUpdated"
  let errorMessage ← Decoder.fieldOption .string ms "errorMessage"
  some { ready, phase, partitions, replicationFactor, partitionAssignments, conditions,
         observedGeneration, lastUpdated, errorMessage }

theorem decode_mergePatch (target : Json) (self : TopicStatus) :
    decode (target.mergePatch (.obj self.members)) = some self := by
  have hd : (self.members.map Prod.fst).Nodup := by
    change ["ready", "phase", "partitions", "replicationFactor", "partitionAssignments",
      "conditions", "observedGeneration", "lastUpdated", "errorMessage"].Nodup
    decide
  have hready := Decoder.fieldOr_mergeMembers Decoder.bool_inverts hd
    target.members "ready" false self.ready rfl
  have hphase := Decoder.fieldOr_mergeMembers TopicPhase.inverts hd
    target.members "phase" .pending self.phase rfl
  have hpartitions := Decoder.fieldOr_mergeMembers Decoder.int32_inverts hd
    target.members "partitions" 0 self.partitions rfl
  have hfactor := Decoder.fieldOr_mergeMembers Decoder.int32_inverts hd
    target.members "replicationFactor" 0 self.replicationFactor rfl
  have hassignments := Decoder.fieldOr_mergeMembers assignments_inverts hd
    target.members "partitionAssignments" [] self.partitionAssignments rfl
  have hconditions := Decoder.fieldOr_mergeMembers conditions_inverts hd
    target.members "conditions" [] self.conditions rfl
  have hgeneration := Decoder.fieldOption_mergeMembers Decoder.int64_inverts hd
    target.members "observedGeneration" self.observedGeneration rfl
  have hupdated := Decoder.fieldOption_mergeMembers Decoder.string_inverts hd
    target.members "lastUpdated" self.lastUpdated rfl
  have hmessage := Decoder.fieldOption_mergeMembers Decoder.string_inverts hd
    target.members "errorMessage" self.errorMessage rfl
  simp only [decode, Json.mergePatch, Decoder.derived, Option.bind_eq_bind, Option.bind_some,
    hready, hphase, hpartitions, hfactor, hassignments, hconditions, hgeneration, hupdated, hmessage]

instance : StatusCodec TopicStatus := ⟨members, decode, decode_mergePatch⟩

end TopicStatus

inductive UserPhase where
  | pending
  | unsupported
  | ready
  | updating
  | failed
  | terminating
  deriving DecidableEq, Repr

namespace UserPhase

def text : UserPhase → String
  | pending => "Pending"
  | unsupported => "Unsupported"
  | ready => "Ready"
  | updating => "Updating"
  | failed => "Failed"
  | terminating => "Terminating"

def decode : Decoder UserPhase :=
  Decoder.variant text [pending, unsupported, ready, updating, failed, terminating]

theorem inverts : Decoder.Inverts decode (fun p => .str p.text) where
  decode p := by cases p <;> rfl
  isAtomic _ := rfl
  ne_null _ := by simp

end UserPhase

structure UserStatus where
  ready : Bool := false
  phase : UserPhase := .pending
  username : Option String := none
  credentialsSecret : Option String := none
  conditions : List ConditionFields := []
  observedGeneration : Option Int64 := none
  lastUpdated : Option String := none
  errorMessage : Option String := none
  deriving DecidableEq, Repr

namespace UserStatus

def members (self : UserStatus) : Members :=
  [("ready", .bool self.ready), ("phase", .str self.phase.text),
    ("username", .ofOption .str self.username),
    ("credentialsSecret", .ofOption .str self.credentialsSecret),
    ("conditions", .arr (self.conditions.map encodeCondition)),
    ("observedGeneration", .ofOption .ofInt64 self.observedGeneration),
    ("lastUpdated", .ofOption .str self.lastUpdated),
    ("errorMessage", .ofOption .str self.errorMessage)]

def decode : Decoder UserStatus := fun v => do
  let ms ← Decoder.derived ["ready", "phase", "username", "credentialsSecret", "conditions",
    "observedGeneration", "lastUpdated", "errorMessage"] v
  let ready ← Decoder.fieldOr false .bool ms "ready"
  let phase ← Decoder.fieldOr .pending UserPhase.decode ms "phase"
  let username ← Decoder.fieldOption .string ms "username"
  let credentialsSecret ← Decoder.fieldOption .string ms "credentialsSecret"
  let conditions ← Decoder.fieldOr [] (.list decodeCondition) ms "conditions"
  let observedGeneration ← Decoder.fieldOption .int64 ms "observedGeneration"
  let lastUpdated ← Decoder.fieldOption .string ms "lastUpdated"
  let errorMessage ← Decoder.fieldOption .string ms "errorMessage"
  some { ready, phase, username, credentialsSecret, conditions, observedGeneration, lastUpdated,
         errorMessage }

theorem decode_mergePatch (target : Json) (self : UserStatus) :
    decode (target.mergePatch (.obj self.members)) = some self := by
  have hd : (self.members.map Prod.fst).Nodup := by
    change ["ready", "phase", "username", "credentialsSecret", "conditions",
      "observedGeneration", "lastUpdated", "errorMessage"].Nodup
    decide
  have hready := Decoder.fieldOr_mergeMembers Decoder.bool_inverts hd
    target.members "ready" false self.ready rfl
  have hphase := Decoder.fieldOr_mergeMembers UserPhase.inverts hd
    target.members "phase" .pending self.phase rfl
  have husername := Decoder.fieldOption_mergeMembers Decoder.string_inverts hd
    target.members "username" self.username rfl
  have hsecret := Decoder.fieldOption_mergeMembers Decoder.string_inverts hd
    target.members "credentialsSecret" self.credentialsSecret rfl
  have hconditions := Decoder.fieldOr_mergeMembers conditions_inverts hd
    target.members "conditions" [] self.conditions rfl
  have hgeneration := Decoder.fieldOption_mergeMembers Decoder.int64_inverts hd
    target.members "observedGeneration" self.observedGeneration rfl
  have hupdated := Decoder.fieldOption_mergeMembers Decoder.string_inverts hd
    target.members "lastUpdated" self.lastUpdated rfl
  have hmessage := Decoder.fieldOption_mergeMembers Decoder.string_inverts hd
    target.members "errorMessage" self.errorMessage rfl
  simp only [decode, Json.mergePatch, Decoder.derived, Option.bind_eq_bind, Option.bind_some,
    hready, hphase, husername, hsecret, hconditions, hgeneration, hupdated, hmessage]

instance : StatusCodec UserStatus := ⟨members, decode, decode_mergePatch⟩

end UserStatus

end StreamlineOperator.Crd
