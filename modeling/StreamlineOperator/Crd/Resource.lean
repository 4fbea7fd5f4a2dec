/- source: src/src/crd/{cluster,topic,user}.rs (the `CustomResource` derive)
   digest: A custom resource as stored and as deserialized, and what a status patch does to it. -/

import StreamlineOperator.Crd.Cluster
import StreamlineOperator.Crd.Status
import StreamlineOperator.Crd.Topic
import StreamlineOperator.Kubernetes.Objects

set_option autoImplicit false
set_option relaxedAutoImplicit false

namespace StreamlineOperator.Crd

open Foundation
open Kubernetes (ObjectMeta)

structure CustomResource (Spec Status : Type) where
  metadata : ObjectMeta
  spec : Spec
  status : Option Status

namespace CustomResource

variable {Spec Status : Type}

/-- `ResourceExt::name_any`. -/
def nameAny (self : CustomResource Spec Status) : String := self.metadata.nameAny

/-- The namespace a controller works in for this object. -/
def namespaceOrDefault (self : CustomResource Spec Status) : String :=
  self.metadata.namespaceOrDefault

end CustomResource

abbrev StreamlineCluster := CustomResource ClusterSpec ClusterStatus

abbrev StreamlineTopic := CustomResource TopicSpec TopicStatus

/-- Nothing the user controller does depends on the spec. -/
abbrev StreamlineUser (Spec : Type) := CustomResource Spec UserStatus

/-- Of the metadata, what a controller reads from a resource it watches. -/
def decodeObjectMeta : Decoder ObjectMeta := fun v => do
  let ms ← Decoder.struct v
  let name ← Decoder.fieldOption .string ms "name"
  let generateName ← Decoder.fieldOption .string ms "generateName"
  let namespaceName ← Decoder.fieldOption .string ms "namespace"
  let uid ← Decoder.fieldOption .string ms "uid"
  let generation ← Decoder.fieldOption .int64 ms "generation"
  let deletionTimestamp ← Decoder.fieldOption .string ms "deletionTimestamp"
  let finalizers ← Decoder.fieldOption (.list .string) ms "finalizers"
  some { name, generateName, namespaceName, uid, generation, deletionTimestamp, finalizers }

variable {Spec Status : Type} [StatusCodec Status]

/-- Deserialization of a stored object, for any deserialization of its spec. -/
def decodeResource (decodeSpec : Decoder Spec) : Decoder (CustomResource Spec Status) := fun v => do
  let ms ← Decoder.struct v
  let metadata ← Decoder.field decodeObjectMeta ms "metadata"
  let spec ← Decoder.field decodeSpec ms "spec"
  let status ← Decoder.fieldOption StatusCodec.decode ms "status"
  some { metadata, spec, status }

/-- The body of a status patch. -/
def statusPatch (status : Status) : Json := .obj [("status", StatusCodec.toJson status)]

private theorem field_of_decode {decodeSpec : Decoder Spec} {ms : Members}
    {object : CustomResource Spec Status}
    (h : decodeResource decodeSpec (.obj ms) = some object) :
    Decoder.field decodeObjectMeta ms "metadata" = some object.metadata ∧
      Decoder.field decodeSpec ms "spec" = some object.spec := by
  simp only [decodeResource, Decoder.struct, Option.bind_eq_bind, Option.bind_some,
    Option.bind_eq_some_iff] at h
  obtain ⟨metadata, hmeta, spec, hspec, status, _, hobject⟩ := h
  obtain rfl := Option.some.inj hobject
  exact ⟨hmeta, hspec⟩

/-- The stored object after a status patch reads back as the same object with
exactly the patched status, whatever status was stored before. -/
theorem decodeResource_statusPatch {decodeSpec : Decoder Spec} {stored : Json}
    {object : CustomResource Spec Status} (h : decodeResource decodeSpec stored = some object)
    (status : Status) :
    decodeResource decodeSpec (stored.mergePatch (statusPatch status)) =
      some { object with status := some status } := by
  obtain ⟨ms, rfl⟩ : ∃ ms, stored = .obj ms := by
    cases stored with
    | obj ms => exact ⟨ms, rfl⟩
    | _ => simp [decodeResource, Decoder.struct] at h
  obtain ⟨hmeta, hspec⟩ := field_of_decode h
  have hlookup := Json.lookup_mergePatch_single (.obj ms) (StatusCodec.toJson status) "status"
  have hpatched : ∃ ms', (Json.obj ms).mergePatch (statusPatch status) = .obj ms' := by
    simp only [statusPatch, Json.mergePatch]
    exact ⟨_, rfl⟩
  obtain ⟨ms', hms'⟩ := hpatched
  rw [statusPatch] at hms'
  have hmeta' : Decoder.field decodeObjectMeta ms' "metadata" = some object.metadata := by
    have hm : Members.lookup ms' "metadata" = Members.lookup ms "metadata" := by
      simpa [hms', Json.members] using hlookup "metadata"
    rw [Decoder.field, hm]
    exact hmeta
  have hspec' : Decoder.field decodeSpec ms' "spec" = some object.spec := by
    have hm : Members.lookup ms' "spec" = Members.lookup ms "spec" := by
      simpa [hms', Json.members] using hlookup "spec"
    rw [Decoder.field, hm]
    exact hspec
  have hstatus' : Decoder.fieldOption StatusCodec.decode ms' "status" = some (some status) := by
    have hm := hlookup "status"
    rw [hms', if_pos rfl] at hm
    have hread := StatusCodec.decode_mergePatch
      (((Json.obj ms).members.lookup "status").getD .null) status
    simp only [Json.members, StatusCodec.toJson, Json.mergedMember] at hm hread
    simp only [Decoder.fieldOption, Decoder.fieldOr, hm]
    simp only [Json.mergePatch] at hread ⊢
    simp [Decoder.option, hread]
  rw [statusPatch, hms']
  simp only [decodeResource, Decoder.struct, Option.bind_eq_bind, Option.bind_some, hmeta', hspec',
    hstatus']

end StreamlineOperator.Crd
