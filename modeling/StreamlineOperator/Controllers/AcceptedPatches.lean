/- source: src/src/controllers/{cluster,topic,user}.rs (patches of custom resources), deploy/crds/
   digest: The API server takes every merge patch of a reconcile, and it reads back. -/

import StreamlineOperator.Controllers.ClusterReconcile
import StreamlineOperator.Controllers.TopicAccount
import StreamlineOperator.Controllers.User
import StreamlineOperator.Crd.Definitions

set_option autoImplicit false
set_option relaxedAutoImplicit false

namespace StreamlineOperator.Crd

open Foundation
open Kubernetes (ObjectMeta)

/-! The statuses, as their schemas see them. -/

section Statuses

open Foundation.Schema (Settable settable_of_inverts settable_ofOption)

theorem admits_encodeCondition (c : Conditions.ConditionFields) :
    conditionSchema.admits (encodeCondition c) = true := by
  obtain ⟨conditionType, status, lastTransitionTime, reason, message⟩ := c
  cases lastTransitionTime <;> cases reason <;> cases message <;> rfl

theorem admits_partitionAssignment (self : PartitionAssignment) :
    partitionAssignmentSchema.admits self.encode = true := by
  have hlist : ∀ xs : List Int32,
      (Schema.array (.integer .int32)).admits (.arr (xs.map Json.ofInt32)) = true := by
    intro xs
    simp [Schema.admits, Json.ofInt32]
  refine Schema.admits_object.mpr ⟨?_, ?_⟩
  · simp only [List.forall_mem_cons]
    exact ⟨rfl, rfl, rfl, rfl, by simp⟩
  · simp only [List.forall_mem_cons]
    refine ⟨fun v hv => ?_, fun v hv => ?_, fun v hv => ?_, fun v hv => ?_, by simp⟩
    · exact Option.some.inj hv ▸ rfl
    · exact Option.some.inj hv ▸ rfl
    · exact Option.some.inj hv ▸ hlist self.replicas
    · exact Option.some.inj hv ▸ hlist self.isr

private theorem settable_strings (xs : List String) :
    (Schema.array .string).Settable (.arr (xs.map Json.str)) :=
  settable_of_inverts (Decoder.list_inverts Decoder.string_inverts.decode)
    (fun xs => by simp [Schema.admits]) xs

private theorem settable_conditions (cs : List Conditions.ConditionFields) :
    (Schema.array conditionSchema).Settable (.arr (cs.map encodeCondition)) :=
  settable_of_inverts (Decoder.list_inverts decodeCondition_encode)
    (fun cs => by simp [Schema.admits, admits_encodeCondition]) cs

private theorem settable_int32 (n : Int32) : (Schema.integer .int32).Settable (.ofInt32 n) :=
  settable_of_inverts Decoder.int32_inverts (fun _ => rfl) n

private theorem settable_optionInt64 (n : Option Int64) :
    (Schema.nullable (.integer .int64)).Settable (.ofOption .ofInt64 n) :=
  settable_ofOption Decoder.int64_inverts (fun _ => rfl) n

private theorem settable_optionString (s : Option String) :
    (Schema.nullable .string).Settable (.ofOption .str s) :=
  settable_ofOption Decoder.string_inverts (fun _ => rfl) s

theorem admits_clusterStatus (target : Json) (status : ClusterStatus) :
    clusterStatusSchema.admits (target.mergePatch (.obj status.members)) = true := by
  have hd : (status.members.map Prod.fst).Nodup := by
    change ["phase", "readyReplicas", "replicas", "leaderId", "brokerEndpoints", "conditions",
      "observedGeneration", "lastUpdated"].Nodup
    decide
  refine Schema.admits_mergePatch hd ?_ target
  simp only [List.forall_mem_cons]
  refine ⟨⟨_, rfl, settable_of_inverts ClusterPhase.inverts ?_ status.phase⟩,
    ⟨_, rfl, settable_int32 status.readyReplicas⟩, ⟨_, rfl, settable_int32 status.replicas⟩,
    ⟨_, rfl, settable_ofOption Decoder.int32_inverts ?_ status.leaderId⟩,
    ⟨_, rfl, settable_strings status.brokerEndpoints⟩,
    ⟨_, rfl, settable_conditions status.conditions⟩,
    ⟨_, rfl, settable_optionInt64 status.observedGeneration⟩,
    ⟨_, rfl, settable_optionString status.lastUpdated⟩, by simp⟩
  · intro phase
    cases phase <;> rfl
  · intro _
    rfl

theorem admits_topicStatus (target : Json) (status : TopicStatus) :
    topicStatusSchema.admits (target.mergePatch (.obj status.members)) = true := by
  have hd : (status.members.map Prod.fst).Nodup := by
    change ["ready", "phase", "partitions", "replicationFactor", "partitionAssignments",
      "conditions", "observedGeneration", "lastUpdated", "errorMessage"].Nodup
    decide
  have hassignments := settable_of_inverts
    (Decoder.list_inverts PartitionAssignment.decode_encode)
    (fun xs => show (Schema.array partitionAssignmentSchema).admits _ = true by
      simp [Schema.admits, admits_partitionAssignment]) status.partitionAssignments
  refine Schema.admits_mergePatch hd ?_ target
  simp only [List.forall_mem_cons]
  refine ⟨⟨_, rfl, settable_of_inverts Decoder.bool_inverts ?_ status.ready⟩,
    ⟨_, rfl, settable_of_inverts TopicPhase.inverts ?_ status.phase⟩,
    ⟨_, rfl, settable_int32 status.partitions⟩,
    ⟨_, rfl, settable_int32 status.replicationFactor⟩, ⟨_, rfl, hassignments⟩,
    ⟨_, rfl, settable_conditions status.conditions⟩,
    ⟨_, rfl, settable_optionInt64 status.observedGeneration⟩,
    ⟨_, rfl, settable_optionString status.lastUpdated⟩,
    ⟨_, rfl, settable_optionString status.errorMessage⟩, by simp⟩
  · intro _
    rfl
  · intro phase
    cases phase <;> rfl

theorem admits_userStatus (target : Json) (status : UserStatus) :
    userStatusSchema.admits (target.mergePatch (.obj status.members)) = true := by
  have hd : (status.members.map Prod.fst).Nodup := by
    change ["ready", "phase", "username", "credentialsSecret", "conditions",
      "observedGeneration", "lastUpdated", "errorMessage"].Nodup
    decide
  refine Schema.admits_mergePatch hd ?_ target
  simp only [List.forall_mem_cons]
  refine ⟨⟨_, rfl, settable_of_inverts Decoder.bool_inverts ?_ status.ready⟩,
    ⟨_, rfl, settable_of_inverts UserPhase.inverts ?_ status.phase⟩,
    ⟨_, rfl, settable_optionString status.username⟩,
    ⟨_, rfl, settable_optionString status.credentialsSecret⟩,
    ⟨_, rfl, settable_conditions status.conditions⟩,
    ⟨_, rfl, settable_optionInt64 status.observedGeneration⟩,
    ⟨_, rfl, settable_optionString status.lastUpdated⟩,
    ⟨_, rfl, settable_optionString status.errorMessage⟩, by simp⟩
  · intro _
    rfl
  · intro phase
    cases phase <;> rfl

end Statuses

/-! Patches of a stored object. -/

namespace CustomResourceDefinition

/-- The definition admits every status of the type, whatever it is merged into. -/
def AdmitsStatuses (crd : CustomResourceDefinition) (Status : Type) [StatusCodec Status] : Prop :=
  ∀ (target : Json) (status : Status),
    crd.status.admits (target.mergePatch (StatusCodec.toJson status)) = true

/-- The API server accepts the patch of any object it holds, and what it stores
reads as the object with this change. -/
def Takes {Spec Status : Type} [StatusCodec Status] (crd : CustomResourceDefinition)
    (decodeSpec : Decoder Spec) (body : Json)
    (change : CustomResource Spec Status → CustomResource Spec Status) : Prop :=
  ∀ stored object, crd.receive stored = some stored →
    decodeResource decodeSpec stored = some object →
      ∃ stored', crd.receive (stored.mergePatch body) = some stored' ∧
        decodeResource decodeSpec stored' = some (change object)

section Patches

variable {Spec Status : Type} [StatusCodec Status] {decodeSpec : Decoder Spec}
variable {crd : CustomResourceDefinition} {ms : Members}

theorem exists_of_decodeResource {stored : Json} {object : CustomResource Spec Status}
    (h : decodeResource decodeSpec stored = some object) : ∃ ms, stored = .obj ms := by
  cases stored with
  | obj ms => exact ⟨ms, rfl⟩
  | _ => cases h

theorem takes_of_patched (hfits : crd.Fits Status decodeSpec) {document : Json}
    {object : CustomResource Spec Status} (hadmits : crd.root.admits document = true)
    (h : decodeResource decodeSpec document = some object) :
    ∃ stored', crd.receive document = some stored' ∧
      decodeResource decodeSpec stored' = some object := by
  obtain ⟨ms, rfl⟩ := exists_of_decodeResource h
  have hreceive := receive_of_admits hfits.sound hadmits
  have hmetadata : (Decoder.field decodeObjectMeta ms "metadata").isSome = true := by
    rw [decodeResource_eq] at h
    obtain ⟨metadata, hmetadata, -⟩ := Option.bind_eq_some_iff.mp h
    rw [hmetadata]
    rfl
  have hread := (hfits.serves _ _ hreceive hmetadata).transparent hadmits
  exact ⟨_, hreceive, hread.trans h⟩

theorem admits_mergeMembers {name : String} {value : Json} (hspec : name ≠ "spec")
    (hadmits : Schema.AdmitsAll crd.properties ["spec"] ms)
    (hstatus : name = "status" →
      ∀ v, (Json.mergeMembers ms [(name, value)]).lookup "status" = some v →
      (Schema.nullable crd.status).admits v = true) :
    Schema.AdmitsAll crd.properties ["spec"] (Json.mergeMembers ms [(name, value)]) := by
  have hkept : ∀ other, name ≠ other →
      (Json.mergeMembers ms [(name, value)]).lookup other = ms.lookup other :=
    fun other hother => Json.lookup_mergeMembers_ne hother ms value
  refine ⟨?_, ?_⟩
  · rw [List.forall_mem_singleton, hkept "spec" hspec]
    exact hadmits.required "spec" (by simp)
  · simp only [properties, List.forall_mem_cons]
    refine ⟨?_, ?_, by simp⟩
    · rw [hkept "spec" hspec]
      exact hadmits.admitted ("spec", crd.spec) (by simp [properties])
    · by_cases hname : name = "status"
      · exact hstatus hname
      · rw [hkept "status" hname]
        exact hadmits.admitted ("status", .nullable crd.status) (by simp [properties])

/-- A status patch is taken. -/
theorem takes_statusPatch (hfits : crd.Fits Status decodeSpec)
    (hstatuses : crd.AdmitsStatuses Status) (status : Status) :
    crd.Takes decodeSpec (statusPatch status)
      (fun object : CustomResource Spec Status => { object with status := some status }) := by
  intro stored object hstored hobject
  refine takes_of_patched hfits ?_ (decodeResource_statusPatch hobject status)
  obtain ⟨ms, rfl⟩ := exists_of_decodeResource hobject
  have hadmitsAll := Schema.admits_object.mp (admits_of_receive hstored)
  refine Schema.admits_object.mpr (admits_mergeMembers (by decide) hadmitsAll fun _ v hv => ?_)
  rw [Json.lookup_mergeMembers_self] at hv
  have hadmits := hstatuses ((ms.lookup "status").getD .null) status
  obtain rfl := Option.some.inj hv
  exact hadmits

theorem decodeObjectMeta_finalizers {stored : Json} {metadata : ObjectMeta}
    (h : decodeObjectMeta stored = some metadata) (finalizers : List String) :
    decodeObjectMeta (stored.mergePatch (.obj [("finalizers", .arr (finalizers.map Json.str))])) =
      some { metadata with finalizers := some finalizers } := by
  cases stored with
  | obj ms =>
    simp only [decodeObjectMeta, Decoder.struct, Option.bind_eq_bind, Option.bind_some,
      Option.bind_eq_some_iff] at h
    obtain ⟨name, hname, generateName, hgenerate, namespaceName, hnamespace, uid, huid, generation,
      hgeneration, deletionTimestamp, hdeletion, old, -, hmetadata⟩ := h
    obtain rfl := Option.some.inj hmetadata
    have hkept : ∀ {α : Type} {d : Decoder α} {k : String} {a : Option α}, "finalizers" ≠ k →
        Decoder.fieldOption d ms k = some a →
        Decoder.fieldOption d (Json.mergeMembers ms
          [("finalizers", .arr (finalizers.map Json.str))]) k = some a :=
      fun hne hread => Decoder.fieldOr_keeps hne hread _
    have hset : Decoder.fieldOption (Decoder.list Decoder.string) (Json.mergeMembers ms
        [("finalizers", .arr (finalizers.map Json.str))]) "finalizers" =
        some (some finalizers) :=
      Decoder.fieldOption_mergeMembers (Decoder.list_inverts Decoder.string_inverts.decode)
        (by simp) ms "finalizers" (some finalizers) rfl
    simp only [decodeObjectMeta, Json.mergePatch, Json.members, Decoder.struct,
      Option.bind_eq_bind, Option.bind_some, hkept (by decide) hname,
      hkept (by decide) hgenerate, hkept (by decide) hnamespace, hkept (by decide) huid,
      hkept (by decide) hgeneration, hkept (by decide) hdeletion, hset]
  | _ => cases h

theorem takes_finalizersPatch (hfits : crd.Fits Status decodeSpec) (finalizers : List String) :
    crd.Takes decodeSpec (Kubernetes.finalizersPatch finalizers)
      (fun object : CustomResource Spec Status => { object with
        metadata := { object.metadata with finalizers := some finalizers } }) := by
  intro stored object hstored hobject
  obtain ⟨ms, rfl⟩ := exists_of_decodeResource hobject
  have hadmitsAll := Schema.admits_object.mp (admits_of_receive hstored)
  refine takes_of_patched hfits (Schema.admits_object.mpr
    (admits_mergeMembers (by decide) hadmitsAll fun hname => absurd hname (by decide))) ?_
  rw [decodeResource_eq] at hobject
  obtain ⟨metadata, hmetadata, hobject⟩ := Option.bind_eq_some_iff.mp hobject
  obtain ⟨parts, hparts, hobject⟩ := Option.bind_eq_some_iff.mp hobject
  obtain rfl := Option.some.inj hobject
  obtain ⟨old, hold, hread⟩ := Option.bind_eq_some_iff.mp hmetadata
  let value : Json := .obj [("finalizers", .arr (finalizers.map Json.str))]
  let patched := Json.mergeMembers ms [("metadata", value)]
  have hkept : ∀ {name : String}, "metadata" ≠ name → patched.lookup name = ms.lookup name :=
    fun hne => Json.lookup_mergeMembers_ne hne ms value
  have hfield : Decoder.field decodeObjectMeta patched "metadata" =
      some { metadata with finalizers := some finalizers } := by
    have hlookup : patched.lookup "metadata" = some (old.mergePatch value) := by
      rw [Json.lookup_mergeMembers_self, hold]
      rfl
    rw [Decoder.field, hlookup]
    exact decodeObjectMeta_finalizers hread finalizers
  have hsame : readParts Status decodeSpec patched = readParts Status decodeSpec ms := by
    rw [readParts, Decoder.field_congr (hkept (by decide)), Decoder.fieldOption,
      Decoder.fieldOr_congr (hkept (by decide))]
    rfl
  change decodeResource decodeSpec (.obj patched) = _
  rw [decodeResource_eq, hfield, hsame, hparts]
  rfl

end Patches

end CustomResourceDefinition

theorem admitsStatuses_cluster : clusterDefinition.AdmitsStatuses ClusterStatus :=
  admits_clusterStatus

theorem admitsStatuses_topic : topicDefinition.AdmitsStatuses TopicStatus :=
  admits_topicStatus

theorem admitsStatuses_user : userDefinition.AdmitsStatuses UserStatus :=
  admits_userStatus

end StreamlineOperator.Crd

namespace StreamlineOperator.Controllers

open Foundation
open Kubernetes
open Crd
open Program (Always)

/-! Every run of a reconcile. -/

section PatchTaken

variable {Spec Status : Type} [StatusCodec Status] {decodeSpec : Decoder Spec}
variable {crd : CustomResourceDefinition} {kind : Kind}

/-- The call writes no custom resource but those of the kind, and of those the status or
the finalizers. A merge patch is one the API server takes: it reads back as the object with
this status, or with these finalizers. -/
def PatchTaken (Status : Type) [StatusCodec Status] (crd : CustomResourceDefinition)
    (decodeSpec : Decoder Spec) (kind : Kind) (e : ApiExchange) : Prop :=
  match e.request with
  | .patchStatus written _ _ body => written = kind ∧ ∃ status : Status,
      body = statusPatch status ∧ crd.Takes decodeSpec body
        (fun object : CustomResource Spec Status => { object with status := some status })
  | .mergePatch written _ _ body => written = kind ∧ ∃ finalizers,
      body = finalizersPatch finalizers ∧ crd.Takes decodeSpec body
        (fun object : CustomResource Spec Status => { object with
          metadata := { object.metadata with finalizers := some finalizers } })
  | .applyJson written _ _ _ body => written = kind ∧
      ∃ finalizer, body = finalizersPatch [finalizer]
  | .create written _ _ => written ∉ [.streamlineCluster, .streamlineTopic, .streamlineUser]
  | .apply written _ _ _ => written ∉ [.streamlineCluster, .streamlineTopic, .streamlineUser]
  | .delete written _ _ => written ∉ [.streamlineCluster, .streamlineTopic, .streamlineUser]
  | _ => True

theorem patchTaken_statusPatch {namespaceName name : String} {status : Status}
    {r : Except KubeError Unit} (hfits : crd.Fits Status decodeSpec)
    (hstatuses : crd.AdmitsStatuses Status) :
    PatchTaken Status crd decodeSpec kind
      ⟨.patchStatus kind namespaceName name (statusPatch status), r⟩ :=
  ⟨rfl, status, rfl, CustomResourceDefinition.takes_statusPatch hfits hstatuses status⟩

theorem patchTaken_finalizersPatch {namespaceName name : String} {finalizers : List String}
    {r : Except KubeError Unit} (hfits : crd.Fits Status decodeSpec) :
    PatchTaken Status crd decodeSpec kind
      ⟨.mergePatch kind namespaceName name (finalizersPatch finalizers), r⟩ :=
  ⟨rfl, finalizers, rfl, CustomResourceDefinition.takes_finalizersPatch hfits finalizers⟩

theorem patchTaken_applyFinalizer {namespaceName name finalizer : String} {force : Bool}
    {r : Except KubeError Unit} :
    PatchTaken Status crd decodeSpec kind
      ⟨.applyJson kind namespaceName name force (finalizersPatch [finalizer]), r⟩ :=
  ⟨rfl, finalizer, rfl⟩

theorem patchTaken_sendMetric {event : MetricEvent} :
    Always (PatchTaken Status crd decodeSpec kind) (sendMetric event) :=
  always_sendMetric trivial

theorem patchTaken_getThenWrite {child : Kind} {namespaceName name : String}
    {object : child.Object}
    (h : child ∉ [.streamlineCluster, .streamlineTopic, .streamlineUser]) :
    Always (PatchTaken Status crd decodeSpec kind)
      (getThenWrite child namespaceName name object) :=
  always_getThenWrite (fun _ => trivial) (fun _ => h) (fun _ => h)

theorem patchTaken_publish {S R : Type} [PublishedStatus S] [DecidableEq S]
    {decodeSpec : Decoder R} {object : CustomResource R S} {namespaceName : String}
    {build : Conditions.Clock → CustomResource R S → S}
    (hfits : crd.Fits S decodeSpec) (hstatuses : crd.AdmitsStatuses S) :
    Always (PatchTaken S crd decodeSpec kind) (publish kind object namespaceName build) :=
  always_publish (fun _ => trivial) (fun _ _ => patchTaken_statusPatch hfits hstatuses)

end PatchTaken

section Reconciles

theorem cluster_afterCleanup_patches_taken (cluster : StreamlineCluster) (namespaceName : String) :
    Always (PatchTaken ClusterStatus clusterDefinition ClusterSpec.decode .streamlineCluster)
      (ClusterController.afterCleanup cluster namespaceName) := by
  have hpublish : ∀ {build},
      Always (PatchTaken ClusterStatus clusterDefinition ClusterSpec.decode .streamlineCluster)
        (publish .streamlineCluster cluster namespaceName build) :=
    patchTaken_publish fits_cluster admitsStatuses_cluster
  rw [ClusterController.afterCleanup]
  cases hvalid : cluster.spec.validate with
  | error errors =>
    refine Program.always_bind hpublish ?_
    intro _
    exact Program.always_then patchTaken_sendMetric
  | ok u =>
    have heq := ClusterController.renderSpec_eq cluster namespaceName
    rw [hvalid] at heq
    simp only [heq]
    refine Program.always_bind (patchTaken_getThenWrite (by decide)) fun _ => ?_
    refine Program.always_bind (patchTaken_getThenWrite (by decide)) fun _ => ?_
    refine Program.always_bind (patchTaken_getThenWrite (by decide)) fun _ => ?_
    refine Program.always_bind (patchTaken_getThenWrite (by decide)) fun _ => ?_
    refine Program.always_bind ?_ fun _ => Program.always_then patchTaken_sendMetric
    refine Program.always_send_bind (fun _ => trivial) fun listed => ?_
    refine Program.always_bind (always_orKubeApi listed) ?_
    intro pods
    exact hpublish

theorem cluster_patches_taken (cluster : StreamlineCluster) :
    Always (PatchTaken ClusterStatus clusterDefinition ClusterSpec.decode .streamlineCluster)
      (ClusterController.reconcile cluster) := by
  refine Program.always_bind patchTaken_sendMetric fun _ => ?_
  split
  · apply ClusterController.always_handleDeletion
    · exact fun _ => trivial
    · exact fun _ _ => show Kind.persistentVolumeClaim ∉ _ by decide
    · exact fun _ => patchTaken_finalizersPatch fits_cluster
  · rw [ClusterController.reconcileLive_eq]
    refine Program.always_bind
      (always_ensureFinalizer fun _ => patchTaken_applyFinalizer) fun _ => ?_
    refine Program.always_bind ?_ fun _ => cluster_afterCleanup_patches_taken cluster _
    intro tr res hruns
    obtain ⟨r, rfl, -⟩ := AutoScalingController.runs_deleteHpa hruns
    rw [List.forall_mem_singleton]
    exact show Kind.horizontalPodAutoscaler ∉ _ by decide

theorem topic_creation_patches_taken (topic : StreamlineTopic) (cluster : StreamlineCluster) :
    Always (PatchTaken TopicStatus topicDefinition TopicSpec.decode .streamlineTopic)
      (TopicController.createOrUpdateTopic topic cluster) := by
  refine Program.always_send_bind (fun _ => trivial) fun answer => ?_
  cases answer with
  | error e => exact Program.always_err _
  | ok response =>
    dsimp only
    unfold TopicController.createdTopicState
    split
    · exact Program.always_err _
    · dsimp only
      split
      · refine Program.always_send_bind (fun _ => trivial) fun read => ?_
        cases read <;> exact Program.always_ok _
      · exact Program.always_ok _

theorem topic_applySpec_patches_taken (topic : StreamlineTopic) (namespaceName : String) :
    Always (PatchTaken TopicStatus topicDefinition TopicSpec.decode .streamlineTopic)
      (TopicController.applySpec topic namespaceName) := by
  have hpublish : ∀ {build},
      Always (PatchTaken TopicStatus topicDefinition TopicSpec.decode .streamlineTopic)
        (publish .streamlineTopic topic namespaceName build) :=
    patchTaken_publish fits_topic admitsStatuses_topic
  refine Program.always_send_bind (fun _ => trivial) fun found => ?_
  cases found with
  | error e => exact Program.always_then hpublish
  | ok cluster =>
    dsimp only
    split
    · refine Program.always_bind
        (Program.always_attempt (topic_creation_patches_taken topic cluster)) fun outcome => ?_
      cases outcome with
      | error e => exact Program.always_then hpublish
      | ok state =>
        refine Program.always_bind ?_ fun _ => Program.always_then patchTaken_sendMetric
        unfold TopicController.updateStatusFromServer
        split <;> exact hpublish
    · exact Program.always_then hpublish

theorem topic_patches_taken (topic : StreamlineTopic) :
    Always (PatchTaken TopicStatus topicDefinition TopicSpec.decode .streamlineTopic)
      (TopicController.reconcile topic) := by
  refine Program.always_bind patchTaken_sendMetric fun _ => ?_
  split
  · intro tr res hruns
    obtain ⟨patched, -, ⟨cluster, deleted, rfl⟩ | ⟨e, rfl⟩⟩ :=
      TopicController.runs_handleDeletion hruns
    · simp only [List.forall_mem_cons]
      exact ⟨trivial, trivial, patchTaken_finalizersPatch fits_topic, by simp⟩
    · simp only [List.forall_mem_cons]
      exact ⟨trivial, patchTaken_finalizersPatch fits_topic, by simp⟩
  · refine Program.always_bind
      (always_ensureFinalizer fun _ => patchTaken_applyFinalizer) fun _ => ?_
    dsimp only
    split
    · refine Program.always_bind (patchTaken_publish fits_topic admitsStatuses_topic) fun _ => ?_
      exact Program.always_then patchTaken_sendMetric
    · exact topic_applySpec_patches_taken topic _

theorem user_patches_taken (user : StreamlineUser UserSpec) :
    Always (PatchTaken UserStatus userDefinition UserSpec.decode .streamlineUser)
      (UserController.reconcile user) := by
  refine Program.always_bind patchTaken_sendMetric fun _ => ?_
  refine Program.always_bind ?_ fun _ => ?_
  · unfold UserController.removeFinalizerIfPresent
    split
    · exact Program.always_ok ()
    · exact always_removeFinalizer fun _ => patchTaken_finalizersPatch fits_user
  · split
    · exact Program.always_ok _
    · refine Program.always_bind (patchTaken_publish fits_user admitsStatuses_user) fun _ => ?_
      exact Program.always_then patchTaken_sendMetric

/-- Whatever a reconcile is answered, and whatever the API server stores by then: the
installed definitions take every merge patch of a custom resource it sends, and the
operator reads back what it meant to write. -/
theorem installed_definitions_take :
    (∀ cluster : StreamlineCluster,
      Always (PatchTaken ClusterStatus clusterDefinition ClusterSpec.decode .streamlineCluster)
        (ClusterController.reconcile cluster)) ∧
    (∀ topic : StreamlineTopic,
      Always (PatchTaken TopicStatus topicDefinition TopicSpec.decode .streamlineTopic)
        (TopicController.reconcile topic)) ∧
    ∀ user : StreamlineUser UserSpec,
      Always (PatchTaken UserStatus userDefinition UserSpec.decode .streamlineUser)
        (UserController.reconcile user) :=
  ⟨cluster_patches_taken, topic_patches_taken, user_patches_taken⟩

end Reconciles

end StreamlineOperator.Controllers
