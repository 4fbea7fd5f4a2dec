/- source: src/src/controllers/topic.rs (unsupported_fields, the gate in reconcile), src/src/crd/topic.rs
   digest: The gate refuses exactly the deviating settings, and only accepted topics are posted. -/

import StreamlineOperator.Controllers.Topic

set_option autoImplicit false
set_option relaxedAutoImplicit false

namespace StreamlineOperator.Controllers

open Foundation
open Kubernetes
open Program (Always)
open Crd (TopicSpec TopicConfig RetentionConfig CompressionConfig StreamlineTopic)

namespace TopicController

/-- The settings of a topic spec, one for each leaf and one for each custom key. -/
inductive Setting where
  | replicationFactor
  | partitions
  | retentionMs
  | retentionBytes
  | cleanupPolicy
  | compressionType
  | minInsyncReplicas
  | maxMessageBytes
  | segmentBytes
  | indexIntervalBytes
  | flushIntervalMs
  | flushMessages
  | custom (key : String)
  deriving DecidableEq

/-- The spec with the same `clusterRef` and `partitions` and nothing else set. -/
def minimalSpec (spec : TopicSpec) : TopicSpec :=
  { clusterRef := spec.clusterRef, partitions := spec.partitions }

namespace Setting

/-- The setting differs from that of the minimal spec. The partition count
deviates when it is below one. -/
def deviates (spec : TopicSpec) : Setting → Bool
  | replicationFactor => spec.replicationFactor ≠ (minimalSpec spec).replicationFactor
  | partitions => spec.partitions < 1
  | retentionMs => spec.retention.retentionMs ≠ (minimalSpec spec).retention.retentionMs
  | retentionBytes => spec.retention.retentionBytes ≠ (minimalSpec spec).retention.retentionBytes
  | cleanupPolicy => spec.retention.cleanupPolicy ≠ (minimalSpec spec).retention.cleanupPolicy
  | compressionType => spec.compression.type ≠ (minimalSpec spec).compression.type
  | minInsyncReplicas =>
    spec.config.minInsyncReplicas ≠ (minimalSpec spec).config.minInsyncReplicas
  | maxMessageBytes => spec.config.maxMessageBytes ≠ (minimalSpec spec).config.maxMessageBytes
  | segmentBytes => spec.config.segmentBytes ≠ (minimalSpec spec).config.segmentBytes
  | indexIntervalBytes =>
    spec.config.indexIntervalBytes ≠ (minimalSpec spec).config.indexIntervalBytes
  | flushIntervalMs => spec.config.flushIntervalMs ≠ (minimalSpec spec).config.flushIntervalMs
  | flushMessages => spec.config.flushMessages ≠ (minimalSpec spec).config.flushMessages
  | custom key => spec.config.custom[key]? ≠ (minimalSpec spec).config.custom[key]?

/-- The path of the setting in the messages. -/
def field : Setting → String
  | replicationFactor => "replicationFactor"
  | partitions => "partitions"
  | retentionMs => "retention.retentionMs"
  | retentionBytes => "retention.retentionBytes"
  | cleanupPolicy => "retention.cleanupPolicy"
  | compressionType => "compression.type"
  | minInsyncReplicas => "config.minInsyncReplicas"
  | maxMessageBytes => "config.maxMessageBytes"
  | segmentBytes => "config.segmentBytes"
  | indexIntervalBytes => "config.indexIntervalBytes"
  | flushIntervalMs => "config.flushIntervalMs"
  | flushMessages => "config.flushMessages"
  | custom key => "config.custom[" ++ key ++ "]"

/-- What the spec requests, as its message has it. -/
def requested (spec : TopicSpec) : Setting → String
  | replicationFactor => toString spec.replicationFactor
  | partitions => toString spec.partitions
  | retentionMs => toString spec.retention.retentionMs
  | retentionBytes => toString spec.retention.retentionBytes
  | cleanupPolicy => spec.retention.cleanupPolicy
  | compressionType => spec.compression.type
  | minInsyncReplicas => (spec.config.minInsyncReplicas.map toString).getD ""
  | maxMessageBytes => (spec.config.maxMessageBytes.map toString).getD ""
  | segmentBytes => (spec.config.segmentBytes.map toString).getD ""
  | indexIntervalBytes => (spec.config.indexIntervalBytes.map toString).getD ""
  | flushIntervalMs => (spec.config.flushIntervalMs.map toString).getD ""
  | flushMessages => (spec.config.flushMessages.map toString).getD ""
  | custom _ => "set"

/-- The default a message advises to return to. -/
def default : Setting → String
  | retentionMs => toString Crd.defaultRetentionMs
  | retentionBytes => toString Crd.defaultRetentionBytes
  | cleanupPolicy => Crd.defaultCleanupPolicy
  | compressionType => Crd.defaultCompressionType
  | _ => "unset"

/-- The message that refuses the setting. -/
def message (spec : TopicSpec) (self : Setting) : String :=
  match self with
  | replicationFactor => replicationFactorMessage spec.replicationFactor
  | partitions => partitionsMessage spec.partitions
  | setting => settingMessage setting.field (setting.requested spec) setting.default

theorem message_names (spec : TopicSpec) (self : Setting) :
    ∃ rest, self.message spec = self.field ++ rest := by
  cases self with
  | replicationFactor =>
    have hsplit : "replicationFactor=" = "replicationFactor" ++ "=" := by decide
    unfold message replicationFactorMessage field
    rw [hsplit]
    simp only [String.append_assoc]
    exact ⟨_, rfl⟩
  | partitions =>
    have hsplit : "partitions must be >= 1, got " = "partitions" ++ " must be >= 1, got " := by
      decide
    unfold message partitionsMessage field
    rw [hsplit, String.append_assoc]
    exact ⟨_, rfl⟩
  | _ =>
    unfold message settingMessage
    simp only [String.append_assoc]
    exact ⟨_, rfl⟩

/-- The settings that do not depend on the spec, in the order they are checked. -/
def fixed : List Setting := [replicationFactor, partitions, retentionMs, retentionBytes,
  cleanupPolicy, compressionType, minInsyncReplicas, maxMessageBytes, segmentBytes,
  indexIntervalBytes, flushIntervalMs, flushMessages]

/-- Every setting of the spec, in the order they are checked. -/
def all (spec : TopicSpec) : List Setting := fixed ++ spec.config.custom.keys.map custom

theorem all_nodup (spec : TopicSpec) : (all spec).Nodup := by
  refine List.nodup_append.mpr ⟨by decide, ?_, ?_⟩
  · exact List.Pairwise.map custom (fun _ _ hne heq => hne (custom.inj heq))
      Std.ExtTreeMap.nodup_keys
  · rintro a ha b hb rfl
    obtain ⟨key, -, rfl⟩ := List.mem_map.mp hb
    simp [fixed] at ha

theorem mem_all_of_deviates {spec : TopicSpec} {s : Setting} (h : s.deviates spec = true) :
    s ∈ all spec := by
  cases s with
  | custom key =>
    have hkey : key ∈ spec.config.custom := by
      by_contra hkey
      have hnone : spec.config.custom[key]? = none := Std.ExtTreeMap.getElem?_eq_none hkey
      simp [deviates, minimalSpec, hnone] at h
    exact List.mem_append_right _ (List.mem_map_of_mem (Std.ExtTreeMap.mem_keys.mpr hkey))
  | _ => exact List.mem_append_left _ (by decide)

theorem deviates_custom {spec : TopicSpec} {key : String}
    (h : key ∈ spec.config.custom.keys) : (custom key).deviates spec = true := by
  have hsome := Std.ExtTreeMap.getElem?_eq_some_getElem (Std.ExtTreeMap.mem_keys.mp h)
  simp [deviates, minimalSpec, hsome]

def deviating (spec : TopicSpec) : List Setting := (all spec).filter (deviates spec)

theorem mem_deviating {spec : TopicSpec} {s : Setting} :
    s ∈ deviating spec ↔ s.deviates spec = true := by
  rw [deviating, List.mem_filter]
  exact ⟨And.right, fun h => ⟨mem_all_of_deviates h, h⟩⟩

theorem map_filter_cons (spec : TopicSpec) (s : Setting) (rest : List Setting) :
    ((s :: rest).filter (deviates spec)).map (message spec) =
      reject (s.deviates spec) (s.message spec) ++
        (rest.filter (deviates spec)).map (message spec) := by
  cases h : s.deviates spec <;> simp [h, reject]

theorem override_cons {α : Type} [ToString α] (field : String) (value : Option α)
    (rest : List (String × Option String)) :
    ((field, value.map toString) :: rest).filterMap
        (fun entry => entry.2.map (fun value => settingMessage entry.1 value "unset")) =
      reject (value ≠ none) (settingMessage field ((value.map toString).getD "") "unset") ++
        rest.filterMap
          (fun entry => entry.2.map (fun value => settingMessage entry.1 value "unset")) := by
  cases value <;> rfl

end Setting

open Setting

/-- The gate's answer is the list of the deviating settings, one message each. -/
theorem unsupportedFields_eq (spec : TopicSpec) :
    unsupportedFields spec = (deviating spec).map (message spec) := by
  have hcustom : (spec.config.custom.keys.map custom).filter (deviates spec) =
      spec.config.custom.keys.map custom := by
    rw [List.filter_eq_self]
    rintro s hs
    obtain ⟨key, hkey, rfl⟩ := List.mem_map.mp hs
    exact deviates_custom hkey
  rw [deviating, all, List.filter_append, List.map_append, hcustom, List.map_map]
  unfold unsupportedFields configOverrides fixed
  simp only [map_filter_cons, override_cons, List.filter_nil, List.map_nil, List.filterMap_nil,
    List.append_assoc, List.append_nil]
  rfl

theorem deviating_eq_nil (spec : TopicSpec) :
    deviating spec = [] ↔ 1 ≤ spec.partitions ∧ spec = minimalSpec spec := by
  rw [List.eq_nil_iff_forall_not_mem]
  simp only [mem_deviating, Bool.not_eq_true]
  constructor
  · intro h
    have hequal {α : Type} [DecidableEq α] {a b : α} (hne : decide (a ≠ b) = false) : a = b := by
      simpa using hne
    have hcustom : spec.config.custom = (minimalSpec spec).config.custom :=
      Std.ExtTreeMap.ext_getElem? (fun {key} => hequal (h (custom key)))
    have hconfig : spec.config = (minimalSpec spec).config :=
      (TopicConfig.mk.injEq ..).mpr ⟨hequal (h minInsyncReplicas), hequal (h maxMessageBytes),
        hequal (h segmentBytes), hequal (h indexIntervalBytes), hequal (h flushIntervalMs),
        hequal (h flushMessages), hcustom⟩
    have hretention : spec.retention = (minimalSpec spec).retention :=
      (RetentionConfig.mk.injEq ..).mpr
        ⟨hequal (h retentionMs), hequal (h retentionBytes), hequal (h cleanupPolicy)⟩
    have hcompression : spec.compression = (minimalSpec spec).compression :=
      (CompressionConfig.mk.injEq ..).mpr (hequal (h compressionType))
    refine ⟨?_, (TopicSpec.mk.injEq ..).mpr
      ⟨rfl, rfl, hequal (h replicationFactor), hconfig, hretention, hcompression⟩⟩
    simpa [deviates] using h partitions
  · rintro ⟨hpartitions, hspec⟩ s
    cases s with
    | partitions => simpa [deviates] using hpartitions
    | _ => simp only [deviates, ← hspec, ne_eq, not_true_eq_false, decide_false]

theorem unsupportedFields_eq_nil (spec : TopicSpec) :
    unsupportedFields spec = [] ↔ 1 ≤ spec.partitions ∧ spec = minimalSpec spec := by
  rw [unsupportedFields_eq, List.map_eq_nil_iff, deviating_eq_nil]

theorem eq_minimalSpec_iff (spec : TopicSpec) :
    spec = minimalSpec spec ↔
      TopicSpec.decode (TopicSpec.minimalDocument spec.clusterRef spec.partitions) = some spec := by
  rw [TopicSpec.decode_minimalDocument, Option.some.injEq, eq_comm]
  rfl

/-! Only an accepted topic is posted, and what is posted determines its spec. -/

private theorem topicConfig_partitions {a b : StreamlineTopic} (h : topicConfig a = topicConfig b) :
    a.spec.partitions = b.spec.partitions := by
  simp only [topicConfig, Json.obj.injEq, List.cons.injEq, Prod.mk.injEq, true_and, and_true] at h
  have hint : a.spec.partitions.toInt = b.spec.partitions.toInt := by
    simpa [Json.ofInt32] using h.2
  exact Int32.toInt_inj.mp hint

theorem spec_eq_of_topicConfig_eq {a b : StreamlineTopic} (ha : unsupportedFields a.spec = [])
    (hb : unsupportedFields b.spec = []) (hcluster : a.spec.clusterRef = b.spec.clusterRef)
    (hbody : topicConfig a = topicConfig b) : a.spec = b.spec := by
  obtain ⟨-, ha⟩ := (unsupportedFields_eq_nil a.spec).mp ha
  obtain ⟨-, hb⟩ := (unsupportedFields_eq_nil b.spec).mp hb
  rw [ha, hb, minimalSpec, minimalSpec, hcluster, topicConfig_partitions hbody]

/-- A post that an accepted topic may make: the topic's own create request. -/
def PostsAccepted (topic : StreamlineTopic) (e : ApiExchange) : Prop :=
  ∀ url body, e.request = .httpPost url body →
    unsupportedFields topic.spec = [] ∧ body = topicConfig topic

section Posts

variable {topic : StreamlineTopic} {cluster : Crd.StreamlineCluster}

theorem postsAccepted_of_ne {e : ApiExchange} (h : ∀ url body, e.request ≠ .httpPost url body) :
    PostsAccepted topic e := by
  intro url body hpost
  exact absurd hpost (h url body)

theorem Silent.postsAccepted {e : ApiExchange} (h : Silent e) : PostsAccepted topic e := by
  apply postsAccepted_of_ne
  intro url body hpost
  rw [Silent, hpost] at h
  cases h.1

theorem Reads.postsAccepted {e : ApiExchange} (h : Reads topic cluster e) :
    PostsAccepted topic e := by
  rcases h with hsilent | hget
  · exact hsilent.postsAccepted
  · apply postsAccepted_of_ne
    intro url body hpost
    rw [hget] at hpost
    cases hpost

theorem posts_handleDeletion {namespaceName : String} :
    Always (PostsAccepted topic) (handleDeletion topic namespaceName) := by
  intro tr res h
  obtain ⟨patched, -, ⟨cluster, deleted, rfl⟩ | ⟨e, rfl⟩⟩ := runs_handleDeletion h
  all_goals
    simp only [List.forall_mem_cons, List.not_mem_nil, false_imp_iff, implies_true, and_true]
  · exact ⟨postsAccepted_of_ne nofun, postsAccepted_of_ne nofun, postsAccepted_of_ne nofun⟩
  · exact ⟨postsAccepted_of_ne nofun, postsAccepted_of_ne nofun⟩

theorem LiveRun.postsAccepted {namespaceName : String} {tr : List ApiExchange}
    {res : Except OperatorError Action} (h : LiveRun topic namespaceName tr res) :
    ∀ e ∈ tr, PostsAccepted topic e := by
  cases h with
  | silent hsilent => exact fun e he => (hsilent e he).postsAccepted
  | synced accepted ready hsilent sync =>
    obtain ⟨answer, rest, rfl, hrest⟩ := runs_syncTopic sync
    rw [List.forall_mem_append, List.forall_mem_cons, List.forall_mem_cons]
    refine ⟨fun e he => (hsilent e he).postsAccepted, postsAccepted_of_ne nofun, ?_,
      fun e he => (hrest e he).postsAccepted⟩
    intro url body hpost
    obtain ⟨-, rfl⟩ := Request.httpPost.inj hpost
    exact ⟨accepted, rfl⟩

/-- A reconcile posts nothing but the create request of an accepted topic. -/
theorem posts_reconcile : Always (PostsAccepted topic) (reconcile topic) := by
  intro tr res h
  obtain ⟨tr', rfl, hrun⟩ := runs_reconcile h
  rw [List.forall_mem_cons]
  refine ⟨postsAccepted_of_ne nofun, ?_⟩
  rcases hrun with ⟨-, hdeletion⟩ | ⟨-, hlive⟩
  · exact posts_handleDeletion tr' res hdeletion
  · exact hlive.postsAccepted

end Posts

/-- The gate makes the create request a faithful image of the topic's spec. -/
structure FaithfulGate (topic : StreamlineTopic) : Prop where
  accepts : unsupportedFields topic.spec = [] ↔ 1 ≤ topic.spec.partitions ∧
    TopicSpec.decode (TopicSpec.minimalDocument topic.spec.clusterRef topic.spec.partitions) =
      some topic.spec
  refuses : ∃ settings : List Setting, settings.Nodup ∧
    (∀ s, s ∈ settings ↔ s.deviates topic.spec = true) ∧
    unsupportedFields topic.spec = settings.map (message topic.spec)
  determines : ∀ other : StreamlineTopic, unsupportedFields topic.spec = [] →
    unsupportedFields other.spec = [] → topic.spec.clusterRef = other.spec.clusterRef →
    topicConfig topic = topicConfig other → topic.spec = other.spec
  posts : ∀ tr res, Program.Runs (reconcile topic) tr res → ∀ e ∈ tr, PostsAccepted topic e

theorem topic_gate_faithful (topic : StreamlineTopic) : FaithfulGate topic where
  accepts := by rw [unsupportedFields_eq_nil, eq_minimalSpec_iff]
  refuses := ⟨deviating topic.spec, (all_nodup topic.spec).filter _, fun _ => mem_deviating,
    unsupportedFields_eq topic.spec⟩
  determines _ := spec_eq_of_topicConfig_eq
  posts := posts_reconcile

end TopicController

end StreamlineOperator.Controllers
