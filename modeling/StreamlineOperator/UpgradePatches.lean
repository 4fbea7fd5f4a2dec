/- source: src/src/upgrade.rs (LEGACY_DEFAULTS), src/src/crd/{cluster,topic}.rs, src/src/controllers/topic.rs
   digest: The documented merge patches change the tabled leaves of a stored object and nothing else. -/

import Mathlib
import StreamlineOperator.Controllers.TopicGate
import StreamlineOperator.Crd.ClusterDecode
import StreamlineOperator.Foundation.JsonText

set_option autoImplicit false
set_option relaxedAutoImplicit false

namespace StreamlineOperator.Upgrade

open Foundation
open Crd

namespace LegacyDefault

/-- The path of the field. -/
def path (self : LegacyDefault) : List String :=
  (self.field.toList.splitOn '.').map String.ofList

/-- The message refuses the field: a message begins with the path below `spec`. -/
def rejectedBy (self : LegacyDefault) (message : String) : Bool :=
  startsWith ("spec." ++ message) self.field

end LegacyDefault

/-- The patch bodies of the entries, merged one after the other. -/
def applyPatches (entries : List LegacyDefault) (document : Json) : Option Json :=
  entries.foldlM (fun document entry => (Json.parse entry.mergePatch).map document.mergePatch)
    document

def named (field : String) (entries : List LegacyDefault) : Bool :=
  entries.any (fun entry => entry.field = field)

/-- The message is about one of the entries. -/
def refusedIn (entries : List LegacyDefault) (message : String) : Bool :=
  entries.any (fun entry => entry.rejectedBy message)

/-- The spec with the supported value in every field the entries name. -/
def patchedCluster (entries : List LegacyDefault) (spec : ClusterSpec) : ClusterSpec :=
  { spec with
    replicas := if named "spec.replicas" entries then 1 else spec.replicas
    podAntiAffinity := if named "spec.podAntiAffinity" entries then false
      else spec.podAntiAffinity }

def patchedTopic (entries : List LegacyDefault) (spec : TopicSpec) : TopicSpec :=
  { spec with
    replicationFactor := if named "spec.replicationFactor" entries then 1
      else spec.replicationFactor
    config := { spec.config with
      minInsyncReplicas := if named "spec.config.minInsyncReplicas" entries then none
        else spec.config.minInsyncReplicas
      maxMessageBytes := if named "spec.config.maxMessageBytes" entries then none
        else spec.config.maxMessageBytes }
    retention := { spec.retention with
      retentionMs := if named "spec.retention.retentionMs" entries then -1
        else spec.retention.retentionMs } }

/-- The value of a tabled field, as the table writes it. -/
def clusterValue (field : String) (spec : ClusterSpec) : Option String :=
  if field = "spec.replicas" then some (toString spec.replicas)
  else if field = "spec.podAntiAffinity" then some (toString spec.podAntiAffinity)
  else none

/-- As `clusterValue`. A removed key is written as null. -/
def topicValue (field : String) (spec : TopicSpec) : Option String :=
  if field = "spec.replicationFactor" then some (toString spec.replicationFactor)
  else if field = "spec.retention.retentionMs" then some (toString spec.retention.retentionMs)
  else if field = "spec.config.minInsyncReplicas" then
    some ((spec.config.minInsyncReplicas.map toString).getD removedValue)
  else if field = "spec.config.maxMessageBytes" then
    some ((spec.config.maxMessageBytes.map toString).getD removedValue)
  else none

/-- What `validate` reports. -/
def clusterRejections (spec : ClusterSpec) : List String :=
  match spec.validate with
  | .ok () => []
  | .error errors => errors

/-- A kind of resource with documented patches: how its spec is read, what the
patches should make of it, which value a field has, and what the operator refuses. -/
structure PatchedKind (Spec : Type) where
  kind : String
  decode : Decoder Spec
  patched : List LegacyDefault → Spec → Spec
  value : String → Spec → Option String
  rejections : Spec → List String

def clusterKind : PatchedKind ClusterSpec :=
  { kind := "StreamlineCluster"
    decode := ClusterSpec.decode
    patched := patchedCluster
    value := clusterValue
    rejections := clusterRejections }

def topicKind : PatchedKind TopicSpec :=
  { kind := "StreamlineTopic"
    decode := TopicSpec.decode
    patched := patchedTopic
    value := topicValue
    rejections := Controllers.TopicController.unsupportedFields }

namespace PatchedKind

variable {Spec Status : Type} [StatusCodec Status]

/-- An entry of the table for this kind. -/
def Tabled (self : PatchedKind Spec) (entry : LegacyDefault) : Prop :=
  entry ∈ legacyDefaults ∧ entry.kind = self.kind

/-- What the object reads as once the patches are merged. -/
def upgrade (self : PatchedKind Spec) (entries : List LegacyDefault) (document : Json) :
    Option (CustomResource Spec Status) :=
  (applyPatches entries document).bind (decodeResource self.decode)

/-- What the patches of `entries` do to a stored object that reads as `object`. -/
structure Surgical (k : PatchedKind Spec) (entries : List LegacyDefault) (document : Json)
    (object : CustomResource Spec Status) : Prop where
  upgraded : k.upgrade entries document =
    some { object with spec := k.patched entries object.spec }
  supported : ∀ entry ∈ entries,
    k.value entry.field (k.patched entries object.spec) = some entry.supportedValue
  unordered : ∀ others : List LegacyDefault, (∀ entry, entry ∈ others ↔ entry ∈ entries) →
    (k.upgrade others document : Option (CustomResource Spec Status)) = k.upgrade entries document
  rejections : k.rejections (k.patched entries object.spec) =
    (k.rejections object.spec).filter (fun message => !refusedIn entries message)

end PatchedKind

/-- The patches are surgical on every stored object, as long as each of them is `within`
its bounds there. -/
def PatchesSurgical (within : LegacyDefault → Json → Prop) : Prop :=
  (∀ (entries : List LegacyDefault) (document : Json) (cluster : StreamlineCluster),
    (∀ entry ∈ entries, clusterKind.Tabled entry ∧ within entry document) →
    decodeResource ClusterSpec.decode document = some cluster →
    clusterKind.Surgical entries document cluster) ∧
  ∀ (entries : List LegacyDefault) (document : Json) (topic : StreamlineTopic),
    (∀ entry ∈ entries, topicKind.Tabled entry ∧ within entry document) →
    decodeResource TopicSpec.decode document = some topic →
    topicKind.Surgical entries document topic

/-- No block that the field lies in is stored as an array. -/
def BlocksAreObjects (entry : LegacyDefault) (document : Json) : Prop :=
  Json.MeetsNoArray entry.path document

/-- The table's field is the leaf the patch body writes. -/
structure Writes (entry : LegacyDefault) (path : List String) (leaf : Json) : Prop where
  fieldPath : entry.path = path
  parse : Json.parse entry.mergePatch = some (Json.leafPatch path leaf)
  isAtomic : leaf.isAtomic = true
  notArray : ∀ items, leaf ≠ .arr items

theorem cluster_writes {entry : LegacyDefault} (h : clusterKind.Tabled entry) :
    (entry.field = "spec.replicas" ∧ Writes entry ["spec", "replicas"] (.ofInt32 1)) ∨
      entry.field = "spec.podAntiAffinity" ∧
        Writes entry ["spec", "podAntiAffinity"] (.bool false) := by
  obtain ⟨hmem, hkind⟩ := h
  simp only [legacyDefaults, List.mem_cons, List.not_mem_nil, or_false] at hmem
  rcases hmem with rfl | rfl | rfl | rfl | rfl | rfl
  · exact .inl ⟨rfl, by cbv, by cbv, rfl, by simp [Json.ofInt32]⟩
  · exact .inr ⟨rfl, by cbv, by cbv, rfl, by simp⟩
  all_goals simp [clusterKind] at hkind

theorem topic_writes {entry : LegacyDefault} (h : topicKind.Tabled entry) :
    (entry.field = "spec.replicationFactor" ∧
        Writes entry ["spec", "replicationFactor"] (.ofInt32 1)) ∨
      (entry.field = "spec.retention.retentionMs" ∧
        Writes entry ["spec", "retention", "retentionMs"] (.ofInt64 (-1))) ∨
      (entry.field = "spec.config.minInsyncReplicas" ∧
        Writes entry ["spec", "config", "minInsyncReplicas"] .null) ∨
      entry.field = "spec.config.maxMessageBytes" ∧
        Writes entry ["spec", "config", "maxMessageBytes"] .null := by
  obtain ⟨hmem, hkind⟩ := h
  simp only [legacyDefaults, List.mem_cons, List.not_mem_nil, or_false] at hmem
  rcases hmem with rfl | rfl | rfl | rfl | rfl | rfl
  · simp [topicKind] at hkind
  · simp [topicKind] at hkind
  · exact .inl ⟨rfl, by cbv, by cbv, rfl, by simp [Json.ofInt32]⟩
  · exact .inr (.inl ⟨rfl, by cbv, by cbv, rfl, by simp [Json.ofInt64]⟩)
  · exact .inr (.inr (.inl ⟨rfl, by cbv, by cbv, rfl, by simp⟩))
  · exact .inr (.inr (.inr ⟨rfl, by cbv, by cbv, rfl, by simp⟩))

/-! What one leaf patch does to a decoded spec. -/

section SpecUpdates

open Decoder (Updates derived derived_eq_some)
open Json (MeetsNoArray leafPatch)

/-! Each of these types is read as a struct. -/

private theorem clusterSpec_struct (v : Json) (spec : ClusterSpec)
    (h : ClusterSpec.decode v = some spec) : ∃ names ms, derived names v = some ms :=
  (Option.bind_eq_some_iff.mp h).elim (fun ms hms => ⟨_, ms, hms.1⟩)

private theorem topicSpec_struct (v : Json) (spec : TopicSpec)
    (h : TopicSpec.decode v = some spec) : ∃ names ms, derived names v = some ms :=
  (Option.bind_eq_some_iff.mp h).elim (fun ms hms => ⟨_, ms, hms.1⟩)

private theorem topicConfig_struct (v : Json) (config : TopicConfig)
    (h : TopicConfig.decode v = some config) : ∃ names ms, derived names v = some ms :=
  (Option.bind_eq_some_iff.mp h).elim (fun ms hms => ⟨_, ms, hms.1⟩)

private theorem retentionConfig_struct (v : Json) (retention : RetentionConfig)
    (h : RetentionConfig.decode v = some retention) : ∃ names ms, derived names v = some ms :=
  (Option.bind_eq_some_iff.mp h).elim (fun ms hms => ⟨_, ms, hms.1⟩)

theorem clusterSpec_decode_congr {ms ms' : Members} {spec : ClusterSpec} {f : Int32 → Int32}
    {g : Bool → Bool} (hread : ClusterSpec.decode (.obj ms) = some spec)
    (hreplicas : ∀ n, Decoder.fieldOr defaultReplicas .int32 ms "replicas" = some n →
      Decoder.fieldOr defaultReplicas .int32 ms' "replicas" = some (f n))
    (hantiAffinity : ∀ b, Decoder.fieldOr false .bool ms "podAntiAffinity" = some b →
      Decoder.fieldOr false .bool ms' "podAntiAffinity" = some (g b))
    (hrest : ∀ name, name ≠ "replicas" → name ≠ "podAntiAffinity" →
      ms'.lookup name = ms.lookup name) :
    ClusterSpec.decode (.obj ms') =
      some { spec with
        replicas := f spec.replicas
        podAntiAffinity := g spec.podAntiAffinity } := by
  have hkept {α : Type} {default value : α} {d : Decoder α} {name : String}
      (h : Decoder.fieldOr default d ms name = some value)
      (hname : name ≠ "replicas" ∧ name ≠ "podAntiAffinity") :
      Decoder.fieldOr default d ms' name = some value :=
    (Decoder.fieldOr_congr (hrest name hname.1 hname.2) default d).trans h
  obtain ⟨replicas, hr, hread⟩ := Option.bind_eq_some_iff.mp hread
  obtain ⟨image, himage, hread⟩ := Option.bind_eq_some_iff.mp hread
  obtain ⟨pullPolicy, hpullPolicy, hread⟩ := Option.bind_eq_some_iff.mp hread
  obtain ⟨resources, hresources, hread⟩ := Option.bind_eq_some_iff.mp hread
  obtain ⟨storage, hstorage, hread⟩ := Option.bind_eq_some_iff.mp hread
  obtain ⟨tls, htls, hread⟩ := Option.bind_eq_some_iff.mp hread
  obtain ⟨kafkaPort, hkafkaPort, hread⟩ := Option.bind_eq_some_iff.mp hread
  obtain ⟨httpPort, hhttpPort, hread⟩ := Option.bind_eq_some_iff.mp hread
  obtain ⟨raftPort, hraftPort, hread⟩ := Option.bind_eq_some_iff.mp hread
  obtain ⟨env, henv, hread⟩ := Option.bind_eq_some_iff.mp hread
  obtain ⟨nodeSelector, hnodeSelector, hread⟩ := Option.bind_eq_some_iff.mp hread
  obtain ⟨tolerations, htolerations, hread⟩ := Option.bind_eq_some_iff.mp hread
  obtain ⟨antiAffinity, ha, hread⟩ := Option.bind_eq_some_iff.mp hread
  obtain ⟨rack, hrack, hread⟩ := Option.bind_eq_some_iff.mp hread
  obtain ⟨account, haccount, hread⟩ := Option.bind_eq_some_iff.mp hread
  obtain ⟨logLevel, hlogLevel, hread⟩ := Option.bind_eq_some_iff.mp hread
  obtain ⟨metrics, hmetrics, hread⟩ := Option.bind_eq_some_iff.mp hread
  obtain ⟨strategy, hstrategy, hread⟩ := Option.bind_eq_some_iff.mp hread
  obtain ⟨autoscaling, hautoscaling, hread⟩ := Option.bind_eq_some_iff.mp hread
  obtain rfl := Option.some.inj hread
  rw [Decoder.fieldOption] at htls hrack haccount hautoscaling
  simp only [ClusterSpec.decode, derived, Decoder.fieldOption]
  rw [Option.bind_eq_bind, Option.bind_some, hreplicas replicas hr, hkept himage (by decide),
    hkept hpullPolicy (by decide),
    hkept hresources (by decide), hkept hstorage (by decide), hkept htls (by decide),
    hkept hkafkaPort (by decide), hkept hhttpPort (by decide), hkept hraftPort (by decide),
    hkept henv (by decide), hkept hnodeSelector (by decide), hkept htolerations (by decide),
    hantiAffinity antiAffinity ha, hkept hrack (by decide), hkept haccount (by decide),
    hkept hlogLevel (by decide), hkept hmetrics (by decide), hkept hstrategy (by decide),
    hkept hautoscaling (by decide)]
  rfl

theorem topicSpec_decode_congr {ms ms' : Members} {spec : TopicSpec} {f : Int32 → Int32}
    {g : TopicConfig → TopicConfig} {k : RetentionConfig → RetentionConfig}
    (hread : TopicSpec.decode (.obj ms) = some spec)
    (hfactor : ∀ n, Decoder.fieldOr defaultReplicationFactor .int32 ms "replicationFactor" =
        some n →
      Decoder.fieldOr defaultReplicationFactor .int32 ms' "replicationFactor" = some (f n))
    (hconfig : ∀ c, Decoder.fieldOr {} TopicConfig.decode ms "config" = some c →
      Decoder.fieldOr {} TopicConfig.decode ms' "config" = some (g c))
    (hretention : ∀ r, Decoder.fieldOr {} RetentionConfig.decode ms "retention" = some r →
      Decoder.fieldOr {} RetentionConfig.decode ms' "retention" = some (k r))
    (hrest : ∀ name, name ≠ "replicationFactor" → name ≠ "config" → name ≠ "retention" →
      ms'.lookup name = ms.lookup name) :
    TopicSpec.decode (.obj ms') =
      some { spec with
        replicationFactor := f spec.replicationFactor
        config := g spec.config
        retention := k spec.retention } := by
  have hcluster := Decoder.field_congr (hrest "clusterRef" (by decide) (by decide) (by decide))
    Decoder.string
  have hpartitions := Decoder.fieldOr_congr
    (hrest "partitions" (by decide) (by decide) (by decide)) defaultPartitions Decoder.int32
  have hcompression := Decoder.fieldOr_congr
    (hrest "compression" (by decide) (by decide) (by decide)) {} CompressionConfig.decode
  simp only [TopicSpec.decode, derived, Option.bind_eq_bind, Option.bind_some,
    Option.bind_eq_some_iff, Option.some.injEq] at hread
  obtain ⟨clusterRef, hclusterRef, partitions, hpart, factor, hf, config, hc, retention, hr,
    compression, hcomp, rfl⟩ := hread
  simp only [TopicSpec.decode, derived, Option.bind_eq_bind, Option.bind_some, hcluster,
    hclusterRef, hpartitions, hpart, hfactor factor hf, hconfig config hc,
    hretention retention hr, hcompression, hcomp]

theorem updates_replicas :
    Updates ClusterSpec.decode ["replicas"] (.ofInt32 1)
      (fun spec => { spec with replicas := 1 }) := by
  refine .of_members clusterSpec_struct (fun ms spec h _ => ?_)
  exact clusterSpec_decode_congr (f := fun _ => 1) (g := id) h
    (fun _ _ => Decoder.fieldOr_leaf Decoder.int32_inverts ms _ _ 1)
    (fun _ hb => Decoder.fieldOr_keeps (by decide) hb _)
    (fun _ hname _ => Json.lookup_mergeMembers_ne hname.symm ms _)

theorem updates_podAntiAffinity :
    Updates ClusterSpec.decode ["podAntiAffinity"] (.bool false)
      (fun spec => { spec with podAntiAffinity := false }) := by
  refine .of_members clusterSpec_struct (fun ms spec h _ => ?_)
  exact clusterSpec_decode_congr (f := id) (g := fun _ => false) h
    (fun _ hn => Decoder.fieldOr_keeps (by decide) hn _)
    (fun _ _ => Decoder.fieldOr_leaf Decoder.bool_inverts ms _ _ false)
    (fun _ _ hname => Json.lookup_mergeMembers_ne hname.symm ms _)

theorem updates_retentionMs :
    Updates RetentionConfig.decode ["retentionMs"] (.ofInt64 (-1))
      (fun retention => { retention with retentionMs := -1 }) := by
  refine .of_members retentionConfig_struct (fun ms retention h _ => ?_)
  simp only [RetentionConfig.decode, derived, Option.bind_eq_bind, Option.bind_some,
    Option.bind_eq_some_iff, Option.some.injEq] at h
  obtain ⟨-, -, bytes, hbytes, policy, hpolicy, rfl⟩ := h
  have hms := Decoder.fieldOr_leaf Decoder.int64_inverts ms "retentionMs" defaultRetentionMs (-1)
  have hbytes' := Decoder.fieldOr_keeps (k := "retentionMs") (by decide) hbytes (.ofInt64 (-1))
  have hpolicy' := Decoder.fieldOr_keeps (k := "retentionMs") (by decide) hpolicy (.ofInt64 (-1))
  simp only [leafPatch, List.foldr_nil, RetentionConfig.decode, derived, Option.bind_eq_bind,
    Option.bind_some, hms, hbytes', hpolicy']

theorem topicConfig_decode_congr {ms ms' : Members} {config : TopicConfig}
    {f : Option Int32 → Option Int32} {g : Option Int64 → Option Int64}
    (hread : TopicConfig.decode (.obj ms) = some config)
    (hreplicas : ∀ n, Decoder.fieldOption .int32 ms "minInsyncReplicas" = some n →
      Decoder.fieldOption .int32 ms' "minInsyncReplicas" = some (f n))
    (hbytes : ∀ n, Decoder.fieldOption .int64 ms "maxMessageBytes" = some n →
      Decoder.fieldOption .int64 ms' "maxMessageBytes" = some (g n))
    (hrest : ∀ name, name ≠ "minInsyncReplicas" → name ≠ "maxMessageBytes" →
      ms'.lookup name = ms.lookup name) :
    TopicConfig.decode (.obj ms') =
      some { config with
        minInsyncReplicas := f config.minInsyncReplicas
        maxMessageBytes := g config.maxMessageBytes } := by
  have hfieldOption (name : String) (hr : name ≠ "minInsyncReplicas")
      (hb : name ≠ "maxMessageBytes") :
      Decoder.fieldOption .int64 ms' name = Decoder.fieldOption .int64 ms name :=
    Decoder.fieldOr_congr (hrest name hr hb) none _
  have hcustom := Decoder.fieldOr_congr (hrest "custom" (by decide) (by decide)) ∅ .stringMap
  simp only [TopicConfig.decode, derived, Option.bind_eq_bind, Option.bind_some,
    Option.bind_eq_some_iff, Option.some.injEq] at hread
  obtain ⟨replicas, hr, maxBytes, hb, segment, hsegment, index, hindex, flushMs, hflushMs, flush,
    hflush, custom, hc, rfl⟩ := hread
  simp only [TopicConfig.decode, derived, Option.bind_eq_bind, Option.bind_some,
    hreplicas replicas hr, hbytes maxBytes hb, hfieldOption, ne_eq, String.reduceEq,
    not_false_eq_true, hsegment, hindex, hflushMs, hflush, hcustom, hc]

theorem updates_minInsyncReplicas :
    Updates TopicConfig.decode ["minInsyncReplicas"] .null
      (fun config => { config with minInsyncReplicas := none }) := by
  refine .of_members topicConfig_struct (fun ms config h _ => ?_)
  exact topicConfig_decode_congr (f := fun _ => none) (g := id) h
    (fun _ _ => Decoder.fieldOption_leaf _ ms _)
    (fun _ hn => Decoder.fieldOr_keeps (by decide) hn _)
    (fun _ hname _ => Json.lookup_mergeMembers_ne hname.symm ms _)

theorem updates_maxMessageBytes :
    Updates TopicConfig.decode ["maxMessageBytes"] .null
      (fun config => { config with maxMessageBytes := none }) := by
  refine .of_members topicConfig_struct (fun ms config h _ => ?_)
  exact topicConfig_decode_congr (f := id) (g := fun _ => none) h
    (fun _ hn => Decoder.fieldOr_keeps (by decide) hn _)
    (fun _ _ => Decoder.fieldOption_leaf _ ms _)
    (fun _ _ hname => Json.lookup_mergeMembers_ne hname.symm ms _)

theorem updates_replicationFactor :
    Updates TopicSpec.decode ["replicationFactor"] (.ofInt32 1)
      (fun spec => { spec with replicationFactor := 1 }) := by
  refine .of_members topicSpec_struct (fun ms spec h _ => ?_)
  exact topicSpec_decode_congr (f := fun _ => 1) (g := id) (k := id) h
    (fun _ _ => Decoder.fieldOr_leaf Decoder.int32_inverts ms _ _ 1)
    (fun _ hc => Decoder.fieldOr_keeps (by decide) hc _)
    (fun _ hr => Decoder.fieldOr_keeps (by decide) hr _)
    (fun _ hname _ _ => Json.lookup_mergeMembers_ne hname.symm ms _)

theorem updates_config {name : String} {leaf : Json} {g : TopicConfig → TopicConfig}
    (hg : Updates TopicConfig.decode [name] leaf g) :
    Updates TopicSpec.decode ["config", name] leaf
      (fun spec => { spec with config := g spec.config }) := by
  refine .of_members topicSpec_struct (fun ms spec h hopen => ?_)
  exact topicSpec_decode_congr (f := id) (g := g) (k := id) h
    (fun _ hn => Decoder.fieldOr_keeps (by decide) hn _)
    (fun _ hc => hg.fieldOr (by simp) rfl hc hopen)
    (fun _ hr => Decoder.fieldOr_keeps (by decide) hr _)
    (fun _ _ hname _ => Json.lookup_mergeMembers_ne hname.symm ms _)

theorem updates_retention {name : String} {leaf : Json} {k : RetentionConfig → RetentionConfig}
    (hk : Updates RetentionConfig.decode [name] leaf k) :
    Updates TopicSpec.decode ["retention", name] leaf
      (fun spec => { spec with retention := k spec.retention }) := by
  refine .of_members topicSpec_struct (fun ms spec h hopen => ?_)
  exact topicSpec_decode_congr (f := id) (g := id) (k := k) h
    (fun _ hn => Decoder.fieldOr_keeps (by decide) hn _)
    (fun _ hc => Decoder.fieldOr_keeps (by decide) hc _)
    (fun _ hr => hk.fieldOr (by simp) rfl hr hopen)
    (fun _ _ _ hname => Json.lookup_mergeMembers_ne hname.symm ms _)

end SpecUpdates

/-! What is refused before and after. -/

section Rejections

/-- The message is about no field that a cluster patch writes. -/
private def Unpatched (message : String) : Prop :=
  startsWith message "replicas" = false ∧ startsWith message "podAntiAffinity" = false

private theorem unpatched_of_initials {message : String} {letters : List Char}
    (h : initials message = letters) (hother : letters ≠ ['r', 'e'] ∧ letters ≠ ['p', 'o']) :
    Unpatched message :=
  ⟨not_startsWith_of_initials h initials_ofList hother.1,
    not_startsWith_of_initials h initials_ofList hother.2⟩

private theorem refusedIn_eq_any {entries : List LegacyDefault} {fields : List (String × String)}
    (hfields : ∀ f ∈ fields, f.1 = "spec." ++ f.2)
    (h : ∀ entry ∈ entries, ∃ f ∈ fields, entry.field = f.1) (message : String) :
    refusedIn entries message =
      fields.any (fun f => named f.1 entries && startsWith message f.2) := by
  have hrejected : ∀ f ∈ fields, ∀ entry : LegacyDefault, entry.field = f.1 →
      entry.rejectedBy message = startsWith message f.2 := by
    intro f hf entry hfield
    rw [LegacyDefault.rejectedBy, hfield, hfields f hf, startsWith_append_left]
  rw [Bool.eq_iff_iff, refusedIn, List.any_eq_true, List.any_eq_true]
  simp only [Bool.and_eq_true, named, List.any_eq_true, decide_eq_true_eq]
  constructor
  · rintro ⟨entry, hentry, hrefused⟩
    obtain ⟨f, hf, hfield⟩ := h entry hentry
    rw [hrejected f hf entry hfield] at hrefused
    exact ⟨f, hf, ⟨entry, hentry, hfield⟩, hrefused⟩
  · rintro ⟨f, hf, ⟨entry, hentry, hfield⟩, hstarts⟩
    rw [← hrejected f hf entry hfield] at hstarts
    exact ⟨entry, hentry, hstarts⟩

private theorem refusedIn_cluster {entries : List LegacyDefault}
    (h : ∀ entry ∈ entries, clusterKind.Tabled entry) (message : String) :
    refusedIn entries message =
      ((named "spec.replicas" entries && startsWith message "replicas") ||
        (named "spec.podAntiAffinity" entries && startsWith message "podAntiAffinity")) := by
  have hwritten : ∀ entry ∈ entries, ∃ f ∈ [("spec.replicas", "replicas"),
      ("spec.podAntiAffinity", "podAntiAffinity")], entry.field = f.1 := by
    intro entry hentry
    rcases cluster_writes (h entry hentry) with ⟨hfield, -⟩ | ⟨hfield, -⟩ <;> simp [hfield]
  rw [refusedIn_eq_any (by simp) hwritten]
  simp

private theorem filter_unpatched {entries : List LegacyDefault}
    (h : ∀ entry ∈ entries, clusterKind.Tabled entry) {group : List String}
    (hgroup : ∀ m ∈ group, Unpatched m) :
    group.filter (fun m => !refusedIn entries m) = group := by
  rw [List.filter_eq_self]
  intro m hm
  simp [refusedIn_cluster h, (hgroup m hm).1, (hgroup m hm).2]

private theorem replicasErrors_patched {entries : List LegacyDefault}
    (h : ∀ entry ∈ entries, clusterKind.Tabled entry) (spec : ClusterSpec) :
    (patchedCluster entries spec).replicasErrors =
      spec.replicasErrors.filter (fun m => !refusedIn entries m) := by
  have hnamed : ∀ m ∈ spec.replicasErrors,
      startsWith m "replicas" = true ∧ startsWith m "podAntiAffinity" = false := by
    intro m hm
    refine ⟨?_, not_startsWith_of_initials (ClusterSpec.initials_replicasErrors hm)
      initials_ofList (by decide)⟩
    rw [ClusterSpec.replicasErrors, List.mem_append, mem_reject, mem_reject] at hm
    rcases hm with ⟨-, rfl⟩ | ⟨-, rfl⟩
    · exact startsWith_append (by decide) _
    · simp only [String.append_assoc]
      exact startsWith_append (by decide) _
  cases hpatched : named "spec.replicas" entries with
  | true =>
    have hnone : spec.replicasErrors.filter (fun m => !refusedIn entries m) = [] := by
      rw [List.filter_eq_nil_iff]
      intro m hm
      simp [refusedIn_cluster h, hpatched, (hnamed m hm).1]
    rw [hnone]
    unfold patchedCluster ClusterSpec.replicasErrors
    rw [hpatched]
    rfl
  | false =>
    have hall : spec.replicasErrors.filter (fun m => !refusedIn entries m) =
        spec.replicasErrors := by
      rw [List.filter_eq_self]
      intro m hm
      simp [refusedIn_cluster h, hpatched, (hnamed m hm).2]
    rw [hall]
    unfold patchedCluster ClusterSpec.replicasErrors
    rw [hpatched]
    rfl

private theorem schedulingErrors_split (spec : ClusterSpec) :
    ∃ m, (startsWith m "podAntiAffinity" = true ∧ startsWith m "replicas" = false) ∧
      spec.schedulingErrors = reject spec.podAntiAffinity m ++
        { spec with podAntiAffinity := false }.schedulingErrors := by
  unfold ClusterSpec.schedulingErrors
  refine ⟨_, ?_, by rw [List.append_assoc]; rfl⟩
  simp only [String.append_assoc]
  exact ⟨startsWith_append (by decide) _,
    not_startsWith_of_initials (initials_append _) initials_ofList (by decide)⟩

private theorem unpatched_schedulingErrors (spec : ClusterSpec)
    (hanti : spec.podAntiAffinity = false) : ∀ m ∈ spec.schedulingErrors, Unpatched m := by
  intro m hm
  rcases ClusterSpec.initials_schedulingErrors hm with ⟨htrue, -⟩ | hletters | hletters
  · rw [hanti] at htrue
    cases htrue
  · exact unpatched_of_initials hletters (by decide)
  · exact unpatched_of_initials hletters (by decide)

private theorem schedulingErrors_patched {entries : List LegacyDefault}
    (h : ∀ entry ∈ entries, clusterKind.Tabled entry) (spec : ClusterSpec) :
    (patchedCluster entries spec).schedulingErrors =
      spec.schedulingErrors.filter (fun m => !refusedIn entries m) := by
  obtain ⟨m, ⟨hanti, hreplicas⟩, hsplit⟩ := schedulingErrors_split spec
  have hrest := filter_unpatched h
    (unpatched_schedulingErrors { spec with podAntiAffinity := false } rfl)
  have hrefused : refusedIn entries m = named "spec.podAntiAffinity" entries := by
    rw [refusedIn_cluster h, hanti, hreplicas]
    simp
  rw [hsplit, List.filter_append, hrest]
  cases hpatched : named "spec.podAntiAffinity" entries with
  | true =>
    have hnone : (reject spec.podAntiAffinity m).filter (fun m => !refusedIn entries m) = [] := by
      cases spec.podAntiAffinity <;> simp [reject, hrefused, hpatched]
    rw [hnone]
    unfold patchedCluster
    rw [hpatched]
    rfl
  | false =>
    have hall : (reject spec.podAntiAffinity m).filter (fun m => !refusedIn entries m) =
        reject spec.podAntiAffinity m := by
      cases spec.podAntiAffinity <;> simp [reject, hrefused, hpatched]
    rw [hall, ← hsplit]
    unfold patchedCluster
    rw [hpatched]
    rfl

theorem clusterRejections_patched {entries : List LegacyDefault}
    (h : ∀ entry ∈ entries, clusterKind.Tabled entry) (spec : ClusterSpec) :
    clusterRejections (patchedCluster entries spec) =
      (clusterRejections spec).filter (fun m => !refusedIn entries m) := by
  have herrors (spec : ClusterSpec) : clusterRejections spec = spec.errors := by
    unfold clusterRejections ClusterSpec.validate
    cases hnil : spec.errors <;> simp
  have hkafka : ∀ m ∈ ClusterSpec.portErrors "kafkaPort" spec.kafkaPort, Unpatched m :=
    fun m hm => unpatched_of_initials (ClusterSpec.initials_portErrors hm) (by decide)
  have hhttp : ∀ m ∈ ClusterSpec.portErrors "httpPort" spec.httpPort, Unpatched m :=
    fun m hm => unpatched_of_initials (ClusterSpec.initials_portErrors hm) (by decide)
  have hraft : ∀ m ∈ ClusterSpec.portErrors "raftPort" spec.raftPort, Unpatched m :=
    fun m hm => unpatched_of_initials (ClusterSpec.initials_portErrors hm) (by decide)
  have hdistinct : ∀ m ∈ spec.distinctPortErrors, Unpatched m :=
    fun m hm => unpatched_of_initials (ClusterSpec.initials_distinctPortErrors hm) (by decide)
  have henv : ∀ m ∈ ClusterSpec.envErrors 0 spec.env, Unpatched m :=
    fun m hm => unpatched_of_initials (ClusterSpec.initials_envErrors hm) (by decide)
  have hautoscaling : ∀ m ∈ spec.autoscalingErrors, Unpatched m :=
    fun m hm => unpatched_of_initials (ClusterSpec.initials_autoscalingErrors hm) (by decide)
  have htls : ∀ m ∈ spec.tlsErrors, Unpatched m :=
    fun m hm => unpatched_of_initials (ClusterSpec.initials_tlsErrors hm) (by decide)
  rw [herrors, herrors, ClusterSpec.errors, ClusterSpec.errors]
  simp only [List.filter_append, ← replicasErrors_patched h, ← schedulingErrors_patched h,
    filter_unpatched h hkafka, filter_unpatched h hhttp, filter_unpatched h hraft,
    filter_unpatched h hdistinct, filter_unpatched h henv, filter_unpatched h hautoscaling,
    filter_unpatched h htls]
  rfl

open Controllers (TopicController.unsupportedFields TopicController.unsupportedFields_eq)
open Controllers.TopicController (Setting)
open Controllers.TopicController.Setting (deviates deviating message message_names)

/-- The setting whose value the patches replace. -/
private def replaced (entries : List LegacyDefault) : Setting → Bool
  | .replicationFactor => named "spec.replicationFactor" entries
  | .retentionMs => named "spec.retention.retentionMs" entries
  | .minInsyncReplicas => named "spec.config.minInsyncReplicas" entries
  | .maxMessageBytes => named "spec.config.maxMessageBytes" entries
  | _ => false

private theorem refusedIn_topic {entries : List LegacyDefault}
    (h : ∀ entry ∈ entries, topicKind.Tabled entry) (m : String) :
    refusedIn entries m =
      ((named "spec.replicationFactor" entries &&
          startsWith m Setting.replicationFactor.field) ||
        (named "spec.retention.retentionMs" entries && startsWith m Setting.retentionMs.field) ||
        (named "spec.config.minInsyncReplicas" entries &&
          startsWith m Setting.minInsyncReplicas.field) ||
        (named "spec.config.maxMessageBytes" entries &&
          startsWith m Setting.maxMessageBytes.field)) := by
  have hwritten : ∀ entry ∈ entries, ∃ f ∈ [
      ("spec.replicationFactor", Setting.replicationFactor.field),
      ("spec.retention.retentionMs", Setting.retentionMs.field),
      ("spec.config.minInsyncReplicas", Setting.minInsyncReplicas.field),
      ("spec.config.maxMessageBytes", Setting.maxMessageBytes.field)], entry.field = f.1 := by
    intro entry hentry
    rcases topic_writes (h entry hentry) with ⟨hfield, -⟩ | ⟨hfield, -⟩ | ⟨hfield, -⟩ |
      ⟨hfield, -⟩ <;> simp [hfield]
  rw [refusedIn_eq_any ?_ hwritten]
  · simp [Bool.or_assoc]
  · unfold Setting.field
    simp

private def tabledSettings : List Setting :=
  [.replicationFactor, .retentionMs, .minInsyncReplicas, .maxMessageBytes]

private theorem fixed_fields : ∀ t ∈ tabledSettings, ∀ s ∈ Setting.fixed,
    startsWith s.field t.field = decide (s = t) ∧
      (startsWith t.field s.field = true → startsWith s.field t.field = true) := by
  decide

private theorem custom_fields : ∀ t ∈ tabledSettings,
    startsWith "config.custom[" t.field = false ∧
      startsWith t.field "config.custom[" = false := by
  decide

private theorem startsWith_message (spec : TopicSpec) (s : Setting) {t : Setting}
    (ht : t ∈ tabledSettings) : startsWith (s.message spec) t.field = decide (s = t) := by
  obtain ⟨rest, hrest⟩ := message_names spec s
  rw [hrest]
  by_cases hfixed : s ∈ Setting.fixed
  · obtain ⟨hown, hlonger⟩ := fixed_fields t ht s hfixed
    rw [startsWith_append_eq hlonger, hown]
  · obtain ⟨key, rfl⟩ : ∃ key, s = .custom key := by
      cases s with
      | custom key => exact ⟨key, rfl⟩
      | _ => exact absurd (by decide) hfixed
    have hne : Setting.custom key ≠ t := by
      rintro rfl
      simp [tabledSettings] at ht
    have hfield : (Setting.custom key).field = "config.custom[" ++ key ++ "]" := rfl
    rw [hfield, String.append_assoc, String.append_assoc, decide_eq_false hne]
    exact startsWith_eq_false (custom_fields t ht).1 (custom_fields t ht).2 _

private theorem refusedIn_message {entries : List LegacyDefault}
    (h : ∀ entry ∈ entries, topicKind.Tabled entry) (spec : TopicSpec) (s : Setting) :
    refusedIn entries (s.message spec) = replaced entries s := by
  rw [refusedIn_topic h, startsWith_message spec s (by decide),
    startsWith_message spec s (by decide), startsWith_message spec s (by decide),
    startsWith_message spec s (by decide)]
  cases s <;> simp [replaced]

private theorem deviates_patched (entries : List LegacyDefault) (spec : TopicSpec) (s : Setting) :
    deviates (patchedTopic entries spec) s = (!replaced entries s && deviates spec s) := by
  -- a supported value is the one the minimal spec has
  cases s with
  | replicationFactor =>
    unfold deviates patchedTopic replaced
    cases named "spec.replicationFactor" entries <;> rfl
  | retentionMs =>
    unfold deviates patchedTopic replaced
    cases named "spec.retention.retentionMs" entries <;> rfl
  | minInsyncReplicas =>
    unfold deviates patchedTopic replaced
    cases named "spec.config.minInsyncReplicas" entries <;> rfl
  | maxMessageBytes =>
    unfold deviates patchedTopic replaced
    cases named "spec.config.maxMessageBytes" entries <;> rfl
  | _ => rfl

private theorem message_patched {entries : List LegacyDefault} {s : Setting}
    (h : replaced entries s = false) (spec : TopicSpec) :
    message (patchedTopic entries spec) s = message spec s := by
  cases s with
  | replicationFactor =>
    simp only [replaced] at h
    simp only [message, patchedTopic, h, Bool.false_eq_true, if_false]
  | retentionMs =>
    simp only [replaced] at h
    simp only [message, Setting.requested, patchedTopic, h, Bool.false_eq_true, if_false]
  | minInsyncReplicas =>
    simp only [replaced] at h
    simp only [message, Setting.requested, patchedTopic, h, Bool.false_eq_true, if_false]
  | maxMessageBytes =>
    simp only [replaced] at h
    simp only [message, Setting.requested, patchedTopic, h, Bool.false_eq_true, if_false]
  | _ => rfl

theorem topicRejections_patched {entries : List LegacyDefault}
    (h : ∀ entry ∈ entries, topicKind.Tabled entry) (spec : TopicSpec) :
    TopicController.unsupportedFields (patchedTopic entries spec) =
      (TopicController.unsupportedFields spec).filter (fun m => !refusedIn entries m) := by
  have hkept : deviating (patchedTopic entries spec) =
      (deviating spec).filter (fun s => !replaced entries s) := by
    rw [deviating, deviating, List.filter_filter]
    exact List.filter_congr (fun s _ => deviates_patched entries spec s)
  rw [TopicController.unsupportedFields_eq, TopicController.unsupportedFields_eq,
    List.filter_map, hkept]
  have hrefused : (fun m => !refusedIn entries m) ∘ message spec =
      fun s => !replaced entries s := by
    funext s
    simp [refusedIn_message h spec s]
  rw [hrefused]
  refine List.map_congr_left (fun s hs => message_patched ?_ spec)
  simpa using (List.mem_filter.mp hs).2

end Rejections

/-! Runs of patches. -/

theorem named_cons (field : String) (entry : LegacyDefault) (entries : List LegacyDefault) :
    named field (entry :: entries) = (named field [entry] || named field entries) := by
  simp [named]

theorem named_congr {entries others : List LegacyDefault}
    (h : ∀ entry, entry ∈ others ↔ entry ∈ entries) (field : String) :
    named field others = named field entries := by
  rw [named, named, Bool.eq_iff_iff, List.any_eq_true, List.any_eq_true]
  simp only [h]

theorem named_of_mem {entry : LegacyDefault} {entries : List LegacyDefault}
    (h : entry ∈ entries) : named entry.field entries = true :=
  List.any_eq_true.mpr ⟨entry, h, by simp⟩

namespace PatchedKind

variable {Spec Status : Type} [StatusCodec Status]

/-- What has to be known of a kind, one entry at a time. -/
structure Lawful (k : PatchedKind Spec) : Prop where
  nil : ∀ spec, k.patched [] spec = spec
  cons : ∀ entry entries spec,
    k.patched (entry :: entries) spec = k.patched entries (k.patched [entry] spec)
  congr : ∀ entries others, (∀ entry, entry ∈ others ↔ entry ∈ entries) →
    k.patched others = k.patched entries
  updates : ∀ entry, k.Tabled entry → ∃ path leaf, path ≠ [] ∧
    Writes entry ("spec" :: path) leaf ∧ Decoder.Updates k.decode path leaf (k.patched [entry])

/-- One patch, merged into a stored object. -/
theorem Lawful.decode_step {self : PatchedKind Spec} (lawful : self.Lawful)
    {entry : LegacyDefault} (tabled : self.Tabled entry) {document : Json}
    {object : CustomResource Spec Status} (hopen : BlocksAreObjects entry document)
    (hread : decodeResource self.decode document = some object) :
    ∃ document', (Json.parse entry.mergePatch).map document.mergePatch = some document' ∧
      decodeResource self.decode document' =
        some { object with spec := self.patched [entry] object.spec } ∧
      ∀ other, BlocksAreObjects other document → BlocksAreObjects other document' := by
  obtain ⟨path, leaf, hpath, writes, updates⟩ := lawful.updates entry tabled
  refine ⟨_, by rw [writes.parse]; rfl, ?_,
    fun other h => h.mergePatch writes.isAtomic writes.notArray⟩
  rw [BlocksAreObjects, writes.fieldPath] at hopen
  obtain ⟨ms, hms, h⟩ := Option.bind_eq_some_iff.mp hread
  obtain rfl : document = .obj ms := by
    cases document with
    | obj ms' => exact congrArg Json.obj (Option.some.inj hms)
    | _ => simp [Decoder.struct] at hms
  simp only [Option.bind_eq_bind, Option.bind_eq_some_iff, Option.some.injEq] at h
  obtain ⟨metadata, hmetadata, spec, hspec, status, hstatus, rfl⟩ := h
  have hspec' := updates.field hpath hspec hopen.2
  have hmetadata' : Decoder.field decodeObjectMeta
      (Json.mergeMembers ms [("spec", Json.leafPatch path leaf)]) "metadata" = some metadata := by
    rw [Decoder.field_congr (Json.lookup_mergeMembers_ne (by decide) ms _), hmetadata]
  have hstatus' := Decoder.fieldOr_keeps (k := "spec") (by decide) hstatus
    (Json.leafPatch path leaf)
  simp only [Json.leafPatch_cons, Json.mergePatch, Json.members, decodeResource, Decoder.struct,
    Option.bind_eq_bind, Option.bind_some, hspec', hmetadata', Decoder.fieldOption, hstatus']

/-- A run of patches, by induction on the entries. -/
theorem Lawful.upgrade_eq {self : PatchedKind Spec} (lawful : self.Lawful)
    {entries : List LegacyDefault} {document : Json} {object : CustomResource Spec Status}
    (h : ∀ entry ∈ entries, self.Tabled entry ∧ BlocksAreObjects entry document)
    (hread : decodeResource self.decode document = some object) :
    self.upgrade entries document =
      some { object with spec := self.patched entries object.spec } := by
  induction entries generalizing document object with
  | nil =>
    rw [lawful.nil]
    exact hread
  | cons entry entries ih =>
    rw [List.forall_mem_cons] at h
    obtain ⟨⟨tabled, hopen⟩, hrest⟩ := h
    obtain ⟨document', hmerge, hread', hkeeps⟩ := lawful.decode_step tabled hopen hread
    have hrun := ih (fun other hmem => ⟨(hrest other hmem).1, hkeeps other (hrest other hmem).2⟩)
      hread'
    rw [lawful.cons, ← hrun, upgrade, applyPatches, List.foldlM_cons, hmerge]
    rfl

theorem Lawful.upgrade_congr {self : PatchedKind Spec} (lawful : self.Lawful)
    {entries others : List LegacyDefault} {document : Json} {object : CustomResource Spec Status}
    (h : ∀ entry ∈ entries, self.Tabled entry ∧ BlocksAreObjects entry document)
    (hread : decodeResource self.decode document = some object)
    (hsame : ∀ entry, entry ∈ others ↔ entry ∈ entries) :
    (self.upgrade others document : Option (CustomResource Spec Status)) =
      self.upgrade entries document := by
  have hothers := fun entry hmem => h entry ((hsame entry).mp hmem)
  rw [lawful.upgrade_eq h hread, lawful.upgrade_eq hothers hread, lawful.congr entries others hsame]

end PatchedKind

theorem clusterKind_lawful : clusterKind.Lawful where
  nil _ := rfl
  cons entry entries spec := by
    change patchedCluster (entry :: entries) spec =
      patchedCluster entries (patchedCluster [entry] spec)
    unfold patchedCluster
    rw [named_cons "spec.replicas" entry entries, named_cons "spec.podAntiAffinity" entry entries]
    cases named "spec.replicas" [entry] <;> cases named "spec.podAntiAffinity" [entry] <;> simp
  congr entries others h := by
    funext spec
    change patchedCluster others spec = patchedCluster entries spec
    simp only [patchedCluster, named_congr h]
  updates entry tabled := by
    rcases cluster_writes tabled with ⟨hfield, writes⟩ | ⟨hfield, writes⟩
    · refine ⟨_, _, by simp, writes, updates_replicas.congr (fun spec => ?_)⟩
      simp [clusterKind, patchedCluster, named, hfield]
    · refine ⟨_, _, by simp, writes, updates_podAntiAffinity.congr (fun spec => ?_)⟩
      simp [clusterKind, patchedCluster, named, hfield]

theorem topicKind_lawful : topicKind.Lawful where
  nil _ := rfl
  cons entry entries spec := by
    change patchedTopic (entry :: entries) spec = patchedTopic entries (patchedTopic [entry] spec)
    unfold patchedTopic
    rw [named_cons "spec.replicationFactor" entry entries,
      named_cons "spec.retention.retentionMs" entry entries,
      named_cons "spec.config.minInsyncReplicas" entry entries,
      named_cons "spec.config.maxMessageBytes" entry entries]
    cases named "spec.replicationFactor" [entry] <;>
      cases named "spec.retention.retentionMs" [entry] <;>
      cases named "spec.config.minInsyncReplicas" [entry] <;>
      cases named "spec.config.maxMessageBytes" [entry] <;> simp
  congr entries others h := by
    funext spec
    change patchedTopic others spec = patchedTopic entries spec
    simp only [patchedTopic, named_congr h]
  updates entry tabled := by
    rcases topic_writes tabled with ⟨hfield, writes⟩ | ⟨hfield, writes⟩ | ⟨hfield, writes⟩ |
      ⟨hfield, writes⟩
    · refine ⟨_, _, by simp, writes, updates_replicationFactor.congr (fun spec => ?_)⟩
      simp [topicKind, patchedTopic, named, hfield]
    · refine ⟨_, _, by simp, writes,
        (updates_retention updates_retentionMs).congr (fun spec => ?_)⟩
      simp [topicKind, patchedTopic, named, hfield]
    · refine ⟨_, _, by simp, writes,
        (updates_config updates_minInsyncReplicas).congr (fun spec => ?_)⟩
      simp [topicKind, patchedTopic, named, hfield]
    · refine ⟨_, _, by simp, writes,
        (updates_config updates_maxMessageBytes).congr (fun spec => ?_)⟩
      simp [topicKind, patchedTopic, named, hfield]

theorem clusterValue_patched {entries : List LegacyDefault} {entry : LegacyDefault}
    (tabled : clusterKind.Tabled entry) (h : entry ∈ entries) (spec : ClusterSpec) :
    clusterValue entry.field (patchedCluster entries spec) = some entry.supportedValue := by
  have hnamed := named_of_mem h
  obtain ⟨hmem, hkind⟩ := tabled
  simp only [legacyDefaults, List.mem_cons, List.not_mem_nil, or_false] at hmem
  rcases hmem with rfl | rfl | rfl | rfl | rfl | rfl
  · simp only [clusterValue, patchedCluster, hnamed, if_true]
    rfl
  · simp only [clusterValue, patchedCluster, hnamed, if_true]
    rfl
  all_goals simp [clusterKind] at hkind

theorem topicValue_patched {entries : List LegacyDefault} {entry : LegacyDefault}
    (tabled : topicKind.Tabled entry) (h : entry ∈ entries) (spec : TopicSpec) :
    topicValue entry.field (patchedTopic entries spec) = some entry.supportedValue := by
  have hnamed := named_of_mem h
  obtain ⟨hmem, hkind⟩ := tabled
  simp only [legacyDefaults, List.mem_cons, List.not_mem_nil, or_false] at hmem
  rcases hmem with rfl | rfl | rfl | rfl | rfl | rfl
  · simp [topicKind] at hkind
  · simp [topicKind] at hkind
  all_goals
    simp only [topicValue, patchedTopic, hnamed, if_true]
    rfl

/-- Where its blocks are objects, every sequence of the documented patches is surgical. -/
theorem patches_surgical : PatchesSurgical BlocksAreObjects := by
  constructor
  · intro entries document cluster h hread
    have tabled := fun entry hmem => (h entry hmem).1
    exact {
      upgraded := clusterKind_lawful.upgrade_eq h hread
      supported := fun entry hmem => clusterValue_patched (tabled entry hmem) hmem cluster.spec
      unordered := fun others => clusterKind_lawful.upgrade_congr h hread
      rejections := by
        simp only [clusterKind]
        exact clusterRejections_patched tabled cluster.spec }
  · intro entries document topic h hread
    have tabled := fun entry hmem => (h entry hmem).1
    exact {
      upgraded := topicKind_lawful.upgrade_eq h hread
      supported := fun entry hmem => topicValue_patched (tabled entry hmem) hmem topic.spec
      unordered := fun others => topicKind_lawful.upgrade_congr h hread
      rejections := by
        simp only [topicKind]
        exact topicRejections_patched tabled topic.spec }

/-- A stored topic that opened both blocks. -/
def topicWithBlocks : Json := .obj [
  ("metadata", .obj [("name", .str "orders"), ("namespace", .str "streamline-system")]),
  ("spec", .obj [
    ("clusterRef", .str "my-cluster"),
    ("partitions", .num (.int 6)),
    ("replicationFactor", .num (.int 2)),
    ("retention", .obj [
      ("retentionMs", .num (.int 604800000)), ("cleanupPolicy", .str "delete")]),
    ("config", .obj [
      ("minInsyncReplicas", .num (.int 1)), ("maxMessageBytes", .num (.int 1048576)),
      ("flushMs", .num (.int 1000))])])]

/-- What a topic of this spec is stored as. -/
private def stored (spec : TopicSpec) : StreamlineTopic :=
  { metadata := { name := some "orders", namespaceName := some "streamline-system" }
    spec := spec
    status := none }

theorem patches_surgical_blocks :
    (legacyDefaults.filter (fun entry => entry.kind = "StreamlineTopic")).length = 4 ∧
      topicKind.Surgical (legacyDefaults.filter (fun entry => entry.kind = "StreamlineTopic"))
        topicWithBlocks (stored { clusterRef := "my-cluster", partitions := 6
                                  replicationFactor := 2
                                  retention := { retentionMs := 604800000 }
                                  config := { minInsyncReplicas := some 1
                                              maxMessageBytes := some 1048576 } }) := by
  refine ⟨by decide, patches_surgical.2 _ _ _ (fun entry hentry => ?_) (by rfl)⟩
  obtain ⟨hmem, hkind⟩ := List.mem_filter.mp hentry
  have tabled : topicKind.Tabled entry := ⟨hmem, by simpa [topicKind] using hkind⟩
  refine ⟨tabled, ?_⟩
  rw [BlocksAreObjects]
  rcases topic_writes tabled with ⟨-, writes⟩ | ⟨-, writes⟩ | ⟨-, writes⟩ | ⟨-, writes⟩ <;>
    simp [writes.fieldPath, Json.MeetsNoArray, topicWithBlocks, Json.members, Members.lookup_cons]

/-- A topic whose retention is stored as an array: the limit in time, then that in bytes. -/
def topicWithListedRetention : Json := .obj [
  ("metadata", .obj [("name", .str "orders"), ("namespace", .str "streamline-system")]),
  ("spec", .obj [
    ("clusterRef", .str "my-cluster"),
    ("retention", .arr [.num (.int 604800000), .num (.int 7)])])]

/-- Merging the retention patch into it takes the limit in bytes away. -/
theorem listed_block_replaced : ¬ PatchesSurgical (fun _ _ => True) := by
  intro h
  have hread : decodeResource TopicSpec.decode topicWithListedRetention =
      some (stored { clusterRef := "my-cluster"
                     retention := { retentionMs := 604800000, retentionBytes := 7 } }) := by
    rfl
  have tabled : ∀ entry ∈ [legacyDefaults[3]], topicKind.Tabled entry ∧ True := by
    simp [topicKind, PatchedKind.Tabled, legacyDefaults]
  have hupgraded := (h.2 [legacyDefaults[3]] _ _ tabled hread).upgraded
  have hlost : topicKind.upgrade [legacyDefaults[3]] topicWithListedRetention =
      some (stored { clusterRef := "my-cluster", retention := { retentionMs := -1 } }) := by
    cbv
  rw [hlost] at hupgraded
  have hspec := congrArg CustomResource.spec (Option.some.inj hupgraded)
  have hbytes : (-1 : Int64) = 7 := congrArg (fun spec => spec.retention.retentionBytes) hspec
  exact absurd hbytes (by decide)

end StreamlineOperator.Upgrade
