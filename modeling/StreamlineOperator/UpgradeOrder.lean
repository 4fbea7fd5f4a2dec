/- source: src/src/upgrade.rs (needs_corrected_crds_first), src/docs/UPGRADING.md, deploy/crds/
   digest: Upgrading stored objects: which patches last, by when the corrected definitions came. -/

import Mathlib
import StreamlineOperator.Crd.Definitions
import StreamlineOperator.Foundation.SchemaLeaves
import StreamlineOperator.UpgradePatches

set_option autoImplicit false
set_option relaxedAutoImplicit false

namespace StreamlineOperator.Upgrade

open Foundation
open Crd
open Json (Holds Lacks apart leafPatch)
open Schema (leafSchema Unset)

namespace LegacyDefault

/-- The patch only lasts under the corrected definitions. -/
def needsCorrectedCrdsFirst (self : LegacyDefault) : Bool := self.removesTheKey

/-- The two values of the field, null where it has none. -/
def legacyLeaf (self : LegacyDefault) : Json := (Json.parse self.legacyValue).getD .null

def supportedLeaf (self : LegacyDefault) : Json := (Json.parse self.supportedValue).getD .null

end LegacyDefault

/-! An object through an upgrade. -/

/-- An object as the API server returns it, under the definition that is installed. -/
structure StoredObject where
  corrected : Bool
  document : Json

/-- The installation of the corrected definitions, an accepted patch of the table, or
another accepted write. -/
inductive UpgradeEvent where
  | installed
  | patched (entry : LegacyDefault)
  | edited

section Upgrades

variable {Spec : Type}

/-- One step, for the definitions of v0.3.0 and the corrected ones. An installation
rewrites no object, but the next read fills in the new defaults. Other writes leave alone
what the tabled fields hold. -/
inductive UpgradeStep (k : PatchedKind Spec) (old new : CustomResourceDefinition) :
    StoredObject → UpgradeEvent → StoredObject → Prop
  | install (stored : StoredObject) :
      UpgradeStep k old new stored .installed ⟨true, new.complete stored.document⟩
  | patch {stored : StoredObject} {entry : LegacyDefault} {patch document : Json}
      (tabled : k.Tabled entry) (parse : Json.parse entry.mergePatch = some patch)
      (accepted : (if stored.corrected then new else old).receive
        (stored.document.mergePatch patch) = some document) :
      UpgradeStep k old new stored (.patched entry) ⟨stored.corrected, document⟩
  | edit {stored : StoredObject} {submitted document : Json}
      (keeps : ∀ entry x, k.Tabled entry → Holds entry.path x stored.document →
        Holds entry.path x submitted)
      (accepted : (if stored.corrected then new else old).receive submitted = some document) :
      UpgradeStep k old new stored .edited ⟨stored.corrected, document⟩

inductive UpgradeRun (k : PatchedKind Spec) (old new : CustomResourceDefinition) :
    StoredObject → List UpgradeEvent → StoredObject → Prop
  | done (stored : StoredObject) : UpgradeRun k old new stored [] stored
  | step {first stored last : StoredObject} {events : List UpgradeEvent} {event : UpgradeEvent}
      (run : UpgradeRun k old new first events stored)
      (step : UpgradeStep k old new stored event last) :
      UpgradeRun k old new first (events ++ [event]) last

/-- What a definition says of the tabled fields. -/
structure DeclaresLeaves (k : PatchedKind Spec) (crd : CustomResourceDefinition) : Prop where
  sound : crd.root.sound = true
  scalar : ∀ entry, k.Tabled entry → (leafSchema entry.path crd.root).isSome = true

/-- The definitions of v0.3.0 have the values they persisted as defaults. -/
structure DeclaresLegacy (k : PatchedKind Spec) (crd : CustomResourceDefinition) : Prop
    extends DeclaresLeaves k crd where
  legacy : ∀ entry leaf, k.Tabled entry → leafSchema entry.path crd.root = some leaf →
    leaf.fallback = some entry.legacyLeaf

/-- The corrected ones have no default for a field that is to have no value. -/
structure DeclaresSupported (k : PatchedKind Spec) (crd : CustomResourceDefinition) : Prop
    extends DeclaresLeaves k crd where
  unset : ∀ entry, k.Tabled entry → entry.removesTheKey = true → Unset entry.path crd.root

end Upgrades

/-- Whether the corrected definitions are installed, and whether they were when the entry
was last patched. -/
structure PatchAccount where
  corrected : Bool
  patched : Option Bool

def PatchAccount.after (entry : LegacyDefault) (self : PatchAccount) :
    UpgradeEvent → PatchAccount
  | .installed => { self with corrected := true }
  | .patched other => if other = entry then { self with patched := some self.corrected } else self
  | .edited => self

def patchAccount (entry : LegacyDefault) (events : List UpgradeEvent) : PatchAccount :=
  events.foldl (PatchAccount.after entry) ⟨false, none⟩

theorem patchAccount_snoc (entry : LegacyDefault) (events : List UpgradeEvent)
    (event : UpgradeEvent) :
    patchAccount entry (events ++ [event]) =
      (patchAccount entry events).after entry event := by
  rw [patchAccount, patchAccount, List.foldl_append, List.foldl_cons, List.foldl_nil]

/-- What the field holds, by when its last patch was made. -/
def LegacyDefault.leftWith (self : LegacyDefault) (corrected : Bool) : Json :=
  if self.needsCorrectedCrdsFirst && !corrected then self.legacyLeaf else self.supportedLeaf

/-! The table. -/

/-- What a table entry says of its field. -/
structure Described (entry : LegacyDefault) : Prop where
  writes : Writes entry entry.path entry.supportedLeaf
  below : ∃ name rest, entry.path = "spec" :: name :: rest
  legacy : entry.legacyLeaf ≠ .null
  supported : entry.supportedLeaf = .null ↔ entry.removesTheKey = true

theorem described_of {entry : LegacyDefault} {name : String} {rest : List String}
    {legacy supported : Json} (writes : Writes entry ("spec" :: name :: rest) supported)
    (hlegacy : Json.parse entry.legacyValue = some legacy) (hne : legacy ≠ .null)
    (hsupported : Json.parse entry.supportedValue = some supported)
    (hremoves : supported = .null ↔ entry.removesTheKey = true) : Described entry := by
  have hleaf : entry.supportedLeaf = supported := by
    rw [LegacyDefault.supportedLeaf, hsupported, Option.getD_some]
  refine ⟨?_, ⟨name, rest, writes.fieldPath⟩, ?_, hleaf ▸ hremoves⟩
  · rw [writes.fieldPath, hleaf]
    exact writes
  · rw [LegacyDefault.legacyLeaf, hlegacy, Option.getD_some]
    exact hne

theorem described {entry : LegacyDefault} (h : entry ∈ legacyDefaults) : Described entry := by
  simp only [legacyDefaults, List.mem_cons, List.not_mem_nil, or_false] at h
  rcases h with rfl | rfl | rfl | rfl | rfl | rfl
  · exact @described_of _ "replicas" [] (.num (.int 3)) (.num (.int 1))
      ⟨by cbv, by cbv, rfl, by simp⟩ (by cbv) (by simp) (by cbv)
      (by simp [LegacyDefault.removesTheKey])
  · exact @described_of _ "podAntiAffinity" [] (.bool true) (.bool false)
      ⟨by cbv, by cbv, rfl, by simp⟩ (by cbv) (by simp) (by cbv)
      (by simp [LegacyDefault.removesTheKey])
  · exact @described_of _ "replicationFactor" [] (.num (.int 2)) (.num (.int 1))
      ⟨by cbv, by cbv, rfl, by simp⟩ (by cbv) (by simp) (by cbv)
      (by simp [LegacyDefault.removesTheKey])
  · exact @described_of _ "retention" ["retentionMs"] (.num (.int 604800000)) (.num (.int (-1)))
      ⟨by cbv, by cbv, rfl, by simp⟩ (by cbv) (by simp) (by cbv)
      (by simp [LegacyDefault.removesTheKey])
  · exact @described_of _ "config" ["minInsyncReplicas"] (.num (.int 1)) .null
      ⟨by cbv, by cbv, rfl, by simp⟩ (by cbv) (by simp) (by cbv)
      (by simp [LegacyDefault.removesTheKey])
  · exact @described_of _ "config" ["maxMessageBytes"] (.num (.int 1048576)) .null
      ⟨by cbv, by cbv, rfl, by simp⟩ (by cbv) (by simp) (by cbv)
      (by simp [LegacyDefault.removesTheKey])

theorem legacyDefaults_apart :
    legacyDefaults.Pairwise (fun a b => apart a.path b.path = true) := by
  have hpaths : legacyDefaults.map LegacyDefault.path = [
      ["spec", "replicas"], ["spec", "podAntiAffinity"], ["spec", "replicationFactor"],
      ["spec", "retention", "retentionMs"], ["spec", "config", "minInsyncReplicas"],
      ["spec", "config", "maxMessageBytes"]] := by
    cbv
  have hpairs : (legacyDefaults.map LegacyDefault.path).Pairwise
      (fun a b => apart a b = true) := by
    rw [hpaths]
    decide
  exact List.pairwise_map.mp hpairs

theorem apart_symm {path other : List String} (h : apart path other = true) :
    apart other path = true := by
  induction path generalizing other with
  | nil => cases h
  | cons name path ih =>
    cases other with
    | nil => cases h
    | cons k other =>
      simp only [apart, Bool.or_eq_true, decide_eq_true_eq] at h ⊢
      exact h.imp Ne.symm ih

theorem apart_of_ne {entry other : LegacyDefault} (h : entry ∈ legacyDefaults)
    (hother : other ∈ legacyDefaults) (hne : entry ≠ other) :
    apart entry.path other.path = true := by
  have hsymm : Std.Symm (fun a b : LegacyDefault => apart a.path b.path = true) :=
    ⟨fun _ _ => apart_symm⟩
  exact legacyDefaults_apart.forall h hother hne

/-! What completion makes of a tabled field. -/

section Completion

variable {Spec : Type} {k : PatchedKind Spec} {crd old new : CustomResourceDefinition}
variable {entry : LegacyDefault}

theorem holds_complete_of_root (hsound : crd.root.sound = true) {rest : List String}
    {x document : Json} (h : Holds ("spec" :: rest) x (crd.root.complete document)) :
    Holds ("spec" :: rest) x (crd.complete document) := by
  obtain ⟨hdistinct, -, -⟩ := Schema.sound_object.mp hsound
  have hspec : ("spec", crd.spec) ∈ crd.properties := by simp [CustomResourceDefinition.properties]
  cases document with
  | obj ms =>
    obtain ⟨completed, hcompleted, hheld⟩ := h
    obtain rfl := Json.obj.inj hcompleted
    refine ⟨crd.completeMembers ms, rfl, ?_⟩
    rw [← CustomResourceDefinition.lookup_schema_completeMembers hdistinct hspec]
    exact hheld
  | _ => exact h

theorem DeclaresLeaves.keeps (h : DeclaresLeaves k crd) (tabled : k.Tabled entry)
    {x document : Json} (hx : x ≠ .null) (hheld : Holds entry.path x document) :
    Holds entry.path x (crd.complete document) := by
  obtain ⟨name, rest, hpath⟩ := (described tabled.1).below
  obtain ⟨leaf, hleaf⟩ := Option.isSome_iff_exists.mp (h.scalar entry tabled)
  have hroot := Schema.holds_complete h.sound hleaf hx hheld
  rw [hpath] at hroot ⊢
  exact holds_complete_of_root h.sound hroot

theorem DeclaresSupported.keepsAbsent (h : DeclaresSupported k new) (tabled : k.Tabled entry)
    (hremoves : entry.removesTheKey = true) {document : Json}
    (hheld : Holds entry.path .null document) :
    Holds entry.path .null (new.complete document) := by
  obtain ⟨name, rest, hpath⟩ := (described tabled.1).below
  have hroot := Schema.holds_null_complete h.sound (h.unset entry tabled hremoves) hheld
  rw [hpath] at hroot ⊢
  exact holds_complete_of_root h.sound hroot

theorem DeclaresLegacy.restores (h : DeclaresLegacy k old) (tabled : k.Tabled entry)
    {document : Json} (hlacks : Lacks entry.path document) :
    Holds entry.path entry.legacyLeaf (old.complete document) := by
  obtain ⟨name, rest, hpath⟩ := (described tabled.1).below
  obtain ⟨leaf, hleaf⟩ := Option.isSome_iff_exists.mp (h.scalar entry tabled)
  have hroot := Schema.holds_fallback_complete h.sound hleaf (h.legacy entry leaf tabled hleaf)
    hlacks
  rw [hpath] at hroot ⊢
  exact holds_complete_of_root h.sound hroot

/-- What a patch left is kept by whichever definition is installed from then on. -/
theorem leftWith_complete (hold : DeclaresLegacy k old) (hnew : DeclaresSupported k new)
    (tabled : k.Tabled entry) {corrected now : Bool} (hlater : corrected = true → now = true)
    {document : Json} (hheld : Holds entry.path (entry.leftWith corrected) document) :
    Holds entry.path (entry.leftWith corrected)
      ((if now then new else old).complete document) := by
  have hdescribed := described tabled.1
  have hleaves : DeclaresLeaves k (if now then new else old) := by
    cases now with
    | true => exact hnew.toDeclaresLeaves
    | false => exact hold.toDeclaresLeaves
  by_cases hnull : entry.leftWith corrected = .null
  · rw [hnull] at hheld ⊢
    unfold LegacyDefault.leftWith at hnull
    split at hnull
    case isTrue => exact absurd hnull hdescribed.legacy
    case isFalse hlate =>
      have hremoves := hdescribed.supported.mp hnull
      have hcorrected : corrected = true := by
        simpa [LegacyDefault.needsCorrectedCrdsFirst, hremoves] using hlate
      rw [hlater hcorrected, if_pos rfl]
      exact hnew.keepsAbsent tabled hremoves hheld
  · exact hleaves.keeps tabled hnull hheld

theorem leftWith_patch (hold : DeclaresLegacy k old) (hnew : DeclaresSupported k new)
    (tabled : k.Tabled entry) (corrected : Bool) {patch : Json}
    (hparse : Json.parse entry.mergePatch = some patch) (document : Json) :
    Holds entry.path (entry.leftWith corrected)
      ((if corrected then new else old).complete (document.mergePatch patch)) := by
  have hdescribed := described tabled.1
  obtain rfl := Option.some.inj (hparse.symm.trans hdescribed.writes.parse)
  by_cases hundone : (entry.needsCorrectedCrdsFirst && !corrected) = true
  · -- the patch takes the key away, and the default is filled in at once
    obtain ⟨hremoves, hearly⟩ := Bool.and_eq_true_iff.mp hundone
    have hcorrected : corrected = false := by simpa using hearly
    rw [LegacyDefault.leftWith, if_pos hundone, hcorrected]
    refine hold.restores tabled ?_
    rw [hdescribed.supported.mpr hremoves]
    obtain ⟨name, rest, hpath⟩ := hdescribed.below
    rw [hpath]
    exact Json.lacks_mergePatch_leafPatch "spec" (name :: rest) document
  · refine leftWith_complete hold hnew tabled id ?_
    rw [LegacyDefault.leftWith, if_neg hundone]
    exact Json.holds_mergePatch_leafPatch hdescribed.writes.isAtomic entry.path document

end Completion

/-! Runs. -/

section Runs

variable {Spec : Type} {k : PatchedKind Spec} {old new : CustomResourceDefinition}
variable {entry : LegacyDefault}

/-- The account is right about the object. -/
structure Tracks (entry : LegacyDefault) (account : PatchAccount) (stored : StoredObject) :
    Prop where
  corrected : stored.corrected = account.corrected
  later : account.patched = some true → account.corrected = true
  held : ∀ corrected, account.patched = some corrected →
    Holds entry.path (entry.leftWith corrected) stored.document

theorem receive_eq {crd : CustomResourceDefinition} {submitted document : Json}
    (h : crd.receive submitted = some document) : document = crd.complete submitted := by
  unfold CustomResourceDefinition.receive at h
  split at h
  case isTrue => exact (Option.some.inj h).symm
  case isFalse => cases h

theorem tracks_step (hold : DeclaresLegacy k old) (hnew : DeclaresSupported k new)
    (tabled : k.Tabled entry) {account : PatchAccount} {stored last : StoredObject}
    {event : UpgradeEvent} (h : Tracks entry account stored)
    (hstep : UpgradeStep k old new stored event last) :
    Tracks entry (account.after entry event) last := by
  have hlater : ∀ c, account.patched = some c → c = true → stored.corrected = true := by
    intro c hpatched hc
    rw [h.corrected]
    exact h.later (hc ▸ hpatched)
  cases hstep with
  | install =>
    refine ⟨rfl, fun _ => rfl, fun c hpatched => ?_⟩
    exact @leftWith_complete _ k old new entry hold hnew tabled c true (fun _ => rfl) _
      (h.held c hpatched)
  | @patch other patch document hother hparse haccepted =>
    obtain rfl := receive_eq haccepted
    by_cases hsame : other = entry
    · subst hsame
      rw [PatchAccount.after, if_pos rfl]
      refine ⟨h.corrected, fun hpatched => Option.some.inj hpatched, fun c hpatched => ?_⟩
      obtain rfl : stored.corrected = c := h.corrected.trans (Option.some.inj hpatched)
      exact leftWith_patch hold hnew tabled stored.corrected hparse stored.document
    · rw [PatchAccount.after, if_neg hsame]
      refine ⟨h.corrected, h.later, fun c hpatched => ?_⟩
      have hwrites := (described hother.1).writes
      obtain rfl := Option.some.inj (hparse.symm.trans hwrites.parse)
      exact leftWith_complete hold hnew tabled (hlater c hpatched)
        ((h.held c hpatched).mergePatch_apart
          (apart_of_ne tabled.1 hother.1 (Ne.symm hsame)) other.supportedLeaf)
  | @edit submitted document hkeeps haccepted =>
    obtain rfl := receive_eq haccepted
    refine ⟨h.corrected, h.later, fun c hpatched => ?_⟩
    exact leftWith_complete hold hnew tabled (hlater c hpatched)
      (hkeeps entry _ tabled (h.held c hpatched))

/-- Through a whole upgrade, by induction on its steps. -/
theorem tracks_run (hold : DeclaresLegacy k old) (hnew : DeclaresSupported k new)
    (tabled : k.Tabled entry) {first last : StoredObject} {events : List UpgradeEvent}
    (hfirst : first.corrected = false) (hrun : UpgradeRun k old new first events last) :
    Tracks entry (patchAccount entry events) last := by
  induction hrun with
  | done => exact ⟨hfirst, fun h => absurd h (by simp [patchAccount]), fun c h => by cases h⟩
  | step run step ih =>
    rw [patchAccount_snoc]
    exact tracks_step hold hnew tabled ih step

end Runs

/-! What the operator says of a field it reads. -/

section Verdicts

variable {entry : LegacyDefault} {v : Json} {ms : Members}

theorem cluster_leaves (h : clusterKind.Tabled entry) :
    (entry.field = "spec.replicas" ∧ entry.path = ["spec", "replicas"] ∧
        entry.legacyLeaf = .ofInt32 3 ∧ entry.supportedLeaf = .ofInt32 1) ∨
      entry.field = "spec.podAntiAffinity" ∧ entry.path = ["spec", "podAntiAffinity"] ∧
        entry.legacyLeaf = .bool true ∧ entry.supportedLeaf = .bool false := by
  obtain ⟨hmem, hkind⟩ := h
  simp only [legacyDefaults, List.mem_cons, List.not_mem_nil, or_false] at hmem
  rcases hmem with rfl | rfl | rfl | rfl | rfl | rfl
  · exact .inl ⟨rfl, by cbv, by cbv, by cbv⟩
  · exact .inr ⟨rfl, by cbv, by cbv, by cbv⟩
  all_goals simp [clusterKind] at hkind

theorem topic_leaves (h : topicKind.Tabled entry) :
    (entry.field = "spec.replicationFactor" ∧ entry.path = ["spec", "replicationFactor"] ∧
        entry.legacyLeaf = .ofInt32 2 ∧ entry.supportedLeaf = .ofInt32 1) ∨
      (entry.field = "spec.retention.retentionMs" ∧
        entry.path = ["spec", "retention", "retentionMs"] ∧
        entry.legacyLeaf = .ofInt64 604800000 ∧ entry.supportedLeaf = .ofInt64 (-1)) ∨
      (entry.field = "spec.config.minInsyncReplicas" ∧
        entry.path = ["spec", "config", "minInsyncReplicas"] ∧
        entry.legacyLeaf = .ofInt32 1 ∧ entry.supportedLeaf = .null) ∨
      entry.field = "spec.config.maxMessageBytes" ∧
        entry.path = ["spec", "config", "maxMessageBytes"] ∧
        entry.legacyLeaf = .ofInt64 1048576 ∧ entry.supportedLeaf = .null := by
  obtain ⟨hmem, hkind⟩ := h
  simp only [legacyDefaults, List.mem_cons, List.not_mem_nil, or_false] at hmem
  rcases hmem with rfl | rfl | rfl | rfl | rfl | rfl
  · simp [topicKind] at hkind
  · simp [topicKind] at hkind
  · exact .inl ⟨rfl, by cbv, by cbv, by cbv⟩
  · exact .inr (.inl ⟨rfl, by cbv, by cbv, by cbv⟩)
  · exact .inr (.inr (.inl ⟨rfl, by cbv, by cbv, by cbv⟩))
  · exact .inr (.inr (.inr ⟨rfl, by cbv, by cbv, by cbv⟩))

theorem fieldOr_of_holds {α : Type} {d : Decoder α} {encode : α → Json}
    (hd : Decoder.Inverts d encode) {default a : α} {name : String}
    (h : Holds [name] (encode a) (.obj ms)) : Decoder.fieldOr default d ms name = some a := by
  obtain ⟨ms, hms, hheld⟩ := h
  obtain rfl := Json.obj.inj hms
  rw [Decoder.fieldOr]
  cases hmember : Members.lookup ms name with
  | none =>
    rw [hmember] at hheld
    exact absurd hheld (hd.ne_null a)
  | some inner =>
    rw [hmember] at hheld
    obtain rfl : inner = encode a := hheld
    exact hd.decode a

theorem clusterSpec_fields {spec : ClusterSpec} (h : ClusterSpec.decode (.obj ms) = some spec) :
    Decoder.fieldOr defaultReplicas .int32 ms "replicas" = some spec.replicas ∧
      Decoder.fieldOr false .bool ms "podAntiAffinity" = some spec.podAntiAffinity := by
  obtain ⟨replicas, hreplicas, h⟩ := Option.bind_eq_some_iff.mp h
  obtain ⟨image, -, h⟩ := Option.bind_eq_some_iff.mp h
  obtain ⟨pullPolicy, -, h⟩ := Option.bind_eq_some_iff.mp h
  obtain ⟨resources, -, h⟩ := Option.bind_eq_some_iff.mp h
  obtain ⟨storage, -, h⟩ := Option.bind_eq_some_iff.mp h
  obtain ⟨tls, -, h⟩ := Option.bind_eq_some_iff.mp h
  obtain ⟨kafkaPort, -, h⟩ := Option.bind_eq_some_iff.mp h
  obtain ⟨httpPort, -, h⟩ := Option.bind_eq_some_iff.mp h
  obtain ⟨raftPort, -, h⟩ := Option.bind_eq_some_iff.mp h
  obtain ⟨env, -, h⟩ := Option.bind_eq_some_iff.mp h
  obtain ⟨nodeSelector, -, h⟩ := Option.bind_eq_some_iff.mp h
  obtain ⟨tolerations, -, h⟩ := Option.bind_eq_some_iff.mp h
  obtain ⟨antiAffinity, hantiAffinity, h⟩ := Option.bind_eq_some_iff.mp h
  obtain ⟨rack, -, h⟩ := Option.bind_eq_some_iff.mp h
  obtain ⟨account, -, h⟩ := Option.bind_eq_some_iff.mp h
  obtain ⟨logLevel, -, h⟩ := Option.bind_eq_some_iff.mp h
  obtain ⟨metrics, -, h⟩ := Option.bind_eq_some_iff.mp h
  obtain ⟨strategy, -, h⟩ := Option.bind_eq_some_iff.mp h
  obtain ⟨autoscaling, -, h⟩ := Option.bind_eq_some_iff.mp h
  obtain rfl := Option.some.inj h
  exact ⟨hreplicas, hantiAffinity⟩

theorem topicSpec_fields {spec : TopicSpec} (h : TopicSpec.decode (.obj ms) = some spec) :
    Decoder.fieldOr defaultReplicationFactor .int32 ms "replicationFactor" =
        some spec.replicationFactor ∧
      Decoder.fieldOr {} TopicConfig.decode ms "config" = some spec.config ∧
      Decoder.fieldOr {} RetentionConfig.decode ms "retention" = some spec.retention := by
  simp only [TopicSpec.decode, Decoder.derived, Option.bind_eq_bind, Option.bind_some,
    Option.bind_eq_some_iff, Option.some.injEq] at h
  obtain ⟨_, _, _, _, factor, hfactor, config, hconfig, retention, hretention, _, _, rfl⟩ := h
  exact ⟨hfactor, hconfig, hretention⟩

theorem topicConfig_fields {config : TopicConfig}
    (h : TopicConfig.decode (.obj ms) = some config) :
    Decoder.fieldOption .int32 ms "minInsyncReplicas" = some config.minInsyncReplicas ∧
      Decoder.fieldOption .int64 ms "maxMessageBytes" = some config.maxMessageBytes := by
  simp only [TopicConfig.decode, Decoder.derived, Option.bind_eq_bind, Option.bind_some,
    Option.bind_eq_some_iff, Option.some.injEq] at h
  obtain ⟨replicas, hreplicas, bytes, hbytes, _, _, _, _, _, _, _, _, _, _, rfl⟩ := h
  exact ⟨hreplicas, hbytes⟩

theorem fieldOption_of_holds {α : Type} {d : Decoder α} {encode : α → Json}
    (hd : Decoder.Inverts d encode) {value : Option α} {name : String}
    (h : Holds [name] (.ofOption encode value) (.obj ms)) :
    Decoder.fieldOption d ms name = some value := by
  cases value with
  | some a =>
    have hread : Decoder.fieldOr none d.option ms name = some (some a) := by
      obtain ⟨ms', hms, hheld⟩ := h
      obtain rfl := Json.obj.inj hms
      rw [Decoder.fieldOr]
      cases hmember : Members.lookup ms name with
      | none =>
        rw [hmember] at hheld
        exact absurd hheld (hd.ne_null a)
      | some inner =>
        rw [hmember] at hheld
        obtain rfl : inner = encode a := hheld
        have hvalue := hd.decode a
        have hne := hd.ne_null a
        revert hvalue hne
        cases encode a <;> simp +contextual [Decoder.option]
    exact hread
  | none =>
    obtain ⟨ms', hms, hheld⟩ := h
    obtain rfl := Json.obj.inj hms
    rw [Decoder.fieldOption, Decoder.fieldOr]
    cases hmember : Members.lookup ms name with
    | none => rfl
    | some inner =>
      rw [hmember] at hheld
      obtain rfl : inner = .null := hheld
      rfl

theorem block_of_holds {α : Type} {d : Decoder α} {default a : α} {name next : String}
    {path : List String} {x : Json} (h : Holds (name :: next :: path) x (.obj ms))
    (hread : Decoder.fieldOr default d ms name = some a) :
    (x = .null ∧ a = default) ∨
      ∃ inner, Holds (next :: path) x (.obj inner) ∧ d (.obj inner) = some a := by
  obtain ⟨ms', hms, hheld⟩ := h
  obtain rfl := Json.obj.inj hms
  rw [Decoder.fieldOr] at hread
  cases hmember : Members.lookup ms name with
  | none =>
    rw [hmember] at hheld hread
    exact .inl ⟨hheld, (Option.some.inj hread).symm⟩
  | some inner =>
    rw [hmember] at hheld hread
    obtain ⟨members, rfl, hinner⟩ := hheld
    exact .inr ⟨members, ⟨members, rfl, hinner⟩, hread⟩

theorem retentionMs_of_holds {spec : TopicSpec} {n : Int64}
    (h : Holds ["retention", "retentionMs"] (.ofInt64 n) (.obj ms))
    (hread : Decoder.fieldOr {} RetentionConfig.decode ms "retention" = some spec.retention) :
    spec.retention.retentionMs = n := by
  obtain ⟨hnull, -⟩ | ⟨inner, hheld, hinner⟩ := block_of_holds h hread
  · exact absurd hnull (Decoder.int64_inverts.ne_null n)
  · have hfield : Decoder.fieldOr defaultRetentionMs .int64 inner "retentionMs" = some n :=
      fieldOr_of_holds Decoder.int64_inverts hheld
    simp only [RetentionConfig.decode, Decoder.derived, Option.bind_eq_bind, Option.bind_some,
      Option.bind_eq_some_iff, Option.some.injEq, hfield] at hinner
    obtain ⟨_, _, _, _, hspec⟩ := hinner
    rw [← hspec]

theorem minInsyncReplicas_of_holds {spec : TopicSpec} {value : Option Int32}
    (h : Holds ["config", "minInsyncReplicas"] (.ofOption .ofInt32 value) (.obj ms))
    (hread : Decoder.fieldOr {} TopicConfig.decode ms "config" = some spec.config) :
    spec.config.minInsyncReplicas = value := by
  obtain ⟨hnull, hdefault⟩ | ⟨inner, hheld, hinner⟩ := block_of_holds h hread
  · rw [hdefault]
    cases value with
    | none => rfl
    | some n => exact absurd hnull (Decoder.int32_inverts.ne_null n)
  · have hfield := fieldOption_of_holds Decoder.int32_inverts hheld
    exact Option.some.inj ((topicConfig_fields hinner).1.symm.trans hfield)

theorem maxMessageBytes_of_holds {spec : TopicSpec} {value : Option Int64}
    (h : Holds ["config", "maxMessageBytes"] (.ofOption .ofInt64 value) (.obj ms))
    (hread : Decoder.fieldOr {} TopicConfig.decode ms "config" = some spec.config) :
    spec.config.maxMessageBytes = value := by
  obtain ⟨hnull, hdefault⟩ | ⟨inner, hheld, hinner⟩ := block_of_holds h hread
  · rw [hdefault]
    cases value with
    | none => rfl
    | some n => exact absurd hnull (Decoder.int64_inverts.ne_null n)
  · have hfield := fieldOption_of_holds Decoder.int64_inverts hheld
    exact Option.some.inj ((topicConfig_fields hinner).2.symm.trans hfield)

theorem not_refused {rejections : List String}
    (h : rejections = rejections.filter (fun m => !refusedIn [entry] m)) :
    rejections.any entry.rejectedBy = false := by
  rw [List.any_eq_false]
  intro m hm
  rw [h] at hm
  simpa [refusedIn] using (List.mem_filter.mp hm).2

theorem refused {rejections : List String} {name : String}
    (hfield : entry.field = "spec." ++ name)
    (h : ∃ m ∈ rejections, startsWith m name = true) :
    rejections.any entry.rejectedBy = true := by
  obtain ⟨m, hm, hstarts⟩ := h
  refine List.any_eq_true.mpr ⟨m, hm, ?_⟩
  rw [LegacyDefault.rejectedBy, hfield, startsWith_append_left]
  exact hstarts

/-- The operator refuses the field for the value v0.3.0 left in it, and for the
supported one it does not. -/
structure Judges {Spec : Type} (k : PatchedKind Spec) : Prop where
  supported : ∀ entry path v spec, k.Tabled entry → entry.path = "spec" :: path →
    k.decode v = some spec → Holds path entry.supportedLeaf v →
      (k.rejections spec).any entry.rejectedBy = false
  legacy : ∀ entry path v spec, k.Tabled entry → entry.path = "spec" :: path →
    k.decode v = some spec → Holds path entry.legacyLeaf v →
      (k.rejections spec).any entry.rejectedBy = true

theorem exists_obj_of_holds {name : String} {path : List String} {x : Json}
    (h : Holds (name :: path) x v) : ∃ ms, v = .obj ms := by
  obtain ⟨ms, hms, -⟩ := h
  exact ⟨ms, hms⟩

theorem mem_clusterRejections {spec : ClusterSpec} {message : String}
    (h : message ∈ spec.replicasErrors ∨ message ∈ spec.schedulingErrors) :
    message ∈ clusterRejections spec := by
  have hmem : message ∈ spec.errors := by
    simp only [ClusterSpec.errors, List.mem_append]
    tauto
  have hnil : spec.errors ≠ [] := List.ne_nil_of_mem hmem
  simpa [clusterRejections, ClusterSpec.validate, hnil] using hmem

theorem replicas_refused {spec : ClusterSpec} (h : spec.replicas = 3) :
    ∃ m ∈ clusterRejections spec, startsWith m "replicas" = true := by
  have hmany : decide (spec.replicas > 1) = true := by
    rw [h]
    decide
  have hmessage : ∃ m ∈ spec.replicasErrors, startsWith m "replicas" = true := by
    rw [ClusterSpec.replicasErrors]
    refine ⟨_, List.mem_append_right _ (mem_reject.mpr ⟨hmany, rfl⟩), ?_⟩
    simp only [String.append_assoc]
    exact startsWith_append (by decide) _
  obtain ⟨m, hm, hstarts⟩ := hmessage
  exact ⟨m, mem_clusterRejections (.inl hm), hstarts⟩

theorem podAntiAffinity_refused {spec : ClusterSpec} (h : spec.podAntiAffinity = true) :
    ∃ m ∈ clusterRejections spec, startsWith m "podAntiAffinity" = true := by
  have hmessage : ∃ m ∈ spec.schedulingErrors, startsWith m "podAntiAffinity" = true := by
    rw [ClusterSpec.schedulingErrors]
    refine ⟨_, List.mem_append_left _ (List.mem_append_left _ (mem_reject.mpr ⟨h, rfl⟩)), ?_⟩
    simp only [String.append_assoc]
    exact startsWith_append (by decide) _
  obtain ⟨m, hm, hstarts⟩ := hmessage
  exact ⟨m, mem_clusterRejections (.inr hm), hstarts⟩

theorem cluster_judges : Judges clusterKind where
  supported entry path v spec tabled hpath hread hheld := by
    refine not_refused ?_
    have hpatched := clusterRejections_patched
      (fun other (hother : other ∈ [entry]) => List.mem_singleton.mp hother ▸ tabled) spec
    have hsame : patchedCluster [entry] spec = spec := by
      rcases cluster_leaves tabled with ⟨hfield, hfull, -, hleaf⟩ | ⟨hfield, hfull, -, hleaf⟩
      · obtain rfl := (List.cons.inj (hpath.symm.trans hfull)).2
        rw [hleaf] at hheld
        obtain ⟨ms, rfl⟩ := exists_obj_of_holds hheld
        have hvalue : spec.replicas = 1 := Option.some.inj
          ((clusterSpec_fields hread).1.symm.trans (fieldOr_of_holds Decoder.int32_inverts hheld))
        have hwritten : patchedCluster [entry] spec = { spec with replicas := 1 } := by
          simp [patchedCluster, named, hfield]
        rw [hwritten, ← hvalue]
      · obtain rfl := (List.cons.inj (hpath.symm.trans hfull)).2
        rw [hleaf] at hheld
        obtain ⟨ms, rfl⟩ := exists_obj_of_holds hheld
        have hvalue : spec.podAntiAffinity = false := Option.some.inj
          ((clusterSpec_fields hread).2.symm.trans (fieldOr_of_holds Decoder.bool_inverts hheld))
        have hwritten : patchedCluster [entry] spec = { spec with podAntiAffinity := false } := by
          simp [patchedCluster, named, hfield]
        rw [hwritten, ← hvalue]
    rw [hsame] at hpatched
    exact hpatched
  legacy entry path v spec tabled hpath hread hheld := by
    rcases cluster_leaves tabled with ⟨hfield, hfull, hleaf, -⟩ | ⟨hfield, hfull, hleaf, -⟩
    · obtain rfl := (List.cons.inj (hpath.symm.trans hfull)).2
      rw [hleaf] at hheld
      obtain ⟨ms, rfl⟩ := exists_obj_of_holds hheld
      have hvalue : spec.replicas = 3 := Option.some.inj
        ((clusterSpec_fields hread).1.symm.trans (fieldOr_of_holds Decoder.int32_inverts hheld))
      exact refused (hfield.trans (by decide)) (replicas_refused hvalue)
    · obtain rfl := (List.cons.inj (hpath.symm.trans hfull)).2
      rw [hleaf] at hheld
      obtain ⟨ms, rfl⟩ := exists_obj_of_holds hheld
      have hvalue : spec.podAntiAffinity = true := Option.some.inj
        ((clusterSpec_fields hread).2.symm.trans (fieldOr_of_holds Decoder.bool_inverts hheld))
      exact refused (hfield.trans (by decide)) (podAntiAffinity_refused hvalue)

open Controllers (TopicController.unsupportedFields_eq)
open Controllers.TopicController (Setting minimalSpec)
open Controllers.TopicController.Setting (mem_deviating message_names)

theorem setting_refused {spec : TopicSpec} {setting : Setting}
    (h : setting.deviates spec = true) :
    ∃ m ∈ topicKind.rejections spec, startsWith m setting.field = true := by
  have hmessage : setting.message spec ∈ topicKind.rejections spec := by
    change _ ∈ Controllers.TopicController.unsupportedFields spec
    rw [TopicController.unsupportedFields_eq]
    exact List.mem_map_of_mem (mem_deviating.mpr h)
  obtain ⟨rest, hrest⟩ := message_names spec setting
  refine ⟨_, hmessage, ?_⟩
  rw [hrest]
  exact startsWith_append (startsWith_self _) rest

theorem topic_judges : Judges topicKind where
  supported entry path v spec tabled hpath hread hheld := by
    refine not_refused ?_
    have hpatched := topicRejections_patched
      (fun other (hother : other ∈ [entry]) => List.mem_singleton.mp hother ▸ tabled) spec
    have hsame : patchedTopic [entry] spec = spec := by
      rcases topic_leaves tabled with ⟨hfield, hfull, -, hleaf⟩ | ⟨hfield, hfull, -, hleaf⟩ |
        ⟨hfield, hfull, -, hleaf⟩ | ⟨hfield, hfull, -, hleaf⟩
      · obtain rfl := (List.cons.inj (hpath.symm.trans hfull)).2
        rw [hleaf] at hheld
        obtain ⟨ms, rfl⟩ := exists_obj_of_holds hheld
        have hvalue : spec.replicationFactor = 1 := Option.some.inj
          ((topicSpec_fields hread).1.symm.trans (fieldOr_of_holds Decoder.int32_inverts hheld))
        have hwritten : patchedTopic [entry] spec = { spec with replicationFactor := 1 } := by
          simp [patchedTopic, named, hfield]
        rw [hwritten, ← hvalue]
      · obtain rfl := (List.cons.inj (hpath.symm.trans hfull)).2
        rw [hleaf] at hheld
        obtain ⟨ms, rfl⟩ := exists_obj_of_holds hheld
        have hvalue := retentionMs_of_holds hheld (topicSpec_fields hread).2.2
        have hwritten : patchedTopic [entry] spec =
            { spec with retention := { spec.retention with retentionMs := -1 } } := by
          simp [patchedTopic, named, hfield]
        rw [hwritten, ← hvalue]
      · obtain rfl := (List.cons.inj (hpath.symm.trans hfull)).2
        rw [hleaf] at hheld
        obtain ⟨ms, rfl⟩ := exists_obj_of_holds hheld
        have hvalue : spec.config.minInsyncReplicas = none :=
          @minInsyncReplicas_of_holds ms spec none hheld (topicSpec_fields hread).2.1
        have hwritten : patchedTopic [entry] spec =
            { spec with config := { spec.config with minInsyncReplicas := none } } := by
          simp [patchedTopic, named, hfield]
        rw [hwritten, ← hvalue]
      · obtain rfl := (List.cons.inj (hpath.symm.trans hfull)).2
        rw [hleaf] at hheld
        obtain ⟨ms, rfl⟩ := exists_obj_of_holds hheld
        have hvalue : spec.config.maxMessageBytes = none :=
          @maxMessageBytes_of_holds ms spec none hheld (topicSpec_fields hread).2.1
        have hwritten : patchedTopic [entry] spec =
            { spec with config := { spec.config with maxMessageBytes := none } } := by
          simp [patchedTopic, named, hfield]
        rw [hwritten, ← hvalue]
    rw [hsame] at hpatched
    exact hpatched
  legacy entry path v spec tabled hpath hread hheld := by
    rcases topic_leaves tabled with ⟨hfield, hfull, hleaf, -⟩ | ⟨hfield, hfull, hleaf, -⟩ |
      ⟨hfield, hfull, hleaf, -⟩ | ⟨hfield, hfull, hleaf, -⟩
    · obtain rfl := (List.cons.inj (hpath.symm.trans hfull)).2
      rw [hleaf] at hheld
      obtain ⟨ms, rfl⟩ := exists_obj_of_holds hheld
      have hvalue : spec.replicationFactor = 2 := Option.some.inj
        ((topicSpec_fields hread).1.symm.trans (fieldOr_of_holds Decoder.int32_inverts hheld))
      have hdeviates : Setting.replicationFactor.deviates spec = true := by
        rw [Setting.deviates, hvalue]
        rfl
      exact refused (hfield.trans (by decide)) (setting_refused hdeviates)
    · obtain rfl := (List.cons.inj (hpath.symm.trans hfull)).2
      rw [hleaf] at hheld
      obtain ⟨ms, rfl⟩ := exists_obj_of_holds hheld
      have hvalue := retentionMs_of_holds hheld (topicSpec_fields hread).2.2
      have hdeviates : Setting.retentionMs.deviates spec = true := by
        rw [Setting.deviates, hvalue]
        rfl
      exact refused (hfield.trans (by decide)) (setting_refused hdeviates)
    · obtain rfl := (List.cons.inj (hpath.symm.trans hfull)).2
      rw [hleaf] at hheld
      obtain ⟨ms, rfl⟩ := exists_obj_of_holds hheld
      have hvalue : spec.config.minInsyncReplicas = some 1 :=
        @minInsyncReplicas_of_holds ms spec (some 1) hheld (topicSpec_fields hread).2.1
      have hdeviates : Setting.minInsyncReplicas.deviates spec = true := by
        rw [Setting.deviates, hvalue]
        rfl
      exact refused (hfield.trans (by decide)) (setting_refused hdeviates)
    · obtain rfl := (List.cons.inj (hpath.symm.trans hfull)).2
      rw [hleaf] at hheld
      obtain ⟨ms, rfl⟩ := exists_obj_of_holds hheld
      have hvalue : spec.config.maxMessageBytes = some 1048576 :=
        @maxMessageBytes_of_holds ms spec (some 1048576) hheld (topicSpec_fields hread).2.1
      have hdeviates : Setting.maxMessageBytes.deviates spec = true := by
        rw [Setting.deviates, hvalue]
        rfl
      exact refused (hfield.trans (by decide)) (setting_refused hdeviates)

end Verdicts

/-! The installed definitions are the corrected ones. -/

theorem clusterDefinition_supports : DeclaresSupported clusterKind clusterDefinition where
  sound := fits_cluster.sound
  scalar entry tabled := by
    rcases cluster_leaves tabled with ⟨-, hpath, -⟩ | ⟨-, hpath, -⟩
    · rw [hpath]
      rfl
    · rw [hpath]
      rfl
  unset entry tabled hremoves := by
    have hnull := (described tabled.1).supported.mpr hremoves
    rcases cluster_leaves tabled with ⟨-, -, -, hleaf⟩ | ⟨-, -, -, hleaf⟩
    · exact absurd (hleaf.symm.trans hnull) (Decoder.int32_inverts.ne_null 1)
    · exact absurd (hleaf.symm.trans hnull) (Decoder.bool_inverts.ne_null false)

theorem unset_leaf {schema leaf : Schema} {name : String}
    (h : schema.property name = some leaf) (hscalar : leaf.isScalar = true)
    (hnone : leaf.fallback = none) : Unset [name] schema :=
  ⟨leaf, h, fun _ hvalue => absurd (hnone.symm.trans hvalue) (by simp), hscalar⟩

theorem topicDefinition_unset {name : String}
    (hname : name = "minInsyncReplicas" ∨ name = "maxMessageBytes") :
    Unset ["spec", "config", name] topicDefinition.root := by
  refine ⟨topicSpecSchema, rfl, ?_, _, rfl, ?_, ?_⟩
  · intro value hvalue
    cases hvalue
  · intro value hvalue
    obtain rfl := Option.some.inj hvalue
    rcases hname with rfl | rfl
    · exact Json.holds_of_lookup rfl rfl
    · exact Json.holds_of_lookup rfl rfl
  · rcases hname with rfl | rfl
    · exact unset_leaf rfl rfl rfl
    · exact unset_leaf rfl rfl rfl

theorem topicDefinition_supports : DeclaresSupported topicKind topicDefinition where
  sound := fits_topic.sound
  scalar entry tabled := by
    rcases topic_leaves tabled with ⟨-, hpath, -⟩ | ⟨-, hpath, -⟩ | ⟨-, hpath, -⟩ |
      ⟨-, hpath, -⟩
    · rw [hpath]
      rfl
    · rw [hpath]
      rfl
    · rw [hpath]
      rfl
    · rw [hpath]
      rfl
  unset entry tabled hremoves := by
    have hnull := (described tabled.1).supported.mpr hremoves
    rcases topic_leaves tabled with ⟨-, -, -, hleaf⟩ | ⟨-, -, -, hleaf⟩ | ⟨-, hpath, -⟩ |
      ⟨-, hpath, -⟩
    · exact absurd (hleaf.symm.trans hnull) (Decoder.int32_inverts.ne_null 1)
    · exact absurd (hleaf.symm.trans hnull) (Decoder.int64_inverts.ne_null (-1))
    · rw [hpath]
      exact topicDefinition_unset (.inl rfl)
    · rw [hpath]
      exact topicDefinition_unset (.inr rfl)

/-! The order of an upgrade. -/

section Order

variable {Spec Status : Type} [StatusCodec Status]

/-- In every upgrade from definitions with the old defaults: once an entry has been patched,
the operator still refuses its field exactly if the entry needs the corrected definitions
first and was last patched before they came. -/
def OrderDecides (k : PatchedKind Spec) (Status : Type) [StatusCodec Status]
    (new : CustomResourceDefinition) : Prop :=
  ∀ old, DeclaresLegacy k old → ∀ entry, k.Tabled entry →
    ∀ first events last, first.corrected = false → UpgradeRun k old new first events last →
      ∀ corrected, (patchAccount entry events).patched = some corrected →
        ∀ object : CustomResource Spec Status,
          decodeResource k.decode last.document = some object →
            ((k.rejections object.spec).any entry.rejectedBy = true ↔
              entry.needsCorrectedCrdsFirst = true ∧ corrected = false)

theorem orderDecides {k : PatchedKind Spec} {new : CustomResourceDefinition}
    (hjudges : Judges k) (hnew : DeclaresSupported k new) : OrderDecides k Status new := by
  intro old hold entry tabled first events last hfirst hrun corrected hpatched object hread
  have hheld := (tracks_run hold hnew tabled hfirst hrun).held corrected hpatched
  obtain ⟨name, rest, hpath⟩ := (described tabled.1).below
  rw [hpath] at hheld
  obtain ⟨ms, hms, hspec⟩ := hheld
  rw [hms, CustomResourceDefinition.decodeResource_eq] at hread
  obtain ⟨metadata, -, hread⟩ := Option.bind_eq_some_iff.mp hread
  obtain ⟨parts, hparts, hread⟩ := Option.bind_eq_some_iff.mp hread
  obtain rfl := Option.some.inj hread
  obtain ⟨spec, hfield, hparts⟩ := Option.bind_eq_some_iff.mp hparts
  obtain ⟨status, -, hparts⟩ := Option.bind_eq_some_iff.mp hparts
  obtain rfl := Option.some.inj hparts
  obtain ⟨v, hv, hdecode⟩ := Option.bind_eq_some_iff.mp hfield
  rw [hv] at hspec
  by_cases hundone : (entry.needsCorrectedCrdsFirst && !corrected) = true
  · rw [LegacyDefault.leftWith, if_pos hundone] at hspec
    have hrefused := hjudges.legacy entry _ v spec tabled hpath hdecode hspec
    simpa [hrefused] using hundone
  · rw [LegacyDefault.leftWith, if_neg hundone] at hspec
    have haccepted := hjudges.supported entry _ v spec tabled hpath hdecode hspec
    simpa [haccepted] using hundone

/-- The order of an upgrade matters exactly where the table says so. -/
theorem upgrade_order :
    OrderDecides clusterKind ClusterStatus clusterDefinition ∧
      OrderDecides topicKind TopicStatus topicDefinition :=
  ⟨orderDecides cluster_judges clusterDefinition_supports,
    orderDecides topic_judges topicDefinition_supports⟩

/-- The topic definition of v0.3.0, as far as the table speaks of it. -/
def legacyTopicDefinition : CustomResourceDefinition where
  spec := .object [
    ("clusterRef", .string),
    ("replicationFactor", .default (intJson 2) (.integer .int32)),
    ("retention", .object [
      ("retentionMs", .default (intJson 604800000) (.integer .int64))] []),
    ("config", .object [
      ("minInsyncReplicas", .default (intJson 1) (.integer .int32)),
      ("maxMessageBytes", .default (intJson 1048576) (.integer .int64))] [])] ["clusterRef"]
  status := topicStatusSchema

theorem legacyTopicDefinition_declares : DeclaresLegacy topicKind legacyTopicDefinition where
  sound := by decide
  scalar entry tabled := by
    rcases topic_leaves tabled with ⟨-, hpath, -⟩ | ⟨-, hpath, -⟩ | ⟨-, hpath, -⟩ |
      ⟨-, hpath, -⟩
    · rw [hpath]
      rfl
    · rw [hpath]
      rfl
    · rw [hpath]
      rfl
    · rw [hpath]
      rfl
  legacy entry leaf tabled h := by
    rcases topic_leaves tabled with ⟨-, hpath, hleaf, -⟩ | ⟨-, hpath, hleaf, -⟩ |
      ⟨-, hpath, hleaf, -⟩ | ⟨-, hpath, hleaf, -⟩
    · rw [hpath] at h
      rw [hleaf, ← Option.some.inj h]
      rfl
    · rw [hpath] at h
      rw [hleaf, ← Option.some.inj h]
      rfl
    · rw [hpath] at h
      rw [hleaf, ← Option.some.inj h]
      rfl
    · rw [hpath] at h
      rw [hleaf, ← Option.some.inj h]
      rfl

/-- A topic that v0.3.0 stored with an open block. -/
def legacyTopic : Json := .obj [
  ("metadata", .obj [("name", .str "orders")]),
  ("spec", .obj [("clusterRef", .str "main"),
    ("config", .obj [("minInsyncReplicas", intJson 1), ("maxMessageBytes", intJson 1048576)])])]

/-- The removal of a key, made before the corrected definitions are installed and after. -/
theorem upgrade_order_removal : ∃ early late : StoredObject,
    UpgradeRun topicKind legacyTopicDefinition topicDefinition ⟨false, legacyTopic⟩
        [.patched legacyDefaults[4], .installed] early ∧
      UpgradeRun topicKind legacyTopicDefinition topicDefinition ⟨false, legacyTopic⟩
        [.installed, .patched legacyDefaults[4]] late ∧
      (∃ topic : StreamlineTopic, decodeResource topicKind.decode early.document = some topic ∧
        (topicKind.rejections topic.spec).any legacyDefaults[4].rejectedBy = true) ∧
      ∃ topic : StreamlineTopic, decodeResource topicKind.decode late.document = some topic ∧
        (topicKind.rejections topic.spec).any legacyDefaults[4].rejectedBy = false := by
  have tabled : topicKind.Tabled legacyDefaults[4] := ⟨by decide, rfl⟩
  have hparse : Json.parse legacyDefaults[4].mergePatch =
      some (leafPatch ["spec", "config", "minInsyncReplicas"] .null) := by
    cbv
  have hearly : UpgradeRun topicKind legacyTopicDefinition topicDefinition ⟨false, legacyTopic⟩
      [.patched legacyDefaults[4], .installed] _ :=
    .step (.step (.done _) (.patch tabled hparse (if_pos (by rfl)))) (.install _)
  have hlate : UpgradeRun topicKind legacyTopicDefinition topicDefinition ⟨false, legacyTopic⟩
      [.installed, .patched legacyDefaults[4]] _ :=
    .step (.step (.done _) (.install _)) (.patch tabled hparse (if_pos (by rfl)))
  refine ⟨_, _, hearly, hlate, ⟨_, rfl, ?_⟩, _, rfl, ?_⟩
  · exact (upgrade_order.2 legacyTopicDefinition legacyTopicDefinition_declares _ tabled _ _ _ rfl
      hearly false rfl _ rfl).mpr ⟨rfl, rfl⟩
  · have hverdict := upgrade_order.2 legacyTopicDefinition legacyTopicDefinition_declares _ tabled
      _ _ _ rfl hlate true rfl _ rfl
    simpa using hverdict

end Order

end StreamlineOperator.Upgrade
