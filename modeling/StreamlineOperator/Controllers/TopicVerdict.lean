/- source: src/src/controllers/topic.rs (evaluate_sync, update_status_from_server)
   digest: The verdict of a topic status follows from the numbers the server reported. -/

import StreamlineOperator.Controllers.StatusReports
import StreamlineOperator.Controllers.Topic

set_option autoImplicit false
set_option relaxedAutoImplicit false

namespace StreamlineOperator.Controllers

open Foundation
open Kubernetes
open Conditions
open Crd (TopicSpec TopicStatus TopicPhase StreamlineTopic)

/-- Some reported number is not the one of the spec. -/
def DiffersFromSpec (spec : TopicSpec) (state : TopicServerState) : Prop :=
  (∃ n, state.partitions = some n ∧ n ≠ spec.partitions) ∨
    ∃ n, state.replicationFactor = some n ∧ n ≠ spec.replicationFactor

/-- Both numbers were reported as the spec has them. -/
def MatchesSpec (spec : TopicSpec) (state : TopicServerState) : Prop :=
  state.partitions = some spec.partitions ∧ state.replicationFactor = some spec.replicationFactor

private theorem partitionsDrift_eq_nil {spec : TopicSpec} {state : TopicServerState} :
    partitionsDrift spec state = [] ↔ ∀ n, state.partitions = some n → n = spec.partitions := by
  unfold partitionsDrift
  cases state.partitions with
  | none => simp
  | some n => by_cases h : n = spec.partitions <;> simp [h]

private theorem replicationFactorDrift_eq_nil {spec : TopicSpec} {state : TopicServerState} :
    replicationFactorDrift spec state = [] ↔
      ∀ n, state.replicationFactor = some n → n = spec.replicationFactor := by
  unfold replicationFactorDrift
  cases state.replicationFactor with
  | none => simp
  | some n => by_cases h : n = spec.replicationFactor <;> simp [h]

theorem evaluateSync_cases (spec : TopicSpec) (state : TopicServerState) :
    (DiffersFromSpec spec state ∧ ∃ message, evaluateSync spec state = .drift message) ∨
      (MatchesSpec spec state ∧ ¬ DiffersFromSpec spec state ∧ evaluateSync spec state = .inSync state) ∨
      (¬ MatchesSpec spec state ∧ ¬ DiffersFromSpec spec state ∧ evaluateSync spec state = .unverified) := by
  have hdiffers : ¬ DiffersFromSpec spec state ↔
      partitionsDrift spec state ++ replicationFactorDrift spec state = [] := by
    rw [List.append_eq_nil_iff, partitionsDrift_eq_nil, replicationFactorDrift_eq_nil, DiffersFromSpec]
    simp only [not_or, not_exists, not_and, not_not]
  by_cases h : DiffersFromSpec spec state
  · have hdrift : partitionsDrift spec state ++ replicationFactorDrift spec state ≠ [] := by
      intro hnil
      exact hdiffers.mpr hnil h
    exact .inl ⟨h, _, by rw [evaluateSync, if_pos hdrift]⟩
  · have hnil := hdiffers.mp h
    have hmatches : MatchesSpec spec state ↔ state.isFullyReported = true := by
      rw [List.append_eq_nil_iff, partitionsDrift_eq_nil, replicationFactorDrift_eq_nil] at hnil
      obtain ⟨hpartitions, hfactor⟩ := hnil
      rw [TopicServerState.isFullyReported, Bool.and_eq_true, Option.isSome_iff_exists,
        Option.isSome_iff_exists]
      constructor
      · rintro ⟨hp, hr⟩
        exact ⟨⟨_, hp⟩, ⟨_, hr⟩⟩
      · rintro ⟨⟨p, hp⟩, ⟨r, hr⟩⟩
        exact ⟨hp.trans (congrArg some (hpartitions p hp)), hr.trans (congrArg some (hfactor r hr))⟩
    rw [evaluateSync, hnil]
    by_cases hfull : state.isFullyReported = true
    · exact .inr (.inl ⟨hmatches.mpr hfull, h, by simp [hfull]⟩)
    · exact .inr (.inr ⟨fun hm => hfull (hmatches.mp hm), h, by simp [hfull]⟩)

namespace TopicController

/-- The build that follows from the server's report. -/
def serverBuild (spec : TopicSpec) (state : TopicServerState) : Build :=
  match evaluateSync spec state with
  | .inSync state => .ready state true
  | .unverified => .ready state false
  | .drift message => .error message

/-- What is published for a report is the status of this build. -/
theorem updateStatusFromServer_eq (topic : StreamlineTopic) (namespaceName : String)
    (state : TopicServerState) :
    updateStatusFromServer topic namespaceName state =
      publish .streamlineTopic topic namespaceName
        (fun clock topic' => (serverBuild topic.spec state).build clock topic') := by
  unfold updateStatusFromServer serverBuild
  cases evaluateSync topic.spec state <;> rfl

/-- The verdict of a status on what the server reported. -/
structure SoundVerdict (spec : TopicSpec) (state : TopicServerState) (status : TopicStatus) :
    Prop where
  once : OnceEach managedTypes status.conditions
  inSync : conditionStatus status.conditions topicConditionSynced = some conditionTrue ↔
    MatchesSpec spec state
  drifted : conditionStatus status.conditions topicConditionSynced = some conditionFalse ↔
    DiffersFromSpec spec state
  unknown : conditionStatus status.conditions topicConditionSynced = some conditionUnknown ↔
    ¬ MatchesSpec spec state ∧ ¬ DiffersFromSpec spec state
  ready : status.ready = true ↔ ¬ DiffersFromSpec spec state
  phase : status.phase = .ready ↔ ¬ DiffersFromSpec spec state
  readyCondition : conditionStatus status.conditions topicConditionReady = some conditionTrue ↔
    ¬ DiffersFromSpec spec state
  errorMessage : status.errorMessage = none ↔ ¬ DiffersFromSpec spec state
  reported : status.ready = true → status.partitions = state.partitions.getD 0 ∧
    status.replicationFactor = state.replicationFactor.getD 0

/-- Two statuses that differ at most in dates and in conditions of other types. -/
structure SameVerdict (status status' : TopicStatus) : Prop where
  conditions : SameReports managedTypes status.conditions status'.conditions
  ready : status.ready = status'.ready
  phase : status.phase = status'.phase
  partitions : status.partitions = status'.partitions
  replicationFactor : status.replicationFactor = status'.replicationFactor
  errorMessage : status.errorMessage = status'.errorMessage

/-! The verdicts of a build. -/

section Builds

variable {topic : StreamlineTopic} (clock : Clock)

private theorem onceEach_build (distinct : DistinctConditions topic.status) (build : Build) :
    OnceEach managedTypes (build.build clock topic).conditions := by
  have honce := (build.statusBuild topic).onceEach_run clock distinct
  rw [← build.build_eq_run, build.statusBuild_types] at honce
  exact honce

private theorem conditionStatus_build (distinct : DistinctConditions topic.status) (build : Build)
    {report : Report} (h : report ∈ build.reports) :
    conditionStatus (build.build clock topic).conditions report.conditionType =
      some report.status := by
  have hsays := (build.statusBuild topic).saysOnce_run clock distinct h
  rw [← build.build_eq_run] at hsays
  exact hsays.conditionStatus

private theorem sameVerdict_build (clock' : Clock) (distinct : DistinctConditions topic.status)
    {prior : Option TopicStatus} (hprior : DistinctConditions prior) (build : Build) :
    SameVerdict (build.build clock topic) (build.build clock' { topic with status := prior }) := by
  have hsame := (build.statusBuild topic).sameReports_run clock clock' distinct hprior
  have hlater : build.build clock' { topic with status := prior } =
      (build.statusBuild topic).run clock' prior :=
    build.build_eq_run clock' { topic with status := prior }
  rw [← hlater, ← build.build_eq_run, build.statusBuild_types] at hsame
  cases build <;> exact ⟨hsame, rfl, rfl, rfl, rfl, rfl⟩

private theorem status_ne :
    conditionTrue ≠ conditionFalse ∧ conditionTrue ≠ conditionUnknown ∧
      conditionFalse ≠ conditionUnknown := by
  decide

private theorem soundVerdict_error (distinct : DistinctConditions topic.status)
    {spec : TopicSpec} {state : TopicServerState} (message : String)
    (h : DiffersFromSpec spec state) :
    SoundVerdict spec state ((Build.error message).build clock topic) := by
  obtain ⟨-, -, hunknown⟩ := status_ne
  have hmatches : ¬ MatchesSpec spec state := by
    rintro ⟨hp, hr⟩
    rcases h with ⟨n, hn, hne⟩ | ⟨n, hn, hne⟩
    · exact hne (Option.some.inj (hn.symm.trans hp))
    · exact hne (Option.some.inj (hn.symm.trans hr))
  have hready : conditionStatus ((Build.error message).build clock topic).conditions
      topicConditionReady = some conditionFalse :=
    conditionStatus_build clock distinct (.error message) (List.mem_cons_self ..)
  have hsynced : conditionStatus ((Build.error message).build clock topic).conditions
      topicConditionSynced = some conditionFalse :=
    conditionStatus_build clock distinct (.error message)
      (List.mem_cons_of_mem _ (List.mem_cons_self ..))
  exact
    { once := onceEach_build clock distinct _
      inSync := by simp [hsynced, hmatches, status_ne.1.symm]
      drifted := by simp [hsynced, h]
      unknown := by simp [hsynced, h, hunknown]
      ready := by simp [Build.build, errorStatus, withStableTimestamp,
        Controllers.withStableTimestamp, setLastUpdated, h]
      phase := by simp [Build.build, errorStatus, withStableTimestamp,
        Controllers.withStableTimestamp, setLastUpdated, h]
      readyCondition := by simp [hready, h, status_ne.1.symm]
      errorMessage := by simp [Build.build, errorStatus, withStableTimestamp,
        Controllers.withStableTimestamp, setLastUpdated, h]
      reported := by
        intro hfalse
        cases hfalse }

private theorem soundVerdict_ready (distinct : DistinctConditions topic.status)
    {spec : TopicSpec} {state : TopicServerState} {verified : Bool}
    (hdiffers : ¬ DiffersFromSpec spec state) (hverified : verified = true ↔ MatchesSpec spec state) :
    SoundVerdict spec state ((Build.ready state verified).build clock topic) := by
  obtain ⟨hfalse, hunknown, hboth⟩ := status_ne
  have hready : conditionStatus ((Build.ready state verified).build clock topic).conditions
      topicConditionReady = some conditionTrue :=
    conditionStatus_build clock distinct (.ready state verified) (List.mem_cons_self ..)
  have hsynced : conditionStatus ((Build.ready state verified).build clock topic).conditions
      topicConditionSynced = some (syncedReport verified).status := by
    have h := conditionStatus_build clock distinct (.ready state verified)
      (List.mem_cons_of_mem _ (List.mem_cons_self ..))
    cases verified <;> exact h
  rw [syncedReport] at hsynced
  exact
    { once := onceEach_build clock distinct _
      inSync := by
        rw [hsynced, ← hverified]
        cases verified <;> simp [hunknown.symm]
      drifted := by
        rw [hsynced]
        cases verified <;> simp [hdiffers, hfalse, hboth.symm]
      unknown := by
        rw [hsynced, ← hverified]
        cases verified <;> simp [hdiffers, hunknown]
      ready := iff_of_true rfl hdiffers
      phase := iff_of_true rfl hdiffers
      readyCondition := iff_of_true hready hdiffers
      errorMessage := iff_of_true rfl hdiffers
      reported := fun _ => ⟨rfl, rfl⟩ }

end Builds

/-- The status chosen for a report is a sound verdict on it, whatever status
came before. -/
theorem updateStatusFromServer_sound (topic : StreamlineTopic) (namespaceName : String)
    (state : TopicServerState) (clock : Clock) (distinct : DistinctConditions topic.status) :
    updateStatusFromServer topic namespaceName state =
        publish .streamlineTopic topic namespaceName (serverBuild topic.spec state).build ∧
      SoundVerdict topic.spec state ((serverBuild topic.spec state).build clock topic) ∧
      ∀ (clock' : Clock) (prior : Option TopicStatus), DistinctConditions prior →
        SameVerdict ((serverBuild topic.spec state).build clock topic)
          ((serverBuild topic.spec state).build clock' { topic with status := prior }) := by
  refine ⟨updateStatusFromServer_eq topic namespaceName state, ?_,
    fun clock' prior hprior => sameVerdict_build clock clock' distinct hprior _⟩
  rcases evaluateSync_cases topic.spec state with
    ⟨hdiffers, message, hsync⟩ | ⟨hmatches, hdiffers, hsync⟩ | ⟨hmatches, hdiffers, hsync⟩
  · rw [serverBuild, hsync]
    exact soundVerdict_error clock distinct message hdiffers
  · rw [serverBuild, hsync]
    exact soundVerdict_ready clock distinct hdiffers (iff_of_true rfl hmatches)
  · rw [serverBuild, hsync]
    exact soundVerdict_ready clock distinct hdiffers (iff_of_false Bool.false_ne_true hmatches)

/-- A topic of six partitions that was once in sync. -/
private def syncedTopic : StreamlineTopic where
  metadata := { name := some "orders" }
  spec := { clusterRef := "events", partitions := 6 }
  status := some { conditions := [⟨topicConditionSynced, conditionTrue, none, none, none⟩] }

private theorem syncedTopic_distinct : DistinctConditions syncedTopic.status := by
  rintro status ⟨rfl⟩
  decide

/-- A report of three partitions and of no replication factor takes the verdict back. -/
theorem updateStatusFromServer_sound_partial :
    updateStatusFromServer syncedTopic "streamline" { partitions := some 3 } =
        publish .streamlineTopic syncedTopic "streamline"
          (serverBuild syncedTopic.spec { partitions := some 3 }).build ∧
      SoundVerdict syncedTopic.spec { partitions := some 3 }
        ((serverBuild syncedTopic.spec { partitions := some 3 }).build (fun _ => "now")
          syncedTopic) ∧
      ∀ (clock' : Clock) (prior : Option TopicStatus), DistinctConditions prior →
        SameVerdict
          ((serverBuild syncedTopic.spec { partitions := some 3 }).build (fun _ => "now")
            syncedTopic)
          ((serverBuild syncedTopic.spec { partitions := some 3 }).build clock'
            { syncedTopic with status := prior }) :=
  updateStatusFromServer_sound syncedTopic "streamline" { partitions := some 3 } (fun _ => "now")
    syncedTopic_distinct

end TopicController

end StreamlineOperator.Controllers
