/- source: src/src/controllers/cluster.rs (observed_status)
   digest: The conditions, phase and endpoints of an observed status say the same of every count. -/

import Mathlib.Data.List.Nodup
import StreamlineOperator.Controllers.ClusterStatus
import StreamlineOperator.Controllers.StatusReports

set_option autoImplicit false
set_option relaxedAutoImplicit false

namespace StreamlineOperator.Controllers

open Foundation
open Conditions
open Crd

namespace ClusterController

/-- What a status says of a count, in all of its parts. -/
structure CoherentStatus (cluster : StreamlineCluster) (readyCount : Int32)
    (status : ClusterStatus) : Prop where
  once : OnceEach managedTypes status.conditions
  ready : conditionStatus status.conditions clusterConditionReady = some conditionTrue ↔
    readyCount = cluster.spec.replicas
  degraded : conditionStatus status.conditions clusterConditionDegraded = some conditionFalse ↔
    readyCount = cluster.spec.replicas
  progressing : conditionStatus status.conditions clusterConditionProgressing = some conditionFalse ↔
    readyCount = cluster.spec.replicas
  running : status.phase = .running ↔ readyCount = cluster.spec.replicas
  available : conditionStatus status.conditions clusterConditionAvailable = some conditionTrue ↔
    0 < readyCount
  pending : status.phase = .pending ↔ readyCount = 0
  otherPhase : readyCount ≠ 0 → status.phase = .scaling ∨ status.phase = .running
  counts : status.readyReplicas = readyCount ∧ status.replicas = cluster.spec.replicas
  others : status.conditions.filter (fun c => c.conditionType ∉ managedTypes) =
    (seededConditions cluster).filter (fun c => c.conditionType ∉ managedTypes)
  endpoints : (status.brokerEndpoints.length : Int) = cluster.spec.replicas.toInt ∧
    status.brokerEndpoints.Nodup

/-- Two statuses that differ at most in dates and in conditions of other types. -/
structure SameStory (status status' : ClusterStatus) : Prop where
  conditions : SameReports managedTypes status.conditions status'.conditions
  phase : status.phase = status'.phase
  readyReplicas : status.readyReplicas = status'.readyReplicas
  replicas : status.replicas = status'.replicas
  brokerEndpoints : status.brokerEndpoints = status'.brokerEndpoints

/-! The parts one by one. -/

section Parts

variable {readyCount desired : Int32}

private theorem readyReport_status :
    (readyReport readyCount desired).status = conditionTrue ↔ readyCount = desired := by
  unfold readyReport
  by_cases h : readyCount = desired <;> simp [h, conditionTrue, conditionFalse]

private theorem availableReport_status :
    (availableReport readyCount).status = conditionTrue ↔ 0 < readyCount := by
  unfold availableReport
  by_cases h : readyCount > 0 <;> simp [h, conditionTrue, conditionFalse]

private theorem progressingReport_status :
    (progressingReport readyCount desired).status = conditionFalse ↔ readyCount = desired := by
  unfold progressingReport
  split
  · rename_i hless
    have hne : readyCount ≠ desired := Int32.ne_of_lt hless
    simp [hne, conditionTrue, conditionFalse]
  · split
    · rename_i hmore
      have hne : readyCount ≠ desired := (Int32.ne_of_lt hmore).symm
      simp [hne, conditionTrue, conditionFalse]
    · rename_i hless hmore
      have heq : readyCount = desired :=
        Int32.le_antisymm (Int32.not_lt.mp hmore) (Int32.not_lt.mp hless)
      simp [heq]

private theorem degradedReport_status :
    (degradedReport readyCount desired).status = conditionFalse ↔ readyCount = desired := by
  unfold degradedReport
  split
  · rename_i heq
    simp [heq]
  · rename_i hne
    split
    · simp [hne, conditionTrue, conditionFalse]
    · split <;> simp [hne, conditionTrue, conditionFalse]

private theorem observedPhase_running :
    observedPhase readyCount desired = .running ↔ readyCount = desired := by
  unfold observedPhase
  split
  · rename_i heq
    simp [heq]
  · rename_i hne
    split <;> simp [hne]

private theorem observedPhase_pending (hdesired : 1 ≤ desired) (hready : 0 ≤ readyCount) :
    observedPhase readyCount desired = .pending ↔ readyCount = 0 := by
  unfold observedPhase
  constructor
  · intro h
    split at h
    · cases h
    · split at h
      · cases h
      · rename_i hpositive
        exact Int32.le_antisymm (Int32.not_lt.mp hpositive) hready
  · rintro rfl
    have hne : (0 : Int32) ≠ desired := by
      rintro rfl
      exact absurd hdesired (by decide)
    rw [if_neg hne, if_neg (by decide)]

end Parts

private theorem brokerEndpoints_nodup (cluster : StreamlineCluster) (namespaceName : String) :
    (brokerEndpoints cluster namespaceName).Nodup := by
  rw [brokerEndpoints]
  refine List.Nodup.map_on ?_ List.nodup_range
  intro i _ j _ h
  simp only [String.append_left_inj, String.append_right_inj] at h
  exact natRepr_injective h

private theorem brokerEndpoints_length (cluster : StreamlineCluster) (namespaceName : String)
    (h : 1 ≤ cluster.spec.replicas) :
    ((brokerEndpoints cluster namespaceName).length : Int) = cluster.spec.replicas.toInt := by
  have hpositive : 1 ≤ cluster.spec.replicas.toInt := Int32.le_iff_toInt_le.mp h
  simp only [brokerEndpoints, List.length_map, List.length_range]
  omega

private theorem conditionStatus_observed {cluster : StreamlineCluster}
    (h : DistinctConditions cluster.status) (clock : Clock) (namespaceName : String)
    (readyCount : Int32) {report : Report}
    (hreport : report ∈ (Build.observed namespaceName readyCount).reports cluster) {type : String}
    (htype : report.conditionType = type) (status : String) :
    conditionStatus (observedStatus clock cluster namespaceName readyCount).conditions type =
      some status ↔ report.status = status := by
  have hsays := ((Build.observed namespaceName readyCount).statusBuild cluster).saysOnce_run clock
    h hreport
  rw [← Build.build_eq_run] at hsays
  have hfound := hsays.conditionStatus
  rw [htype] at hfound
  exact (Eq.congr_left hfound).trans Option.some_inj

private theorem coherent_observedStatus {cluster : StreamlineCluster} (clock : Clock)
    (namespaceName : String) {readyCount : Int32} (hreplicas : 1 ≤ cluster.spec.replicas)
    (hready : 0 ≤ readyCount) (distinct : DistinctConditions cluster.status) :
    CoherentStatus cluster readyCount
      (observedStatus clock cluster namespaceName readyCount) := by
  have htypes := (Build.observed namespaceName readyCount).reports_types cluster
  simp only [Build.reports, List.map_cons, List.map_nil, managedTypes, List.cons.injEq,
    and_true] at htypes
  obtain ⟨hreadyType, havailableType, hprogressingType, hdegradedType⟩ := htypes
  have hstatus := @conditionStatus_observed cluster distinct clock namespaceName readyCount
  have hphase : (observedStatus clock cluster namespaceName readyCount).phase =
      observedPhase readyCount cluster.spec.replicas := rfl
  have honce := ((Build.observed namespaceName readyCount).statusBuild
    cluster).onceEach_run clock distinct
  have hothers := @StatusBuild.others_run _ _ _
    ((Build.observed namespaceName readyCount).statusBuild cluster) clock cluster.status
    (fun _ => rfl)
  rw [← Build.build_eq_run, Build.statusBuild_types] at honce hothers
  exact
    { once := honce
      ready := by
        rw [hstatus (by simp [Build.reports]) hreadyType, readyReport_status]
      degraded := by
        rw [hstatus (by simp [Build.reports]) hdegradedType, degradedReport_status]
      progressing := by
        rw [hstatus (by simp [Build.reports]) hprogressingType, progressingReport_status]
      running := by rw [hphase, observedPhase_running]
      available := by
        rw [hstatus (by simp [Build.reports]) havailableType, availableReport_status]
      pending := by rw [hphase, observedPhase_pending hreplicas hready]
      otherPhase := by
        intro hne
        have hpending := (observedPhase_pending hreplicas hready).not.mpr hne
        rw [hphase]
        revert hpending
        unfold observedPhase
        split
        · simp
        · split <;> simp
      counts := ⟨rfl, rfl⟩
      others := hothers
      endpoints := ⟨brokerEndpoints_length cluster namespaceName hreplicas,
        brokerEndpoints_nodup cluster namespaceName⟩ }

private theorem sameStory_observedStatus {cluster : StreamlineCluster} (clock clock' : Clock)
    (namespaceName : String) (readyCount : Int32) (distinct : DistinctConditions cluster.status)
    {prior : Option ClusterStatus} (hprior : DistinctConditions prior) :
    SameStory (observedStatus clock cluster namespaceName readyCount)
      (observedStatus clock' { cluster with status := prior } namespaceName readyCount) := by
  have hsame := ((Build.observed namespaceName readyCount).statusBuild
    cluster).sameReports_run clock clock' distinct hprior
  have hlater : observedStatus clock' { cluster with status := prior } namespaceName readyCount =
      ((Build.observed namespaceName readyCount).statusBuild cluster).run clock' prior :=
    (Build.observed namespaceName readyCount).build_eq_run clock' { cluster with status := prior }
  rw [← hlater, ← Build.build_eq_run, Build.statusBuild_types] at hsame
  exact ⟨hsame, rfl, rfl, rfl, rfl⟩

/-- A status of an observed count tells one story, whatever status came before it. -/
theorem observedStatus_coherent (cluster : StreamlineCluster) (namespaceName : String)
    (readyCount : Int32) (clock : Clock) (hreplicas : 1 ≤ cluster.spec.replicas)
    (hready : 0 ≤ readyCount) (distinct : DistinctConditions cluster.status) :
    CoherentStatus cluster readyCount (observedStatus clock cluster namespaceName readyCount) ∧
      ∀ (clock' : Clock) (prior : Option ClusterStatus), DistinctConditions prior →
        SameStory (observedStatus clock cluster namespaceName readyCount)
          (observedStatus clock' { cluster with status := prior } namespaceName readyCount) := by
  constructor
  · exact coherent_observedStatus clock namespaceName hreplicas hready distinct
  · intro clock' prior hprior
    exact sameStory_observedStatus clock clock' namespaceName readyCount distinct hprior

/-- A cluster of three whose status carries a condition of another controller. -/
private def auditedCluster : StreamlineCluster where
  metadata := { name := some "events" }
  spec := { replicas := 3 }
  status := some { conditions := [⟨"Audited", conditionTrue, none, none, none⟩,
    ⟨clusterConditionReady, conditionTrue, some "then", none, none⟩] }

private theorem auditedCluster_distinct : DistinctConditions auditedCluster.status := by
  rintro status ⟨rfl⟩
  decide

/-- More brokers ready than desired is not a healthy cluster. -/
theorem observedStatus_coherent_excess :
    CoherentStatus auditedCluster 4
        (observedStatus (fun _ => "now") auditedCluster "streamline" 4) ∧
      ∀ (clock' : Clock) (prior : Option ClusterStatus), DistinctConditions prior →
        SameStory (observedStatus (fun _ => "now") auditedCluster "streamline" 4)
          (observedStatus clock' { auditedCluster with status := prior } "streamline" 4) :=
  observedStatus_coherent auditedCluster "streamline" 4 (fun _ => "now") (by decide) (by decide)
    auditedCluster_distinct

end ClusterController

end StreamlineOperator.Controllers
