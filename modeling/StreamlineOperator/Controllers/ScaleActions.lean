/- source: src/src/controllers/scale_to_zero.rs (evaluate, apply_scale_action)
   digest: When a scale action changes the replicas, and when the next decision repeats it. -/

import StreamlineOperator.Controllers.ScaleToZeroRuns

set_option autoImplicit false
set_option relaxedAutoImplicit false

namespace StreamlineOperator.Controllers.ScaleToZeroController

open Foundation
open Kubernetes
open Crd (StreamlineCluster)

/-- The actions that are applied by a patch of the StatefulSet. -/
def ScalesReplicas (action : ScaleToZeroAction) : Prop :=
  action.action = .scaleToZero ∨ action.action = .activate

def isPatch : Request → Bool
  | .mergePatch .. | .applyJson .. | .patchStatus .. | .apply .. => true
  | _ => false

/-- Applying the action patches nothing, whatever the API server would answer. -/
def IssuesNoPatch (cluster : StreamlineCluster) (namespaceName : String)
    (action : ScaleToZeroAction) : Prop :=
  ∀ tr res, (applyScaleAction cluster namespaceName action).Runs tr res →
    ∀ e ∈ tr, isPatch e.request = false

/-- The last scale-up is a cooldown ago. -/
def CooldownOver (now : Instant) (config : ScaleToZeroConfig) (lastScaleUpEpoch : Option Nat) :
    Prop :=
  ∀ lastUp, lastScaleUpEpoch = some lastUp → config.cooldownSeconds ≤ asU64 now.epoch - lastUp

theorem withinCooldown_eq_none_iff {now : Instant} {config : ScaleToZeroConfig}
    {lastScaleUpEpoch : Option Nat} :
    withinCooldown now config lastScaleUpEpoch = none ↔
      CooldownOver now config lastScaleUpEpoch := by
  cases lastScaleUpEpoch with
  | none => simp [withinCooldown, CooldownOver]
  | some lastUp => simp [withinCooldown, CooldownOver, Option.filter]

/-- The activity a cluster is scaled to zero for. -/
def IdleForTimeout (snapshot : ClusterActivitySnapshot) (config : ScaleToZeroConfig) : Prop :=
  snapshot.isIdle = true ∧ config.idleTimeoutSeconds ≤ snapshot.idleDurationSeconds

section Decisions

variable {now : Instant} {snapshot : ClusterActivitySnapshot} {config : ScaleToZeroConfig}
variable {current : Int32} {lastScaleUpEpoch : Option Nat}

theorem evaluate_activate_iff :
    (evaluate now snapshot config current lastScaleUpEpoch).action = .activate ↔
      config.enabled = true ∧ current = 0 ∧ snapshot.isIdle = false := by
  unfold evaluate
  cases henabled : config.enabled with
  | false => simp
  | true =>
    simp only [Bool.not_true, Bool.false_eq_true, if_false, Bool.and_eq_true, decide_eq_true_eq,
      Bool.not_eq_true', true_and]
    split
    · rename_i hwake
      simp [hwake]
    · rename_i hwake
      split
      · simp [hwake]
      · split <;> simp [hwake]

theorem evaluate_target_of_activate
    (h : (evaluate now snapshot config current lastScaleUpEpoch).action = .activate) :
    (evaluate now snapshot config current lastScaleUpEpoch).targetReplicas =
      config.minActiveReplicas := by
  obtain ⟨henabled, hzero, hbusy⟩ := evaluate_activate_iff.mp h
  simp [evaluate, henabled, hzero, hbusy]

theorem evaluate_scaleToZero_iff :
    (evaluate now snapshot config current lastScaleUpEpoch).action = .scaleToZero ↔
      config.enabled = true ∧ CooldownOver now config lastScaleUpEpoch ∧
        IdleForTimeout snapshot config := by
  rw [← withinCooldown_eq_none_iff]
  unfold evaluate IdleForTimeout
  cases henabled : config.enabled with
  | false => simp
  | true =>
    simp only [Bool.not_true, Bool.false_eq_true, if_false, Bool.and_eq_true, decide_eq_true_eq,
      Bool.not_eq_true', true_and]
    split
    · rename_i hwake
      simp [hwake.2]
    · cases hcooldown : withinCooldown now config lastScaleUpEpoch with
      | some elapsed => simp
      | none =>
        simp only [true_and]
        split
        · rename_i hidle
          simp [hidle]
        · rename_i hidle
          simp [hidle]

end Decisions

section Applied

variable {cluster : StreamlineCluster} {namespaceName : String} {action : ScaleToZeroAction}

theorem issuesNoPatch_of_not_scales (h : ¬ ScalesReplicas action) :
    IssuesNoPatch cluster namespaceName action := by
  have hskip : applyScaleAction cluster namespaceName action = .ok () := by
    unfold ScalesReplicas at h
    unfold applyScaleAction
    cases haction : action.action with
    | none => rfl
    | inCooldown => rfl
    | scaleToZero => exact absurd (.inl haction) h
    | activate => exact absurd (.inr haction) h
  intro tr res hruns e he
  rw [hskip, Program.runs_ok] at hruns
  rw [hruns.1] at he
  cases he

theorem applyScaleAction_of_scales (h : ScalesReplicas action) :
    applyScaleAction cluster namespaceName action =
      .call (.mergePatch .statefulSet namespaceName cluster.nameAny
        (replicasPatch action.targetReplicas)) orKubeApi := by
  unfold applyScaleAction
  rcases h with haction | haction <;> rw [haction] <;> rfl

theorem not_issuesNoPatch_of_scales (h : ScalesReplicas action) :
    ¬ IssuesNoPatch cluster namespaceName action := by
  intro hquiet
  have hrun : (applyScaleAction cluster namespaceName action).Runs
      [⟨.mergePatch .statefulSet namespaceName cluster.nameAny
        (replicasPatch action.targetReplicas), .ok ()⟩] (.ok ()) := by
    rw [applyScaleAction_of_scales h, Program.runs_call]
    exact ⟨.ok (), [], rfl, Program.runs_ok.mpr ⟨rfl, rfl⟩⟩
  have hpatch := hquiet _ _ hrun _ (List.mem_singleton_self _)
  cases hpatch

theorem replicasAfter_of_scales (current : Int32) (h : ScalesReplicas action) :
    replicasAfter cluster namespaceName current action = action.targetReplicas := by
  rw [replicasAfter_eq, if_neg]
  rcases h with haction | haction <;> simp [haction]

end Applied

section Effects

variable (cluster : StreamlineCluster) (namespaceName : String) (now : Instant)
  (snapshot : ClusterActivitySnapshot) (config : ScaleToZeroConfig) (current : Int32)
  (lastScaleUpEpoch : Option Nat)

/-- The decision is neither redundant nor empty, and it settles the matter: with the
replicas it sets, no decision about the same snapshot patches again. -/
structure Effective : Prop where
  changes : ScalesReplicas (evaluate now snapshot config current lastScaleUpEpoch) →
    (evaluate now snapshot config current lastScaleUpEpoch).targetReplicas ≠ current
  activates : (evaluate now snapshot config current lastScaleUpEpoch).action = .activate →
    1 ≤ (evaluate now snapshot config current lastScaleUpEpoch).targetReplicas
  settles : ScalesReplicas (evaluate now snapshot config current lastScaleUpEpoch) →
    ∀ (later : Instant) (lastUp : Option Nat), IssuesNoPatch cluster namespaceName
      (evaluate later snapshot config
        (replicasAfter cluster namespaceName current
          (evaluate now snapshot config current lastScaleUpEpoch)) lastUp)

/-- Either the cluster is to be woken with no replicas, or it has been idle for long
enough: this says nothing about the replicas it still has. -/
def Repeats : Prop :=
  config.enabled = true ∧
    ((current = 0 ∧ snapshot.isIdle = false ∧ config.minActiveReplicas < 1) ∨
      (CooldownOver now config lastScaleUpEpoch ∧ IdleForTimeout snapshot config))

/-- The decisions about one snapshot at some readings of the clock, each applied before
the next. -/
def decisions : Int32 → List Instant → List ScaleToZeroAction
  | _, [] => []
  | replicas, reading :: rest =>
    let action := evaluate reading snapshot config replicas lastScaleUpEpoch
    action :: decisions (replicasAfter cluster namespaceName replicas action) rest

variable {cluster namespaceName now snapshot config current lastScaleUpEpoch}

theorem scaleToZero_repeats
    (h : (evaluate now snapshot config current lastScaleUpEpoch).action = .scaleToZero) :
    (evaluate now snapshot config
      (replicasAfter cluster namespaceName current
        (evaluate now snapshot config current lastScaleUpEpoch)) lastScaleUpEpoch).action =
      .scaleToZero := by
  rw [evaluate_scaleToZero_iff] at h ⊢
  exact h

/-- An idle cluster is scaled to zero at every reading after the cooldown, however often
that has been done. -/
theorem decisions_all_scaleToZero (henabled : config.enabled = true)
    (hidle : IdleForTimeout snapshot config) (readings : List Instant)
    (hover : ∀ reading ∈ readings, CooldownOver reading config lastScaleUpEpoch) :
    ∀ action ∈ decisions cluster namespaceName snapshot config lastScaleUpEpoch current readings,
      ¬ IssuesNoPatch cluster namespaceName action := by
  induction readings generalizing current with
  | nil =>
    intro action haction
    cases haction
  | cons reading rest ih =>
    intro action haction
    rw [decisions, List.mem_cons] at haction
    rcases haction with rfl | haction
    · have hzero : (evaluate reading snapshot config current lastScaleUpEpoch).action =
          .scaleToZero :=
        evaluate_scaleToZero_iff.mpr ⟨henabled, hover reading List.mem_cons_self, hidle⟩
      exact not_issuesNoPatch_of_scales (.inl hzero)
    · exact ih (fun r hr => hover r (List.mem_cons_of_mem _ hr)) action haction

theorem not_effective_of_repeats
    (h : Repeats now snapshot config current lastScaleUpEpoch) :
    ¬ Effective cluster namespaceName now snapshot config current lastScaleUpEpoch := by
  intro heffective
  obtain ⟨henabled, ⟨hzero, hbusy, hmin⟩ | ⟨hcooldown, hidle⟩⟩ := h
  · have haction : (evaluate now snapshot config current lastScaleUpEpoch).action = .activate :=
      evaluate_activate_iff.mpr ⟨henabled, hzero, hbusy⟩
    have hone := heffective.activates haction
    rw [evaluate_target_of_activate haction] at hone
    exact absurd hmin (Int32.not_lt.mpr hone)
  · have haction : (evaluate now snapshot config current lastScaleUpEpoch).action =
        .scaleToZero := evaluate_scaleToZero_iff.mpr ⟨henabled, hcooldown, hidle⟩
    exact not_issuesNoPatch_of_scales (.inl (scaleToZero_repeats haction))
      (heffective.settles (.inl haction) now lastScaleUpEpoch)

theorem not_scales_after_activation (hbusy : snapshot.isIdle = false)
    (hmin : ¬ config.minActiveReplicas < 1) (later : Instant) (lastUp : Option Nat) :
    ¬ ScalesReplicas (evaluate later snapshot config config.minActiveReplicas lastUp) := by
  rintro (haction | haction)
  · obtain ⟨-, -, hidle, -⟩ := evaluate_scaleToZero_iff.mp haction
    rw [hbusy] at hidle
    cases hidle
  · obtain ⟨-, hzero, -⟩ := evaluate_activate_iff.mp haction
    rw [hzero] at hmin
    exact hmin (by decide)

theorem effective_of_not_repeats
    (h : ¬ Repeats now snapshot config current lastScaleUpEpoch) :
    Effective cluster namespaceName now snapshot config current lastScaleUpEpoch := by
  have hno : (evaluate now snapshot config current lastScaleUpEpoch).action ≠ .scaleToZero := by
    intro haction
    obtain ⟨henabled, hcooldown, hidle⟩ := evaluate_scaleToZero_iff.mp haction
    exact h ⟨henabled, .inr ⟨hcooldown, hidle⟩⟩
  -- what is left is waking the cluster
  have hwake : ScalesReplicas (evaluate now snapshot config current lastScaleUpEpoch) →
      (evaluate now snapshot config current lastScaleUpEpoch).action = .activate ∧ current = 0 ∧
        snapshot.isIdle = false ∧ ¬ config.minActiveReplicas < 1 := by
    rintro (haction | haction)
    · exact absurd haction hno
    · obtain ⟨henabled, hzero, hbusy⟩ := evaluate_activate_iff.mp haction
      refine ⟨haction, hzero, hbusy, ?_⟩
      intro hmin
      exact h ⟨henabled, .inl ⟨hzero, hbusy, hmin⟩⟩
  refine ⟨?_, ?_, ?_⟩
  · intro hscales heq
    obtain ⟨haction, hzero, -, hmin⟩ := hwake hscales
    rw [evaluate_target_of_activate haction, hzero] at heq
    rw [heq] at hmin
    exact hmin (by decide)
  · intro haction
    obtain ⟨-, -, -, hmin⟩ := hwake (.inr haction)
    rw [evaluate_target_of_activate haction]
    exact Int32.not_lt.mp hmin
  · intro hscales later lastUp
    obtain ⟨haction, -, hbusy, hmin⟩ := hwake hscales
    rw [replicasAfter_of_scales current hscales, evaluate_target_of_activate haction]
    exact issuesNoPatch_of_not_scales (not_scales_after_activation hbusy hmin later lastUp)

end Effects

/-- A decision is effective exactly when it is not one of those that repeat. -/
theorem scale_action_effective_iff (cluster : StreamlineCluster) (namespaceName : String)
    (now : Instant) (snapshot : ClusterActivitySnapshot) (config : ScaleToZeroConfig)
    (current : Int32) (lastScaleUpEpoch : Option Nat) :
    Effective cluster namespaceName now snapshot config current lastScaleUpEpoch ↔
      ¬ Repeats now snapshot config current lastScaleUpEpoch := by
  constructor
  · intro heffective hrepeats
    exact not_effective_of_repeats hrepeats heffective
  · exact effective_of_not_repeats

/-- No traffic for ten minutes. -/
def idleSnapshot : ClusterActivitySnapshot where
  clusterName := "events"
  namespaceName := "streamline"
  messagesPerSecond := .finite false 0 0
  bytesPerSecond := .finite false 0 0
  activeConnections := 0
  consumerLag := 0
  lastActivityAt := "2026-01-01T00:00:00+00:00"
  idleDurationSeconds := 600
  isIdle := true

/-- An idle cluster that has no replicas left is scaled to zero all the same. -/
theorem scale_action_of_sleeping_cluster :
    ¬ ∀ (cluster : StreamlineCluster) (namespaceName : String) (now : Instant)
      (snapshot : ClusterActivitySnapshot) (config : ScaleToZeroConfig) (current : Int32)
      (lastScaleUpEpoch : Option Nat), 0 ≤ current →
        Effective cluster namespaceName now snapshot config current lastScaleUpEpoch := by
  intro heffective
  have hasleep := heffective idleCluster "streamline" ⟨1000, "now"⟩ idleSnapshot
    { enabled := true } 0 none (by decide)
  exact hasleep.changes (.inl (by decide)) (by decide)

end StreamlineOperator.Controllers.ScaleToZeroController
