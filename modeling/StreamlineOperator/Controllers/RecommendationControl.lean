/- source: src/src/controllers/autoscaling.rs (generate_recommendation)
   digest: The recommendation as a controller with thresholds: repeating it, and raising the lag. -/

import StreamlineOperator.Controllers.Recommendation
import StreamlineOperator.Foundation.Thresholds

set_option autoImplicit false
set_option relaxedAutoImplicit false

namespace StreamlineOperator.Controllers

open Foundation
open Foundation.Checked (Exact)
open Foundation.NumberFormat (Value)
open Crd (StreamlineCluster)

/-- The throughput, zero if it is not a number. -/
def PartitionMetrics.rate (metrics : PartitionMetrics .exact) : ℚ :=
  metrics.messagesPerSecond.rational.getD 0

/-- The same figures under another lag. -/
def PartitionMetrics.withLag (metrics : PartitionMetrics .exact) (lag : Int64) :
    PartitionMetrics .exact :=
  { metrics with totalLag := lag }

namespace AutoScalingController

/-- The thresholds and targets that the figures set, for any number of replicas. -/
def control (metrics : PartitionMetrics .exact) (autoscaling : AutoScalingConfig) :
    ThresholdControl ℤ where
  overloaded n := autoscaling.partitionAware && metrics.totalLag > 0 &&
    (autoscaling.targetLagPerPartition.toInt * 2 + 1) * n ≤ metrics.totalLag.toInt
  idle n := autoscaling.partitionAware && metrics.totalLag > 0 &&
    metrics.totalLag.toInt < autoscaling.targetLagPerPartition.toInt / 4 * n
  saturated n := 0 < metrics.rate ∧
    autoscaling.targetMessagesPerSecond.toInt * (3 / 2) * n < metrics.rate
  grown := max (metrics.totalLag.toInt /
    (autoscaling.targetLagPerPartition.toInt * metrics.totalPartitions.toInt)) 1
  shrunk := max ⌈(metrics.totalLag.toInt : ℚ) /
    (autoscaling.targetLagPerPartition.toInt * metrics.totalPartitions.toInt)⌉ 1
  needed := ⌈metrics.rate / autoscaling.targetMessagesPerSecond.toInt⌉
  least := max (metrics.totalPartitions.toInt / 100) 1
  lowest := autoscaling.minReplicas.toInt
  highest := autoscaling.maxReplicas.toInt

/-- The figures of a cluster that has partitions, and of a configuration in order. -/
structure Ordinary (metrics : PartitionMetrics .exact) (autoscaling : AutoScalingConfig) : Prop where
  targetLag : 0 < autoscaling.targetLagPerPartition
  targetRate : 0 < autoscaling.targetMessagesPerSecond
  partitions : 1 ≤ metrics.totalPartitions
  lag : 0 ≤ metrics.totalLag
  lowest : 1 ≤ autoscaling.minReplicas
  limits : autoscaling.minReplicas ≤ autoscaling.maxReplicas

section Control

variable {metrics : PartitionMetrics .exact} {autoscaling : AutoScalingConfig}

private theorem Ordinary.toInt (h : Ordinary metrics autoscaling) :
    0 < autoscaling.targetLagPerPartition.toInt ∧
      0 < autoscaling.targetMessagesPerSecond.toInt ∧ 0 < metrics.totalPartitions.toInt ∧
      0 ≤ metrics.totalLag.toInt ∧ 1 ≤ autoscaling.minReplicas.toInt ∧
      autoscaling.minReplicas.toInt ≤ autoscaling.maxReplicas.toInt :=
  ⟨Int64.lt_iff_toInt_lt.mp h.targetLag, Int64.lt_iff_toInt_lt.mp h.targetRate,
    Int32.le_iff_toInt_le.mp h.partitions, Int64.le_iff_toInt_le.mp h.lag,
    Int32.le_iff_toInt_le.mp h.lowest, Int32.le_iff_toInt_le.mp h.limits⟩

theorem overloaded_iff {n : ℤ} : (control metrics autoscaling).overloaded n = true ↔
    (autoscaling.partitionAware = true ∧ 0 < metrics.totalLag) ∧
      (autoscaling.targetLagPerPartition.toInt * 2 + 1) * n ≤ metrics.totalLag.toInt := by
  simp [control]

theorem idle_iff {n : ℤ} : (control metrics autoscaling).idle n = true ↔
    (autoscaling.partitionAware = true ∧ 0 < metrics.totalLag) ∧
      metrics.totalLag.toInt < autoscaling.targetLagPerPartition.toInt / 4 * n := by
  simp [control]

theorem saturated_iff {n : ℤ} : (control metrics autoscaling).saturated n = true ↔
    0 < metrics.rate ∧
      autoscaling.targetMessagesPerSecond.toInt * (3 / 2) * n < metrics.rate := by
  simp [control]

private theorem quotient_mul_le (h : Ordinary metrics autoscaling) :
    metrics.totalLag.toInt /
          (autoscaling.targetLagPerPartition.toInt * metrics.totalPartitions.toInt) *
        (autoscaling.targetLagPerPartition.toInt * metrics.totalPartitions.toInt) ≤
      metrics.totalLag.toInt := by
  obtain ⟨htarget, -, hpartitions, -⟩ := h.toInt
  exact Int.ediv_mul_le _ (Int.mul_pos htarget hpartitions).ne'

private theorem quotient_le_ceil (h : Ordinary metrics autoscaling) :
    metrics.totalLag.toInt /
        (autoscaling.targetLagPerPartition.toInt * metrics.totalPartitions.toInt) ≤
      ⌈(metrics.totalLag.toInt : ℚ) /
        (autoscaling.targetLagPerPartition.toInt * metrics.totalPartitions.toInt)⌉ := by
  obtain ⟨htarget, -, hpartitions, -⟩ := h.toInt
  have hpositive : (0 : ℚ) < autoscaling.targetLagPerPartition.toInt *
      metrics.totalPartitions.toInt := by
    exact_mod_cast Int.mul_pos htarget hpartitions
  have hbelow : ((metrics.totalLag.toInt /
      (autoscaling.targetLagPerPartition.toInt * metrics.totalPartitions.toInt) : ℤ) : ℚ) ≤
      metrics.totalLag.toInt /
        (autoscaling.targetLagPerPartition.toInt * metrics.totalPartitions.toInt) := by
    rw [le_div_iff₀ hpositive]
    exact_mod_cast quotient_mul_le h
  exact_mod_cast hbelow.trans (Int.le_ceil _)

private theorem overloaded_antitone (h : Ordinary metrics autoscaling) {n m : ℤ} (hle : n ≤ m)
    (hover : (control metrics autoscaling).overloaded m = true) :
    (control metrics autoscaling).overloaded n = true := by
  obtain ⟨htarget, -⟩ := h.toInt
  obtain ⟨hon, hmore⟩ := overloaded_iff.mp hover
  have hscaled := Int.mul_le_mul_of_nonneg_left hle
    (by omega : 0 ≤ autoscaling.targetLagPerPartition.toInt * 2 + 1)
  exact overloaded_iff.mpr ⟨hon, hscaled.trans hmore⟩

private theorem idle_monotone (h : Ordinary metrics autoscaling) {n m : ℤ} (hle : n ≤ m)
    (hidle : (control metrics autoscaling).idle n = true) :
    (control metrics autoscaling).idle m = true := by
  obtain ⟨htarget, -⟩ := h.toInt
  obtain ⟨hon, hless⟩ := idle_iff.mp hidle
  have hscaled := Int.mul_le_mul_of_nonneg_left hle
    (by omega : 0 ≤ autoscaling.targetLagPerPartition.toInt / 4)
  exact idle_iff.mpr ⟨hon, hless.trans_le hscaled⟩

private theorem saturated_antitone (h : Ordinary metrics autoscaling) {n m : ℤ} (hle : n ≤ m)
    (hsaturated : (control metrics autoscaling).saturated m = true) :
    (control metrics autoscaling).saturated n = true := by
  obtain ⟨-, htarget, -⟩ := h.toInt
  obtain ⟨hon, hmore⟩ := saturated_iff.mp hsaturated
  have hlimit : (0 : ℚ) ≤ autoscaling.targetMessagesPerSecond.toInt * (3 / 2) := by
    have hcast : (0 : ℚ) < autoscaling.targetMessagesPerSecond.toInt := by exact_mod_cast htarget
    positivity
  have hcast : (n : ℚ) ≤ m := by exact_mod_cast hle
  have hscaled := mul_le_mul_of_nonneg_left hcast hlimit
  exact saturated_iff.mpr ⟨hon, hscaled.trans_lt hmore⟩

private theorem not_idle_of_overloaded (h : Ordinary metrics autoscaling) {n : ℤ}
    (hover : (control metrics autoscaling).overloaded n = true) :
    (control metrics autoscaling).idle n = false := by
  obtain ⟨htarget, -, -, hlag, -⟩ := h.toInt
  obtain ⟨-, hmore⟩ := overloaded_iff.mp hover
  rw [Bool.eq_false_iff]
  intro hidle
  obtain ⟨-, hless⟩ := idle_iff.mp hidle
  rcases le_or_gt n 0 with hneg | hpos
  · have hscaled := Int.mul_nonpos_of_nonneg_of_nonpos
      (by omega : 0 ≤ autoscaling.targetLagPerPartition.toInt / 4) hneg
    omega
  · have hscaled := Int.mul_le_mul_of_nonneg_right
      (by omega : autoscaling.targetLagPerPartition.toInt / 4 ≤
        autoscaling.targetLagPerPartition.toInt * 2 + 1) hpos.le
    omega

private theorem grown_not_idle (h : Ordinary metrics autoscaling)
    (hmore : (control metrics autoscaling).lowest < (control metrics autoscaling).grown) :
    (control metrics autoscaling).idle (control metrics autoscaling).grown = false := by
  obtain ⟨htarget, -, hpartitions, -, hlowest, -⟩ := h.toInt
  have hquotient := quotient_mul_le h
  have hraised : autoscaling.minReplicas.toInt < max (metrics.totalLag.toInt /
    (autoscaling.targetLagPerPartition.toInt * metrics.totalPartitions.toInt)) 1 := hmore
  have hsame : (control metrics autoscaling).grown = metrics.totalLag.toInt /
      (autoscaling.targetLagPerPartition.toInt * metrics.totalPartitions.toInt) := by
    show max _ _ = _
    omega
  rw [Bool.eq_false_iff]
  intro hidle
  obtain ⟨-, hless⟩ := idle_iff.mp hidle
  rw [hsame] at hless
  have hquarter : autoscaling.targetLagPerPartition.toInt / 4 ≤
      autoscaling.targetLagPerPartition.toInt * metrics.totalPartitions.toInt := by
    have hwhole := Int.mul_le_mul_of_nonneg_left
      (by omega : 1 ≤ metrics.totalPartitions.toInt) htarget.le
    omega
  have hscaled := Int.mul_le_mul_of_nonneg_right hquarter
    (by omega : 0 ≤ metrics.totalLag.toInt /
      (autoscaling.targetLagPerPartition.toInt * metrics.totalPartitions.toInt))
  rw [Int.mul_comm (_ * _)] at hscaled
  omega

private theorem lt_needed (h : Ordinary metrics autoscaling) {n : ℤ}
    (hsaturated : (control metrics autoscaling).saturated n = true) :
    n < (control metrics autoscaling).needed := by
  obtain ⟨-, htarget, -⟩ := h.toInt
  obtain ⟨hpos, hmore⟩ := saturated_iff.mp hsaturated
  have hcast : (0 : ℚ) < autoscaling.targetMessagesPerSecond.toInt := by exact_mod_cast htarget
  apply Int.lt_ceil.mpr
  rw [lt_div_iff₀ hcast]
  rcases le_or_gt n 0 with hneg | hnpos
  · have hneg' : (n : ℚ) ≤ 0 := by exact_mod_cast hneg
    exact (mul_nonpos_of_nonpos_of_nonneg hneg' hcast.le).trans_lt hpos
  · have hnpos' : (0 : ℚ) < n := by exact_mod_cast hnpos
    have hproduct := mul_pos hnpos' hcast
    linarith

theorem control_lawful (h : Ordinary metrics autoscaling) :
    (control metrics autoscaling).Lawful where
  overloaded_antitone := overloaded_antitone h
  idle_monotone := idle_monotone h
  saturated_antitone := saturated_antitone h
  not_idle := not_idle_of_overloaded h
  grown_le_shrunk := max_le_max_right 1 (quotient_le_ceil h)
  grown_not_idle := grown_not_idle h
  lt_needed := lt_needed h
  lowest_le_highest := Int32.le_iff_toInt_le.mp h.limits

end Control

/-! The recommendation is a step of the controller. -/

section Steps

variable {metrics : PartitionMetrics .exact} {autoscaling : AutoScalingConfig}
variable {currentReplicas : Int32} {draft draft' : Draft}

private theorem exact_scaleDownForLag {targetLag : Int64} (htarget : 0 < targetLag.toInt)
    (hlag : 0 ≤ metrics.totalLag.toInt)
    (h : Exact (scaleDownForLag metrics targetLag draft) draft') :
    draft'.recommended.toInt = min draft.recommended.toInt
      (max ⌈(metrics.totalLag.toInt : ℚ) / targetLag.toInt⌉ 1) := by
  have htargetTop := targetLag.toInt_lt
  have hlagTop := metrics.totalLag.toInt_lt
  have hcast : (targetLag.toInt : ℚ) ≠ 0 := by exact_mod_cast htarget.ne'
  have hquotient : ((Value.ofInt metrics.totalLag.toInt : NumberFormat.exact.Value).div
      (Value.ofInt targetLag.toInt)).rational =
        some ((metrics.totalLag.toInt : ℚ) / targetLag.toInt) := by
    rw [Value.div_eq (Value.rational_ofInt hlag (by omega))
      (Value.rational_ofInt htarget.le (by omega)) hcast]
    rfl
  simp only [scaleDownForLag, Checked.exact_bind, exact_ceilAsInt32, Checked.exact_pure] at h
  obtain ⟨needed, ⟨q, hq, hneeded⟩, rfl⟩ := h
  obtain rfl := Option.some.inj (hquotient.symm.trans hq)
  have hone : (1 : Int32).toInt = 1 := rfl
  rw [recommended_lower, toInt_max32, hone, hneeded]

theorem recommended_checkLag (hordinary : Ordinary metrics autoscaling)
    (hreplicas : 0 < currentReplicas.toInt) (hdraft : draft.recommended = currentReplicas)
    (h : Exact (checkLag metrics autoscaling currentReplicas draft) draft') :
    draft'.recommended.toInt =
      (control metrics autoscaling).afterLoad currentReplicas.toInt := by
  obtain ⟨htarget, -, hpartitions, hlag, -⟩ := hordinary.toInt
  rw [ThresholdControl.afterLoad]
  by_cases hon : autoscaling.partitionAware = true ∧ 0 < metrics.totalLag
  · have hhigh : autoscaling.targetLagPerPartition.toInt * 2 <
        metrics.totalLag.toInt / currentReplicas.toInt ↔
        (control metrics autoscaling).overloaded currentReplicas.toInt = true := by
      rw [overloaded_iff, and_iff_right hon, ← Int.le_ediv_iff_mul_le hreplicas]
      omega
    have hlow : metrics.totalLag.toInt / currentReplicas.toInt <
          autoscaling.targetLagPerPartition.toInt / 4 ∧
        autoscaling.minReplicas < draft.recommended ↔
        (control metrics autoscaling).idle currentReplicas.toInt = true ∧
          (control metrics autoscaling).lowest < currentReplicas.toInt := by
      rw [idle_iff, and_iff_right hon, Int.ediv_lt_iff_lt_mul hreplicas, hdraft,
        Int32.lt_iff_toInt_lt]
      rfl
    obtain ⟨targetLag, htargetLag, -, h⟩ := (exact_checkLag hreplicas htarget.le hon.1 hon.2).mp h
    have hproduct : 0 < targetLag.toInt := htargetLag ▸ Int.mul_pos htarget hpartitions
    split at h
    · rename_i habove
      obtain ⟨-, -, hrecommended⟩ := exact_scaleUpForLag h
      rw [if_pos (hhigh.mp habove), hrecommended, hdraft, htargetLag,
        Int.tdiv_eq_ediv_of_nonneg hlag]
      rfl
    · rename_i habove
      rw [if_neg (hhigh.not.mp habove)]
      split at h
      · rename_i hbelow
        rw [if_pos (hlow.mp hbelow), exact_scaleDownForLag hproduct hlag h, hdraft, htargetLag]
        push_cast
        rfl
      · rename_i hbelow
        rw [if_neg (hlow.not.mp hbelow), ← h, hdraft]
  · have hskipped : ¬ (autoscaling.partitionAware && metrics.totalLag > 0) = true := by
      simpa using hon
    rw [checkLag, if_neg hskipped, Checked.exact_pure] at h
    rw [if_neg (fun hover => hon (overloaded_iff.mp hover).1),
      if_neg (fun hidle => hon (idle_iff.mp hidle.1).1), ← h, hdraft]

private theorem infinite_div {n : ℤ} (h : 0 < n) :
    (Value.infinite false : NumberFormat.exact.Value).div (Value.ofInt n) = .infinite false := by
  have hcast : ¬ (n : ℚ) < 0 := by
    rw [not_lt]
    exact_mod_cast h.le
  show Value.infinite (false != decide ((n : ℚ) < 0)) = .infinite false
  rw [decide_eq_false hcast]
  rfl

private theorem not_exact_infinite (hordinary : Ordinary metrics autoscaling)
    (hreplicas : 0 < currentReplicas.toInt) (hrate : metrics.messagesPerSecond = .infinite false) :
    ¬ Exact (checkThroughput metrics autoscaling currentReplicas draft) draft' := by
  obtain ⟨-, htarget, -⟩ := hordinary.toInt
  intro h
  have hpositive : (Value.ofInt 0 : NumberFormat.exact.Value).less (.infinite false) = true := rfl
  have hbusy : ((Value.ofInt autoscaling.targetMessagesPerSecond.toInt :
      NumberFormat.exact.Value).mul (Value.ofRat (3 / 2))).less (.infinite false) = true := rfl
  simp only [checkThroughput, hrate, infinite_div hreplicas, infinite_div htarget, hpositive, hbusy,
    if_true, Checked.exact_bind, exact_ceilAsInt32] at h
  obtain ⟨needed, ⟨q, hq, -⟩, -⟩ := h
  cases hq

private theorem kept_of_not_finite (hordinary : Ordinary metrics autoscaling)
    (hreplicas : 0 < currentReplicas.toInt) (hvalue : metrics.messagesPerSecond.rational = none)
    (h : Exact (checkThroughput metrics autoscaling currentReplicas draft) draft') :
    draft' = draft := by
  have hskipped : checkThroughput metrics autoscaling currentReplicas draft = pure draft := by
    cases hm : metrics.messagesPerSecond with
    | finite number =>
      rw [hm] at hvalue
      cases hvalue
    | infinite negative =>
      cases negative with
      | true =>
        rw [checkThroughput, hm]
        rfl
      | false => exact absurd h (not_exact_infinite hordinary hreplicas hm)
    | nan =>
      rw [checkThroughput, hm]
      rfl
  rw [hskipped, Checked.exact_pure] at h
  exact h.symm

theorem recommended_checkThroughput (hordinary : Ordinary metrics autoscaling)
    (hreplicas : 0 < currentReplicas.toInt)
    (h : Exact (checkThroughput metrics autoscaling currentReplicas draft) draft') :
    draft'.recommended.toInt =
      if (control metrics autoscaling).saturated currentReplicas.toInt = true then
        max draft.recommended.toInt (control metrics autoscaling).needed
      else draft.recommended.toInt := by
  obtain ⟨-, htarget, -⟩ := hordinary.toInt
  cases hvalue : metrics.messagesPerSecond.rational with
  | some rate =>
    have hrate : metrics.rate = rate := by rw [PartitionMetrics.rate, hvalue, Option.getD_some]
    by_cases hpos : 0 < rate
    · have hcast : (0 : ℚ) < currentReplicas.toInt := by exact_mod_cast hreplicas
      have hbusy : rateLimit .exact autoscaling.targetMessagesPerSecond <
          brokerRate .exact rate currentReplicas ↔
          (control metrics autoscaling).saturated currentReplicas.toInt = true := by
        rw [saturated_iff, hrate, ← lt_div_iff₀ hcast]
        exact (and_iff_right hpos).symm
      by_cases hsaturated : (control metrics autoscaling).saturated currentReplicas.toInt = true
      · obtain ⟨-, -, hrecommended⟩ := exact_checkThroughput hvalue hpos hreplicas htarget.le
          (hbusy.mpr hsaturated) h
        rw [if_pos hsaturated, hrecommended]
        show max _ ⌈_⌉ = max _ ⌈_⌉
        rw [hrate]
        rfl
      · rw [checkThroughput_eq hvalue hpos hreplicas htarget.le,
          if_neg (hbusy.not.mpr hsaturated), Checked.exact_pure] at h
        rw [if_neg hsaturated, h]
    · rw [checkThroughput_of_nonpos hvalue (not_lt.mp hpos), Checked.exact_pure] at h
      have hunsaturated : ¬ (control metrics autoscaling).saturated currentReplicas.toInt = true :=
        fun hsaturated => hpos (hrate ▸ (saturated_iff.mp hsaturated).1)
      rw [if_neg hunsaturated, h]
  | none =>
    have hrate : metrics.rate = 0 := by rw [PartitionMetrics.rate, hvalue, Option.getD_none]
    have hunsaturated : ¬ (control metrics autoscaling).saturated currentReplicas.toInt = true :=
      fun hsaturated => hrate.symm.not_lt (saturated_iff.mp hsaturated).1
    rw [if_neg hunsaturated, kept_of_not_finite hordinary hreplicas hvalue h]

/-- A recommendation that loses nothing is the next size of the controller. -/
theorem recommended_eq_next {now : String} {cluster : StreamlineCluster}
    {recommendation : ScalingRecommendation} (hordinary : Ordinary metrics autoscaling)
    (hreplicas : 1 ≤ cluster.spec.replicas)
    (h : Exact (generateRecommendation now cluster metrics autoscaling) recommendation) :
    recommendation.recommendedReplicas.toInt =
      (control metrics autoscaling).next cluster.spec.replicas.toInt := by
  obtain ⟨-, -, hpartitions, -⟩ := hordinary.toInt
  have hpositive : 0 < cluster.spec.replicas.toInt := Int32.le_iff_toInt_le.mp hreplicas
  simp only [generateRecommendation, Checked.exact_bind, Checked.exact_pure] at h
  obtain ⟨draft, hlag, draft', hrate, draft'', hfloor, rfl⟩ := h
  have hload := recommended_checkLag hordinary hpositive rfl hlag
  have hdemand := recommended_checkThroughput hordinary hpositive hrate
  have hleast := exact_checkPartitions hpartitions hfloor
  rw [hload] at hdemand
  have hafter : draft'.recommended.toInt =
      (control metrics autoscaling).afterRate cluster.spec.replicas.toInt := hdemand
  rw [conclude, toInt_min32, toInt_max32, hleast, hafter]
  rfl

end Steps

/-- Repeating a recommendation on the same figures changes nothing exactly when
the first one neither shrinks nor grows too far. -/
theorem recommendation_steady_iff (now now' : String) (cluster : StreamlineCluster)
    (metrics : PartitionMetrics .exact) (autoscaling : AutoScalingConfig)
    (first second : ScalingRecommendation) (hreplicas : 1 ≤ cluster.spec.replicas)
    (hordinary : Ordinary metrics autoscaling)
    (hfirst : Exact (generateRecommendation now cluster metrics autoscaling) first)
    (hsecond : Exact (generateRecommendation now'
      { cluster with spec := { cluster.spec with replicas := first.recommendedReplicas } }
      metrics autoscaling) second) :
    second.recommendedReplicas = first.recommendedReplicas ↔
      ¬ (control metrics autoscaling).ShrinksTooFar cluster.spec.replicas.toInt ∧
        ¬ (control metrics autoscaling).GrowsTooFar cluster.spec.replicas.toInt := by
  have hlawful := control_lawful hordinary
  have hnext := recommended_eq_next hordinary hreplicas hfirst
  have hvalid : 1 ≤ first.recommendedReplicas := by
    obtain ⟨-, -, -, -, hlowest, -⟩ := hordinary.toInt
    obtain ⟨hbound, -⟩ := ThresholdControl.next_bounds hlawful cluster.spec.replicas.toInt
    rw [← hnext] at hbound
    exact Int32.le_iff_toInt_le.mpr (hlowest.trans hbound)
  have hnext' := recommended_eq_next hordinary hvalid hsecond
  rw [← ThresholdControl.next_next_eq_iff hlawful, ← hnext, ← hnext', Int32.toInt_inj]

private def clusterOf (replicas : Int32) : StreamlineCluster where
  metadata := { name := some "events" }
  spec := { replicas := replicas }
  status := none

private def smallTargets : AutoScalingConfig where
  minReplicas := 1
  maxReplicas := 10
  partitionAware := true
  targetLagPerPartition := 8
  targetMessagesPerSecond := 10

private def onePartition (lag : Int64) (rate : ℤ) : PartitionMetrics .exact where
  totalPartitions := 1
  totalLag := lag
  messagesPerSecond := Value.ofInt rate

private theorem ordinary_onePartition {lag : Int64} (rate : ℤ) (h : 0 ≤ lag) :
    Ordinary (onePartition lag rate) smallTargets where
  targetLag := by decide
  targetRate := by decide
  partitions := Int32.le_refl 1
  lag := h
  lowest := by decide
  limits := by decide

/-- A lag of one does not need the ten brokers of before. -/
private def recommendOne : ScalingRecommendation :=
  conclude "now" smallTargets 10
    { recommended := 1, reasons := ["Low consumer lag: 1. Target: 8"],
      triggering := ["consumer_lag"] }

/-- The thirty messages per second do not go through one broker. -/
private def recommendThree : ScalingRecommendation :=
  conclude "now" smallTargets 1
    { recommended := 3, reasons := ["High throughput: 30 msg/s per broker. Target: 10"],
      triggering := ["messages_per_second"] }

private theorem exact_recommendOne :
    Exact (generateRecommendation "now" (clusterOf 10) (onePartition 1 30) smallTargets)
      recommendOne := by
  unfold Exact
  with_unfolding_all rfl

private theorem exact_recommendThree :
    Exact (generateRecommendation "now" (clusterOf 1) (onePartition 1 30) smallTargets)
      recommendThree := by
  unfold Exact
  with_unfolding_all rfl

theorem recommendation_steady_iff_ten :
    recommendThree.recommendedReplicas = recommendOne.recommendedReplicas ↔
      ¬ (control (onePartition 1 30) smallTargets).ShrinksTooFar (10 : Int32).toInt ∧
        ¬ (control (onePartition 1 30) smallTargets).GrowsTooFar (10 : Int32).toInt :=
  recommendation_steady_iff "now" "now" (clusterOf 10) (onePartition 1 30) smallTargets recommendOne
    recommendThree (by decide) (ordinary_onePartition 30 (by decide)) exact_recommendOne
    exact_recommendThree

/-- Ten brokers are shrunk to one for the lag, and the one is raised to three for
the throughput. -/
theorem steady_load_is_resized :
    ¬ ∀ (now now' : String) (cluster : StreamlineCluster) (metrics : PartitionMetrics .exact)
        (autoscaling : AutoScalingConfig) (rate : ℚ) (first second : ScalingRecommendation),
      1 ≤ cluster.spec.replicas → Ordinary metrics autoscaling →
      metrics.messagesPerSecond.rational = some rate → 0 ≤ rate →
      Exact (generateRecommendation now cluster metrics autoscaling) first →
      Exact (generateRecommendation now'
        { cluster with spec := { cluster.spec with replicas := first.recommendedReplicas } }
        metrics autoscaling) second →
        second.recommendedReplicas = first.recommendedReplicas := by
  intro h
  have hsame := h "now" "now" (clusterOf 10) (onePartition 1 30) smallTargets 30 recommendOne
    recommendThree (by decide) (ordinary_onePartition 30 (by decide)) rfl (by norm_num)
    exact_recommendOne exact_recommendThree
  exact absurd hsame (by decide)

section MoreLag

variable {metrics : PartitionMetrics .exact} {autoscaling : AutoScalingConfig} {lag : Int64}

private theorem ordinary_withLag (h : Ordinary metrics autoscaling)
    (hle : metrics.totalLag ≤ lag) : Ordinary (metrics.withLag lag) autoscaling :=
  ⟨h.targetLag, h.targetRate, h.partitions, Int64.le_trans h.lag hle, h.lowest, h.limits⟩

private theorem sameDemand_withLag :
    ThresholdControl.SameDemand (control metrics autoscaling)
      (control (metrics.withLag lag) autoscaling) :=
  ⟨rfl, rfl, rfl, rfl, rfl⟩

private theorem moreLoad_withLag (h : Ordinary metrics autoscaling)
    (hpositive : 0 < metrics.totalLag) (hle : metrics.totalLag ≤ lag) :
    ThresholdControl.MoreLoad (control metrics autoscaling)
      (control (metrics.withLag lag) autoscaling) := by
  obtain ⟨htarget, -, hpartitions, -⟩ := h.toInt
  have hle' : metrics.totalLag.toInt ≤ lag.toInt := Int64.le_iff_toInt_le.mp hle
  have hproduct := Int.mul_pos htarget hpartitions
  have hcast : (0 : ℚ) ≤ autoscaling.targetLagPerPartition.toInt *
      metrics.totalPartitions.toInt := by
    exact_mod_cast hproduct.le
  exact
    { overloaded := by
        intro n hover
        obtain ⟨⟨haware, -⟩, hmore⟩ := overloaded_iff.mp hover
        exact overloaded_iff.mpr ⟨⟨haware, Int64.lt_of_lt_of_le hpositive hle⟩, hmore.trans hle'⟩
      idle := by
        intro n hidle
        obtain ⟨⟨haware, -⟩, hless⟩ := idle_iff.mp hidle
        exact idle_iff.mpr ⟨⟨haware, hpositive⟩, hle'.trans_lt hless⟩
      grown_le := max_le_max_right 1 (Int.ediv_le_ediv hproduct hle')
      shrunk_le := by
        have hlag : (metrics.totalLag.toInt : ℚ) ≤ lag.toInt := by exact_mod_cast hle'
        exact max_le_max_right 1 (Int.ceil_le_ceil (div_le_div_of_nonneg_right hlag hcast)) }

end MoreLag

/-- More lag leads to no fewer replicas, unless there was none before and the lag
that has come is low enough to shrink the cluster. -/
theorem recommendation_monotone_iff (now now' : String) (cluster : StreamlineCluster)
    (metrics : PartitionMetrics .exact) (lag : Int64) (autoscaling : AutoScalingConfig)
    (first second : ScalingRecommendation) (hreplicas : 1 ≤ cluster.spec.replicas)
    (hordinary : Ordinary metrics autoscaling) (hle : metrics.totalLag ≤ lag)
    (hfirst : Exact (generateRecommendation now cluster metrics autoscaling) first)
    (hsecond : Exact (generateRecommendation now' cluster (metrics.withLag lag) autoscaling)
      second) :
    first.recommendedReplicas ≤ second.recommendedReplicas ↔
      ¬ (metrics.totalLag = 0 ∧
        (control (metrics.withLag lag) autoscaling).Shrinks cluster.spec.replicas.toInt ∧
        (control (metrics.withLag lag) autoscaling).demanded cluster.spec.replicas.toInt <
          cluster.spec.replicas.toInt ∧
        max (control (metrics.withLag lag) autoscaling).shrunk
            ((control (metrics.withLag lag) autoscaling).demanded cluster.spec.replicas.toInt) <
          (control (metrics.withLag lag) autoscaling).highest) := by
  have hordinary' := ordinary_withLag hordinary hle
  have hlawful := control_lawful hordinary
  have hlawful' := control_lawful hordinary'
  rw [Int32.le_iff_toInt_le, recommended_eq_next hordinary hreplicas hfirst,
    recommended_eq_next hordinary' hreplicas hsecond]
  by_cases hnone : metrics.totalLag = 0
  · have hunwatched : ¬ 0 < metrics.totalLag := by
      rw [hnone]
      exact Int64.lt_irrefl
    have hover : (control metrics autoscaling).overloaded cluster.spec.replicas.toInt = false := by
      rw [Bool.eq_false_iff]
      exact fun hover => hunwatched (overloaded_iff.mp hover).1.2
    have hidle : (control metrics autoscaling).idle cluster.spec.replicas.toInt = false := by
      rw [Bool.eq_false_iff]
      exact fun hidle => hunwatched (idle_iff.mp hidle).1.2
    rw [ThresholdControl.next_le_next_iff_of_unloaded sameDemand_withLag hlawful' hover hidle]
    simp only [hnone, true_and]
  · have hpositive : 0 < metrics.totalLag :=
      Int64.lt_of_le_of_ne hordinary.lag (fun heq => hnone heq.symm)
    refine iff_of_true ?_ (fun hall => hnone hall.1)
    exact (moreLoad_withLag hordinary hpositive hle).next_le sameDemand_withLag hlawful hlawful' _

/-- Five brokers stay as long as there is no lag at all. -/
private def keepFive : ScalingRecommendation :=
  conclude "now" smallTargets 5 { recommended := 5 }

private def recommendOneOfFive : ScalingRecommendation :=
  conclude "now" smallTargets 5
    { recommended := 1, reasons := ["Low consumer lag: 1. Target: 8"],
      triggering := ["consumer_lag"] }

private theorem exact_keepFive :
    Exact (generateRecommendation "now" (clusterOf 5) (onePartition 0 0) smallTargets)
      keepFive := by
  unfold Exact
  with_unfolding_all rfl

private theorem exact_recommendOneOfFive :
    Exact (generateRecommendation "now" (clusterOf 5) (onePartition 1 0) smallTargets)
      recommendOneOfFive := by
  unfold Exact
  with_unfolding_all rfl

theorem recommendation_monotone_iff_one :
    keepFive.recommendedReplicas ≤ recommendOneOfFive.recommendedReplicas ↔
      ¬ ((onePartition 0 0).totalLag = 0 ∧
        (control (onePartition 1 0) smallTargets).Shrinks (5 : Int32).toInt ∧
        (control (onePartition 1 0) smallTargets).demanded (5 : Int32).toInt <
          (5 : Int32).toInt ∧
        max (control (onePartition 1 0) smallTargets).shrunk
            ((control (onePartition 1 0) smallTargets).demanded (5 : Int32).toInt) <
          (control (onePartition 1 0) smallTargets).highest) :=
  recommendation_monotone_iff "now" "now" (clusterOf 5) (onePartition 0 0) 1 smallTargets keepFive
    recommendOneOfFive (by decide) (ordinary_onePartition 0 (by decide)) (by decide) exact_keepFive
    exact_recommendOneOfFive

private def recommendSix : ScalingRecommendation :=
  conclude "now" smallTargets 1
    { recommended := 6, reasons := ["High consumer lag: 48. Target: 8"],
      triggering := ["consumer_lag"] }

private theorem exact_recommendSix :
    Exact (generateRecommendation "now" (clusterOf 1) (onePartition 48 0) smallTargets)
      recommendSix := by
  unfold Exact
  with_unfolding_all rfl

private theorem narrowed_recommendation :
    generateRecommendation "now" (clusterOf 1) (onePartition 34359738368 0) smallTargets =
      .value (conclude "now" smallTargets 1 { recommended := 1 }) [.narrowing] := by
  with_unfolding_all rfl

/-- The first message of lag shrinks five brokers to one. Among lags that are there,
one too large for the number of brokers wraps around. -/
theorem more_lag_may_shrink :
    (¬ ∀ (now now' : String) (cluster : StreamlineCluster) (metrics : PartitionMetrics .exact)
        (lag : Int64) (autoscaling : AutoScalingConfig) (first second : ScalingRecommendation),
      1 ≤ cluster.spec.replicas → autoscaling.partitionAware = true →
      Ordinary metrics autoscaling → metrics.totalLag ≤ lag →
      Exact (generateRecommendation now cluster metrics autoscaling) first →
      Exact (generateRecommendation now' cluster (metrics.withLag lag) autoscaling) second →
        first.recommendedReplicas ≤ second.recommendedReplicas) ∧
    (¬ ∀ (now now' : String) (cluster : StreamlineCluster) (metrics : PartitionMetrics .exact)
        (lag : Int64) (autoscaling : AutoScalingConfig) (first second : ScalingRecommendation)
        (incidents : List Incident),
      1 ≤ cluster.spec.replicas → autoscaling.partitionAware = true →
      Ordinary metrics autoscaling → 0 < metrics.totalLag → metrics.totalLag ≤ lag →
      Exact (generateRecommendation now cluster metrics autoscaling) first →
      generateRecommendation now' cluster (metrics.withLag lag) autoscaling =
        .value second incidents → .overflow ∉ incidents →
        first.recommendedReplicas ≤ second.recommendedReplicas) := by
  constructor
  · intro h
    have hmore := h "now" "now" (clusterOf 5) (onePartition 0 0) 1 smallTargets keepFive
      recommendOneOfFive (by decide) rfl (ordinary_onePartition 0 (by decide)) (by decide)
      exact_keepFive exact_recommendOneOfFive
    exact absurd hmore (by decide)
  · intro h
    have hmore := h "now" "now" (clusterOf 1) (onePartition 48 0) 34359738368 smallTargets
      recommendSix (conclude "now" smallTargets 1 { recommended := 1 }) [.narrowing] (by decide) rfl
      (ordinary_onePartition 0 (by decide)) (by decide) (by decide) exact_recommendSix
      narrowed_recommendation (by decide)
    exact absurd hmore (by decide)

end AutoScalingController

end StreamlineOperator.Controllers
