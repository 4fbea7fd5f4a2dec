/- source: src/src/controllers/autoscaling.rs (generate_recommendation), src/src/crd/cluster.rs (validate)
   digest: On which figures the recommendation of an accepted cluster is total and loses nothing. -/

import StreamlineOperator.Controllers.Recommendation
import StreamlineOperator.Crd.Cluster

set_option autoImplicit false
set_option relaxedAutoImplicit false

namespace StreamlineOperator.Controllers

open Foundation
open Foundation.Checked (Exact Lossless)
open Foundation.NumberFormat (Value)
open Crd (StreamlineCluster ClusterSpec)

namespace AutoScalingController

variable {format : NumberFormat}

/-- The lag and its targets fit: the products do, and a lag above twice the
target is divided by partitions that are there, into brokers that can be counted. -/
structure LagInRange (metrics : PartitionMetrics format) (autoscaling : AutoScalingConfig) :
    Prop where
  targetLag : autoscaling.targetLagPerPartition.toInt * metrics.totalPartitions.toInt ≤
    9223372036854775807
  highLag : autoscaling.targetLagPerPartition.toInt * 2 ≤ 9223372036854775807
  brokers : autoscaling.targetLagPerPartition.toInt * 2 < metrics.totalLag.toInt →
    0 < autoscaling.targetLagPerPartition.toInt * metrics.totalPartitions.toInt ∧
      metrics.totalLag.toInt /
        (autoscaling.targetLagPerPartition.toInt * metrics.totalPartitions.toInt) ≤ 2147483647

/-- The figures on which nothing is lost. -/
structure WithinRange (metrics : PartitionMetrics format) (autoscaling : AutoScalingConfig)
    (rate : ℚ) : Prop where
  lag : autoscaling.partitionAware = true → 0 < metrics.totalLag.toInt →
    LagInRange metrics autoscaling
  rate : 0 < rate → 0 < autoscaling.targetMessagesPerSecond.toInt ∧
    format.round (rate / format.round autoscaling.targetMessagesPerSecond.toInt) ≤ 2147483647

section Lag

variable {metrics : PartitionMetrics format} {autoscaling : AutoScalingConfig} {draft : Draft}

theorem lossless_checkLag_iff (hdraft : draft.recommended = 1)
    (hlowest : 1 ≤ autoscaling.minReplicas) (htarget : 0 ≤ autoscaling.targetLagPerPartition)
    (hpartitions : 0 ≤ metrics.totalPartitions) (haware : autoscaling.partitionAware = true)
    (hlag : 0 < metrics.totalLag) :
    Lossless (checkLag metrics autoscaling 1 draft) ↔ LagInRange metrics autoscaling := by
  have hlagInt : 0 < metrics.totalLag.toInt := Int64.lt_iff_toInt_lt.mp hlag
  have htargetInt : 0 ≤ autoscaling.targetLagPerPartition.toInt := Int64.le_iff_toInt_le.mp htarget
  have hpartitionsInt : 0 ≤ metrics.totalPartitions.toInt := Int32.le_iff_toInt_le.mp hpartitions
  have hproduct := Int.mul_nonneg htargetInt hpartitionsInt
  have hbroker : 0 < (1 : Int32).toInt := by decide
  have hone : (1 : Int32).toInt = 1 := rfl
  have hkeeps : ¬ autoscaling.minReplicas < draft.recommended := by
    rw [hdraft]
    exact Int32.not_lt.mpr hlowest
  have hquotient : ∀ {targetLag : Int64}, targetLag.toInt =
      autoscaling.targetLagPerPartition.toInt * metrics.totalPartitions.toInt →
      metrics.totalLag.toInt.tdiv targetLag.toInt = metrics.totalLag.toInt /
        (autoscaling.targetLagPerPartition.toInt * metrics.totalPartitions.toInt) := by
    intro targetLag htargetLag
    rw [Int.tdiv_eq_ediv_of_nonneg hlagInt.le, htargetLag]
  unfold Lossless
  simp only [exact_checkLag hbroker htargetInt haware hlag, hone, Int.ediv_one]
  constructor
  · rintro ⟨draft', targetLag, htargetLag, hhighLag, hrest⟩
    have htargetLagTop := targetLag.toInt_lt
    refine ⟨by omega, hhighLag, ?_⟩
    intro habove
    rw [if_pos habove] at hrest
    obtain ⟨hnonzero, hfits, -⟩ := exact_scaleUpForLag hrest
    have hne : targetLag.toInt ≠ 0 := by
      intro hzero
      exact hnonzero (Int64.toInt_inj.mp hzero)
    rw [hquotient htargetLag] at hfits
    omega
  · rintro ⟨htargetLag, hhighLag, hbrokers⟩
    obtain ⟨targetLag, htargetLag'⟩ := exists_int64 (by omega) htargetLag
    by_cases habove : autoscaling.targetLagPerPartition.toInt * 2 < metrics.totalLag.toInt
    · obtain ⟨hpositive, hfits⟩ := hbrokers habove
      have hnonneg := Int.ediv_nonneg hlagInt.le hproduct
      have hnonzero : targetLag ≠ 0 := by
        rintro rfl
        rw [← htargetLag'] at hpositive
        exact absurd hpositive (by decide)
      obtain ⟨draft', hexact⟩ : Lossless (scaleUpForLag metrics targetLag draft) := by
        apply lossless_scaleUpForLag hnonzero
        · rw [hquotient htargetLag']
          exact hnonneg
        · rw [hquotient htargetLag']
          exact hfits
      refine ⟨draft', targetLag, htargetLag', hhighLag, ?_⟩
      rwa [if_pos habove]
    · refine ⟨draft, targetLag, htargetLag', hhighLag, ?_⟩
      rw [if_neg habove, if_neg (fun hlow => hkeeps hlow.2)]

end Lag

section Rate

variable {metrics : PartitionMetrics format} {autoscaling : AutoScalingConfig} {draft : Draft}
variable {rate : ℚ}

private theorem brokerRate_one (hrate : metrics.messagesPerSecond.rational = some rate) :
    brokerRate format rate 1 = rate := by
  have hone : (1 : Int32).toInt = 1 := rfl
  rw [brokerRate, hone, Int.cast_one, div_one, (Value.round_of_rational hrate).1]

theorem rateLimit_lt {targetRate : Int64} (hrate : metrics.messagesPerSecond.rational = some rate)
    (hpos : 0 < rate) (htarget : 0 ≤ targetRate.toInt)
    (hlarge : targetRate.toInt = 0 ∨
      2147483647 < format.round (rate / format.round targetRate.toInt)) :
    rateLimit format targetRate < brokerRate format rate 1 := by
  rw [brokerRate_one hrate]
  have hcast : (0 : ℚ) ≤ targetRate.toInt := by exact_mod_cast htarget
  have hnonneg := format.round_nonneg hcast
  rcases hlarge with hzero | hlarge
  · rw [rateLimit, hzero, Int.cast_zero, format.round_zero, zero_mul, format.round_zero]
    exact hpos
  · by_contra hbelow
    rw [not_lt] at hbelow
    -- Rounding at most doubles, so the rate is at most six times its target.
    have hfactor := @NumberFormat.round_le_double format (3 / 2) (by norm_num)
    have hfactor' := @NumberFormat.round_nonneg format (3 / 2) (by norm_num)
    have hlimit := format.round_le_double (mul_nonneg hnonneg hfactor')
    have hproduct := mul_le_mul_of_nonneg_left hfactor hnonneg
    have hrateBound : rate ≤ 6 * format.round targetRate.toInt := by
      rw [rateLimit] at hbelow
      linarith
    have hpositive : 0 < format.round targetRate.toInt := by linarith
    have hquotient : rate / format.round targetRate.toInt ≤ 6 :=
      (div_le_iff₀ hpositive).mpr hrateBound
    have hrounded := format.round_mono (div_nonneg hpos.le hpositive.le) hquotient
    have hsix : format.round 6 = 6 := by
      exact_mod_cast @NumberFormat.round_natCast format 6 (by norm_num)
    rw [hsix] at hrounded
    linarith

theorem lossless_checkThroughput_iff (hrate : metrics.messagesPerSecond.rational = some rate)
    (htarget : 0 ≤ autoscaling.targetMessagesPerSecond.toInt) :
    Lossless (checkThroughput metrics autoscaling 1 draft) ↔
      (0 < rate → 0 < autoscaling.targetMessagesPerSecond.toInt ∧
        format.round (rate / format.round autoscaling.targetMessagesPerSecond.toInt) ≤
          2147483647) := by
  have hone : 0 < (1 : Int32).toInt := by decide
  have hcount : brokersForRate format rate autoscaling.targetMessagesPerSecond ≤ 2147483647 ↔
      format.round (rate / format.round autoscaling.targetMessagesPerSecond.toInt) ≤
        2147483647 := by
    rw [brokersForRate, Int.ceil_le]
    norm_cast
  by_cases hpos : 0 < rate
  · constructor
    · rintro ⟨draft', hexact⟩ -
      by_cases hbusy : rateLimit format autoscaling.targetMessagesPerSecond <
          brokerRate format rate 1
      · obtain ⟨hpositive, hfits, -⟩ := exact_checkThroughput hrate hpos hone htarget hbusy hexact
        exact ⟨hpositive, hcount.mp hfits⟩
      · by_contra hnone
        apply hbusy
        apply rateLimit_lt hrate hpos htarget
        by_cases hzero : autoscaling.targetMessagesPerSecond.toInt = 0
        · exact .inl hzero
        · right
          by_contra hsmall
          exact hnone ⟨by omega, not_lt.mp hsmall⟩
    · intro hin
      obtain ⟨hpositive, hfits⟩ := hin hpos
      exact lossless_checkThroughput hrate hpos hone hpositive (hcount.mpr hfits)
  · rw [checkThroughput_of_nonpos hrate (not_lt.mp hpos)]
    exact iff_of_true Checked.lossless_pure (fun h => absurd h hpos)

end Rate

theorem conclude_within {now : String} {autoscaling : AutoScalingConfig} {currentReplicas : Int32}
    {draft : Draft} (h : autoscaling.minReplicas ≤ autoscaling.maxReplicas) :
    autoscaling.minReplicas ≤ (conclude now autoscaling currentReplicas draft).recommendedReplicas ∧
      (conclude now autoscaling currentReplicas draft).recommendedReplicas ≤
        autoscaling.maxReplicas := by
  rw [Int32.le_iff_toInt_le] at h
  rw [Int32.le_iff_toInt_le, Int32.le_iff_toInt_le, conclude, toInt_min32, toInt_max32]
  omega

/-- A recommendation for an accepted cluster loses nothing, and keeps to the
limits, exactly on the figures in range. -/
theorem generateRecommendation_bounded_iff (now : String) (cluster : StreamlineCluster)
    (metrics : PartitionMetrics format) (autoscaling : AutoScalingConfig) (rate : ℚ)
    (haccepted : cluster.spec.validate = .ok ()) (hlowest : 1 ≤ autoscaling.minReplicas)
    (hlimits : autoscaling.minReplicas ≤ autoscaling.maxReplicas)
    (htargetLag : 0 ≤ autoscaling.targetLagPerPartition)
    (htargetRate : 0 ≤ autoscaling.targetMessagesPerSecond)
    (hpartitions : 0 ≤ metrics.totalPartitions)
    (hrate : metrics.messagesPerSecond.rational = some rate) :
    (∃ recommendation,
        Exact (generateRecommendation now cluster metrics autoscaling) recommendation ∧
          autoscaling.minReplicas ≤ recommendation.recommendedReplicas ∧
          recommendation.recommendedReplicas ≤ autoscaling.maxReplicas) ↔
      WithinRange metrics autoscaling rate := by
  have hreplicas : cluster.spec.replicas = 1 := (ClusterSpec.validate_eq_ok.mp haccepted).replicas
  have htargetRateInt := Int64.le_iff_toInt_le.mp htargetRate
  have hlagStep : ∀ draft : Draft, draft.recommended = 1 →
      (Lossless (checkLag metrics autoscaling 1 draft) ↔
        (autoscaling.partitionAware = true → 0 < metrics.totalLag.toInt →
          LagInRange metrics autoscaling)) := by
    intro draft hdraft
    by_cases hon : autoscaling.partitionAware = true ∧ metrics.totalLag > 0
    · rw [lossless_checkLag_iff hdraft hlowest htargetLag hpartitions hon.1 hon.2]
      exact ⟨fun h _ _ => h, fun h => h hon.1 (Int64.lt_iff_toInt_lt.mp hon.2)⟩
    · have hskip : ¬ (autoscaling.partitionAware && metrics.totalLag > 0) = true := by
        simpa using hon
      rw [checkLag, if_neg hskip]
      refine iff_of_true Checked.lossless_pure ?_
      intro haware hpositive
      exact absurd ⟨haware, Int64.lt_iff_toInt_lt.mpr hpositive⟩ hon
  have hthroughputStep : ∀ draft : Draft, Lossless (checkThroughput metrics autoscaling 1 draft) ↔
      (0 < rate → 0 < autoscaling.targetMessagesPerSecond.toInt ∧
        format.round (rate / format.round autoscaling.targetMessagesPerSecond.toInt) ≤
          2147483647) :=
    fun draft => lossless_checkThroughput_iff hrate htargetRateInt
  simp only [generateRecommendation, hreplicas, Checked.exact_bind, Checked.exact_pure]
  constructor
  · rintro ⟨recommendation, ⟨draft, hdraft, draft', hdraft', -⟩, -⟩
    exact ⟨(hlagStep _ rfl).mp ⟨draft, hdraft⟩, (hthroughputStep draft).mp ⟨draft', hdraft'⟩⟩
  · rintro ⟨hlagRange, hrateRange⟩
    obtain ⟨draft, hdraft⟩ := (hlagStep { recommended := 1 } rfl).mpr hlagRange
    obtain ⟨draft', hdraft'⟩ := (hthroughputStep draft).mpr hrateRange
    obtain ⟨draft'', hdraft''⟩ := @lossless_checkPartitions _ metrics 1 draft' (by decide)
    exact ⟨_, ⟨draft, hdraft, draft', hdraft', draft'', hdraft'', rfl⟩, conclude_within hlimits⟩

private def brokerOfOne : StreamlineCluster where
  metadata := { name := some "events" }
  spec := {}
  status := none

/-- The configuration of a block that is switched off. -/
private def disabledConfig : AutoScalingConfig where
  minReplicas := 1
  maxReplicas := 10
  partitionAware := true
  targetLagPerPartition := 100
  targetMessagesPerSecond := 1000

private def laggingMetrics (partitions : Int32) : PartitionMetrics NumberFormat.binary64 where
  totalPartitions := partitions
  totalLag := 1000
  messagesPerSecond := Value.ofInt 250

private theorem rational_lagging (partitions : Int32) :
    (laggingMetrics partitions).messagesPerSecond.rational = some 250 := by
  have hrational := @Value.rational_ofInt NumberFormat.binary64 250 (by norm_num) (by norm_num)
  rw [Value.round_intCast (by norm_num) (by norm_num)] at hrational
  exact_mod_cast hrational

theorem generateRecommendation_bounded_iff_three :
    (∃ recommendation,
        Exact (generateRecommendation "now" brokerOfOne (laggingMetrics 3) disabledConfig)
          recommendation ∧
          disabledConfig.minReplicas ≤ recommendation.recommendedReplicas ∧
          recommendation.recommendedReplicas ≤ disabledConfig.maxReplicas) ↔
      WithinRange (laggingMetrics 3) disabledConfig 250 :=
  generateRecommendation_bounded_iff "now" brokerOfOne (laggingMetrics 3) disabledConfig 250
    (by decide) (by decide) (by decide) (by decide) (by decide) (by decide) (rational_lagging 3)

/-- Lag that is left when the partitions are gone is divided by zero. -/
theorem lag_without_partitions_faults :
    ¬ ∀ (now : String) (cluster : StreamlineCluster)
        (metrics : PartitionMetrics NumberFormat.binary64) (autoscaling : AutoScalingConfig)
        (rate : ℚ), cluster.spec.validate = .ok () → 1 ≤ autoscaling.minReplicas →
      autoscaling.minReplicas ≤ autoscaling.maxReplicas →
      0 ≤ autoscaling.targetLagPerPartition → 0 ≤ autoscaling.targetMessagesPerSecond →
      0 ≤ metrics.totalPartitions → 0 ≤ metrics.totalLag →
      metrics.messagesPerSecond.rational = some rate → 0 ≤ rate →
        ∃ recommendation,
          Exact (generateRecommendation now cluster metrics autoscaling) recommendation ∧
            autoscaling.minReplicas ≤ recommendation.recommendedReplicas ∧
            recommendation.recommendedReplicas ≤ autoscaling.maxReplicas := by
  intro h
  obtain ⟨recommendation, hexact, -⟩ := h "now" brokerOfOne (laggingMetrics 0) disabledConfig 250
    (by decide) (by decide) (by decide) (by decide) (by decide) (by decide) (by decide)
    (rational_lagging 0) (by norm_num)
  have hfault : generateRecommendation "now" brokerOfOne (laggingMetrics 0) disabledConfig =
      .fault .divisionByZero := rfl
  rw [hfault] at hexact
  exact Checked.not_exact_fault hexact

end AutoScalingController

end StreamlineOperator.Controllers
