/- source: src/src/controllers/autoscaling.rs (PartitionMetrics, generate_recommendation)
   digest: The scaling recommendation of a cluster, on checked arithmetic. -/

import StreamlineOperator.Controllers.Autoscaling
import StreamlineOperator.Foundation.MachineArithmetic

set_option autoImplicit false
set_option relaxedAutoImplicit false

namespace StreamlineOperator.Controllers

open Foundation
open Foundation.Checked (Exact)
open Foundation.NumberFormat (Value)
open Crd (StreamlineCluster)

/-- The figures the recommendation reads, with its rates in a number format. -/
structure PartitionMetrics (format : NumberFormat) where
  totalPartitions : Int32
  totalLag : Int64
  messagesPerSecond : format.Value

structure ScalingRecommendation where
  recommendedReplicas : Int32
  currentReplicas : Int32
  reason : String
  confidence : Int32
  triggeringMetrics : List String
  timestamp : String
  deriving DecidableEq

/-- The recommendation while the metrics are checked one after the other. -/
structure Draft where
  recommended : Int32
  reasons : List String := []
  triggering : List String := []
  deriving DecidableEq

namespace Draft

def propose (self : Draft) (needed : Int32) (reason metric : String) : Draft where
  recommended := needed
  reasons := self.reasons ++ [reason]
  triggering := self.triggering ++ [metric]

/-- A proposal that counts only if it is for more replicas. -/
def raise (self : Draft) (needed : Int32) (reason metric : String) : Draft :=
  if needed > self.recommended then self.propose needed reason metric else self

/-- A proposal that counts only if it is for fewer replicas. -/
def lower (self : Draft) (needed : Int32) (reason metric : String) : Draft :=
  if needed < self.recommended then self.propose needed reason metric else self

end Draft

namespace AutoScalingController

variable {format : NumberFormat}

/-- A high lag is divided by the target. There is no target lag without partitions. -/
def scaleUpForLag (metrics : PartitionMetrics format) (targetLag : Int64) (draft : Draft) :
    Checked Draft := do
  let quotient ← div64 metrics.totalLag targetLag
  let needed ← narrow (max quotient 1)
  pure (draft.raise needed ("High consumer lag: " ++ toString metrics.totalLag ++ ". Target: " ++
    toString targetLag) "consumer_lag")

/-- A low lag is divided as a float, and rounded up. -/
def scaleDownForLag (metrics : PartitionMetrics format) (targetLag : Int64) (draft : Draft) :
    Checked Draft := do
  let quotient ← ceilAsInt32
    ((Value.ofInt metrics.totalLag.toInt : format.Value).div (Value.ofInt targetLag.toInt))
  pure (draft.lower (max quotient 1) ("Low consumer lag: " ++ toString metrics.totalLag ++
    ". Target: " ++ toString targetLag) "consumer_lag")

/-- Above twice the target the lag asks for more replicas, below a quarter of it
for fewer. -/
def checkLag (metrics : PartitionMetrics format) (autoscaling : AutoScalingConfig)
    (currentReplicas : Int32) (draft : Draft) : Checked Draft :=
  if autoscaling.partitionAware && metrics.totalLag > 0 then do
    let lagPerBroker ← div64 metrics.totalLag currentReplicas.toInt64
    let targetLag ← mul64 autoscaling.targetLagPerPartition metrics.totalPartitions.toInt64
    let highLag ← mul64 autoscaling.targetLagPerPartition 2
    if lagPerBroker > highLag then scaleUpForLag metrics targetLag draft
    else do
      let lowLag ← div64 autoscaling.targetLagPerPartition 4
      if lagPerBroker < lowLag && draft.recommended > autoscaling.minReplicas then
        scaleDownForLag metrics targetLag draft
      else pure draft
  else pure draft

/-- Above one and a half times the target the throughput asks for more replicas. -/
def checkThroughput (metrics : PartitionMetrics format) (autoscaling : AutoScalingConfig)
    (currentReplicas : Int32) (draft : Draft) : Checked Draft :=
  if (Value.ofInt 0).less metrics.messagesPerSecond then
    let mpsPerBroker := metrics.messagesPerSecond.div (Value.ofInt currentReplicas.toInt)
    let targetMps := Value.ofInt autoscaling.targetMessagesPerSecond.toInt
    if (targetMps.mul (Value.ofRat (3 / 2))).less mpsPerBroker then do
      let needed ← ceilAsInt32 (metrics.messagesPerSecond.div targetMps)
      pure (draft.raise needed ("High throughput: " ++ mpsPerBroker.wholeText ++
        " msg/s per broker. Target: " ++ targetMps.displayText) "messages_per_second")
    else pure draft
  else pure draft

/-- One replica per hundred partitions at least. -/
def checkPartitions (metrics : PartitionMetrics format) (currentReplicas : Int32)
    (draft : Draft) : Checked Draft :=
  if metrics.totalPartitions > 0 then do
    let partitionsPerBroker ← div32 metrics.totalPartitions currentReplicas
    let hundreds ← div32 metrics.totalPartitions 100
    pure (draft.raise (max hundreds 1) ("High partition count: " ++
      toString metrics.totalPartitions ++ ". " ++ toString partitionsPerBroker ++
      " partitions per broker") "partition_count")
  else pure draft

/-- Apply the limits and say how sure the recommendation is. -/
def conclude (now : String) (autoscaling : AutoScalingConfig) (currentReplicas : Int32)
    (draft : Draft) : ScalingRecommendation where
  recommendedReplicas := min (max draft.recommended autoscaling.minReplicas) autoscaling.maxReplicas
  currentReplicas := currentReplicas
  reason := if draft.reasons.isEmpty then "No scaling needed" else "; ".intercalate draft.reasons
  confidence := if draft.triggering.isEmpty then 50
    else if draft.triggering.length = 1 then 70 else 90
  triggeringMetrics := draft.triggering
  timestamp := now

def generateRecommendation (now : String) (cluster : StreamlineCluster)
    (metrics : PartitionMetrics format) (autoscaling : AutoScalingConfig) :
    Checked ScalingRecommendation := do
  let currentReplicas := cluster.spec.replicas
  let draft ← checkLag metrics autoscaling currentReplicas { recommended := currentReplicas }
  let draft ← checkThroughput metrics autoscaling currentReplicas draft
  let draft ← checkPartitions metrics currentReplicas draft
  pure (conclude now autoscaling currentReplicas draft)

/-! What the steps do when nothing is lost. -/

section Steps

variable {metrics : PartitionMetrics format} {autoscaling : AutoScalingConfig}
variable {currentReplicas : Int32} {draft draft' : Draft}

theorem recommended_raise (needed : Int32) (reason metric : String) :
    (draft.raise needed reason metric).recommended.toInt =
      max draft.recommended.toInt needed.toInt := by
  unfold Draft.raise
  split
  · rename_i hmore
    rw [max_eq_right (Int32.lt_iff_toInt_lt.mp hmore).le]
    rfl
  · rename_i hless
    rw [max_eq_left (Int32.le_iff_toInt_le.mp (Int32.not_lt.mp hless))]

theorem recommended_lower (needed : Int32) (reason metric : String) :
    (draft.lower needed reason metric).recommended.toInt =
      min draft.recommended.toInt needed.toInt := by
  unfold Draft.lower
  split
  · rename_i hless
    rw [min_eq_right (Int32.lt_iff_toInt_lt.mp hless).le]
    rfl
  · rename_i hmore
    rw [min_eq_left (Int32.le_iff_toInt_le.mp (Int32.not_lt.mp hmore))]

theorem exact_scaleUpForLag {targetLag : Int64}
    (h : Exact (scaleUpForLag metrics targetLag draft) draft') :
    targetLag ≠ 0 ∧ max (metrics.totalLag.toInt.tdiv targetLag.toInt) 1 ≤ 2147483647 ∧
      draft'.recommended.toInt = max draft.recommended.toInt
        (max (metrics.totalLag.toInt.tdiv targetLag.toInt) 1) := by
  simp only [scaleUpForLag, Checked.exact_bind, exact_div64, exact_narrow, Checked.exact_pure] at h
  obtain ⟨quotient, ⟨htarget, hquotient⟩, needed, hneeded, rfl⟩ := h
  have hone : (1 : Int64).toInt = 1 := rfl
  rw [toInt_max64, hone, hquotient] at hneeded
  have hfits := needed.toInt_lt
  refine ⟨htarget, by omega, ?_⟩
  rw [recommended_raise, hneeded]

theorem lossless_scaleUpForLag {targetLag : Int64} (htarget : targetLag ≠ 0)
    (hlo : 0 ≤ metrics.totalLag.toInt.tdiv targetLag.toInt)
    (hhi : metrics.totalLag.toInt.tdiv targetLag.toInt ≤ 2147483647) :
    Checked.Lossless (scaleUpForLag metrics targetLag draft) := by
  obtain ⟨quotient, hquotient⟩ := exists_int64 (by omega : -9223372036854775808 ≤
    metrics.totalLag.toInt.tdiv targetLag.toInt) (by omega)
  have hone : (1 : Int64).toInt = 1 := rfl
  obtain ⟨needed, hneeded⟩ := @exists_int32 (max quotient 1).toInt
    (by rw [toInt_max64, hone]; omega) (by rw [toInt_max64, hone]; omega)
  simp only [scaleUpForLag, Checked.lossless_bind]
  exact ⟨quotient, exact_div64.mpr ⟨htarget, hquotient⟩, needed, exact_narrow.mpr hneeded,
    Checked.lossless_pure⟩

private theorem exact_compareLow {lagPerBroker targetLag : Int64}
    (htarget : 0 ≤ autoscaling.targetLagPerPartition.toInt) :
    Exact (do
      let lowLag ← div64 autoscaling.targetLagPerPartition 4
      if lagPerBroker < lowLag && draft.recommended > autoscaling.minReplicas then
        scaleDownForLag metrics targetLag draft
      else pure draft) draft' ↔
      if lagPerBroker.toInt < autoscaling.targetLagPerPartition.toInt / 4 ∧
          autoscaling.minReplicas < draft.recommended then
        Exact (scaleDownForLag metrics targetLag draft) draft'
      else draft = draft' := by
  have htargetTop := autoscaling.targetLagPerPartition.toInt_lt
  have hfour : (4 : Int64).toInt = 4 := rfl
  obtain ⟨lowLag, hlowLag⟩ := @exists_int64 (autoscaling.targetLagPerPartition.toInt / 4)
    (by omega) (by omega)
  have hquarter : div64 autoscaling.targetLagPerPartition 4 = pure lowLag := by
    apply exact_div64.mpr
    rw [hlowLag, hfour, Int.tdiv_eq_ediv_of_nonneg htarget]
    exact ⟨by decide, rfl⟩
  have hlow : (lagPerBroker < lowLag && draft.recommended > autoscaling.minReplicas) = true ↔
      lagPerBroker.toInt < autoscaling.targetLagPerPartition.toInt / 4 ∧
        autoscaling.minReplicas < draft.recommended := by
    rw [Bool.and_eq_true, decide_eq_true_eq, decide_eq_true_eq, Int64.lt_iff_toInt_lt, hlowLag]
  rw [hquarter, Checked.exact_pure_bind]
  by_cases hless : lagPerBroker.toInt < autoscaling.targetLagPerPartition.toInt / 4 ∧
      autoscaling.minReplicas < draft.recommended
  · rw [if_pos (hlow.mpr hless), if_pos hless]
  · rw [if_neg (hlow.not.mpr hless), if_neg hless, Checked.exact_pure]

private theorem exact_compareHigh {lagPerBroker targetLag highLag : Int64}
    (htarget : 0 ≤ autoscaling.targetLagPerPartition.toInt)
    (hhighLag : highLag.toInt = autoscaling.targetLagPerPartition.toInt * 2) :
    Exact (if lagPerBroker > highLag then scaleUpForLag metrics targetLag draft
      else do
        let lowLag ← div64 autoscaling.targetLagPerPartition 4
        if lagPerBroker < lowLag && draft.recommended > autoscaling.minReplicas then
          scaleDownForLag metrics targetLag draft
        else pure draft) draft' ↔
      if autoscaling.targetLagPerPartition.toInt * 2 < lagPerBroker.toInt then
        Exact (scaleUpForLag metrics targetLag draft) draft'
      else if lagPerBroker.toInt < autoscaling.targetLagPerPartition.toInt / 4 ∧
          autoscaling.minReplicas < draft.recommended then
        Exact (scaleDownForLag metrics targetLag draft) draft'
      else draft = draft' := by
  have hhigh : lagPerBroker > highLag ↔
      autoscaling.targetLagPerPartition.toInt * 2 < lagPerBroker.toInt := by
    rw [gt_iff_lt, Int64.lt_iff_toInt_lt, hhighLag]
  by_cases habove : autoscaling.targetLagPerPartition.toInt * 2 < lagPerBroker.toInt
  · rw [if_pos (hhigh.mpr habove), if_pos habove]
  · rw [if_neg (hhigh.not.mpr habove), if_neg habove, exact_compareLow htarget]

/-- The three ways a lag that is checked can go, once the targets fit. -/
theorem exact_checkLag (hreplicas : 0 < currentReplicas.toInt)
    (htarget : 0 ≤ autoscaling.targetLagPerPartition.toInt)
    (haware : autoscaling.partitionAware = true) (hlag : 0 < metrics.totalLag) :
    Exact (checkLag metrics autoscaling currentReplicas draft) draft' ↔
      ∃ targetLag : Int64, targetLag.toInt =
          autoscaling.targetLagPerPartition.toInt * metrics.totalPartitions.toInt ∧
        autoscaling.targetLagPerPartition.toInt * 2 ≤ 9223372036854775807 ∧
        if autoscaling.targetLagPerPartition.toInt * 2 <
            metrics.totalLag.toInt / currentReplicas.toInt then
          Exact (scaleUpForLag metrics targetLag draft) draft'
        else if metrics.totalLag.toInt / currentReplicas.toInt <
              autoscaling.targetLagPerPartition.toInt / 4 ∧
            autoscaling.minReplicas < draft.recommended then
          Exact (scaleDownForLag metrics targetLag draft) draft'
        else draft = draft' := by
  have hlagInt : 0 < metrics.totalLag.toInt := Int64.lt_iff_toInt_lt.mp hlag
  have hlagTop := metrics.totalLag.toInt_lt
  have hon : (autoscaling.partitionAware && metrics.totalLag > 0) = true := by
    simp [haware, hlag]
  have hnonzero : currentReplicas.toInt64 ≠ 0 := by
    intro hzero
    rw [← Int32.toInt_toInt64, hzero] at hreplicas
    exact absurd hreplicas (by decide)
  have htwo : (2 : Int64).toInt = 2 := rfl
  simp only [checkLag, if_pos hon, Checked.exact_bind, exact_div64, exact_mul64, htwo,
    Int32.toInt_toInt64, Int.tdiv_eq_ediv_of_nonneg hlagInt.le]
  constructor
  · rintro ⟨lagPerBroker, ⟨-, hlagPerBroker⟩, targetLag, htargetLag, highLag, hhighLag, hrest⟩
    have hfits := highLag.toInt_lt
    rw [exact_compareHigh htarget hhighLag, hlagPerBroker] at hrest
    exact ⟨targetLag, htargetLag, by omega, hrest⟩
  · rintro ⟨targetLag, htargetLag, hfits, hrest⟩
    have hquotient := Int.ediv_le_self currentReplicas.toInt hlagInt.le
    have hnonneg := Int.ediv_nonneg hlagInt.le hreplicas.le
    obtain ⟨lagPerBroker, hlagPerBroker⟩ := @exists_int64
      (metrics.totalLag.toInt / currentReplicas.toInt) (by omega) (by omega)
    obtain ⟨highLag, hhighLag⟩ := exists_int64 (by omega) hfits
    refine ⟨lagPerBroker, ⟨hnonzero, hlagPerBroker⟩, targetLag, htargetLag, highLag, hhighLag, ?_⟩
    rwa [exact_compareHigh htarget hhighLag, hlagPerBroker]

/-- The throughput of one broker, and the limit it is compared with. -/
def brokerRate (format : NumberFormat) (rate : ℚ) (currentReplicas : Int32) : ℚ :=
  format.round (rate / currentReplicas.toInt)

def rateLimit (format : NumberFormat) (targetRate : Int64) : ℚ :=
  format.round (format.round targetRate.toInt * format.round (3 / 2))

section Throughput

variable {rate : ℚ}

private theorem rational_brokerRate (hrate : metrics.messagesPerSecond.rational = some rate)
    (hpos : 0 < rate) (hreplicas : 0 < currentReplicas.toInt) :
    (metrics.messagesPerSecond.div (Value.ofInt currentReplicas.toInt)).rational =
      some (brokerRate format rate currentReplicas) := by
  have hsmall := currentReplicas.toInt_lt
  have hcast : (1 : ℚ) ≤ currentReplicas.toInt := by exact_mod_cast hreplicas
  have hdivisor := @Value.rational_ofInt format currentReplicas.toInt hreplicas.le (by omega)
  rw [Value.round_intCast hreplicas.le (by omega)] at hdivisor
  rw [Value.div_eq hrate hdivisor (by linarith)]
  exact Value.rational_ofRat_of_le hrate (div_nonneg hpos.le (by linarith))
    (div_le_self hpos.le hcast)

private theorem rational_rateLimit (htarget : 0 ≤ autoscaling.targetMessagesPerSecond.toInt) :
    ((Value.ofInt autoscaling.targetMessagesPerSecond.toInt : format.Value).mul
      (Value.ofRat (3 / 2))).rational =
      some (rateLimit format autoscaling.targetMessagesPerSecond) := by
  have hsmall := autoscaling.targetMessagesPerSecond.toInt_lt
  have hcast : (autoscaling.targetMessagesPerSecond.toInt : ℚ) < 2 ^ 63 := by
    exact_mod_cast hsmall
  have hnonneg : (0 : ℚ) ≤ autoscaling.targetMessagesPerSecond.toInt := by exact_mod_cast htarget
  have hdouble := format.round_le_double hnonneg
  have hfactor := @NumberFormat.round_le_double format (3 / 2) (by norm_num)
  have hround := format.round_nonneg hnonneg
  have hfactor' := @NumberFormat.round_nonneg format (3 / 2) (by norm_num)
  rw [Value.mul_eq (Value.rational_ofInt htarget (by omega))
    (Value.rational_ofRat_of_lt (by norm_num) (by norm_num))]
  apply Value.rational_ofRat_of_lt (mul_nonneg hround hfactor')
  calc format.round autoscaling.targetMessagesPerSecond.toInt * format.round (3 / 2)
      ≤ (2 * autoscaling.targetMessagesPerSecond.toInt) * (2 * (3 / 2)) :=
        mul_le_mul hdouble hfactor hfactor' (by linarith)
    _ < 2 ^ 98 := by linarith

theorem checkThroughput_eq (hrate : metrics.messagesPerSecond.rational = some rate)
    (hpos : 0 < rate) (hreplicas : 0 < currentReplicas.toInt)
    (htarget : 0 ≤ autoscaling.targetMessagesPerSecond.toInt) :
    checkThroughput metrics autoscaling currentReplicas draft =
      if rateLimit format autoscaling.targetMessagesPerSecond <
          brokerRate format rate currentReplicas then do
        let needed ← ceilAsInt32 (metrics.messagesPerSecond.div
          (Value.ofInt autoscaling.targetMessagesPerSecond.toInt))
        pure (draft.raise needed ("High throughput: " ++ (metrics.messagesPerSecond.div
          (Value.ofInt currentReplicas.toInt)).wholeText ++ " msg/s per broker. Target: " ++
          (Value.ofInt autoscaling.targetMessagesPerSecond.toInt : format.Value).displayText)
          "messages_per_second")
      else pure draft := by
  have hpositive : (Value.ofInt 0).less metrics.messagesPerSecond = true := by
    rw [Value.less_eq (Value.rational_ofInt le_rfl (by norm_num)) hrate, Int.cast_zero,
      format.round_zero, decide_eq_true hpos]
  have hbusy := Value.less_eq (@rational_rateLimit format autoscaling htarget)
    (rational_brokerRate hrate hpos hreplicas)
  simp only [checkThroughput, hpositive, hbusy, if_true, decide_eq_true_eq]

theorem checkThroughput_of_nonpos (hrate : metrics.messagesPerSecond.rational = some rate)
    (hnonpos : rate ≤ 0) :
    checkThroughput metrics autoscaling currentReplicas draft = pure draft := by
  have hskip : (Value.ofInt 0).less metrics.messagesPerSecond = false := by
    rw [Value.less_eq (Value.rational_ofInt le_rfl (by norm_num)) hrate, Int.cast_zero,
      format.round_zero, decide_eq_false (not_lt.mpr hnonpos)]
  simp only [checkThroughput, hskip, if_false, Bool.false_eq_true]

/-- The brokers that the throughput needs. -/
def brokersForRate (format : NumberFormat) (rate : ℚ) (targetRate : Int64) : ℤ :=
  ⌈format.round (rate / format.round targetRate.toInt)⌉

private theorem rational_quotient (hrate : metrics.messagesPerSecond.rational = some rate)
    (hpos : 0 < rate) (htarget : 0 < autoscaling.targetMessagesPerSecond.toInt) :
    (metrics.messagesPerSecond.div
        (Value.ofInt autoscaling.targetMessagesPerSecond.toInt)).rational =
      some (format.round (rate / format.round autoscaling.targetMessagesPerSecond.toInt)) := by
  have hsmall := autoscaling.targetMessagesPerSecond.toInt_lt
  have hcast : (1 : ℚ) ≤ autoscaling.targetMessagesPerSecond.toInt := by exact_mod_cast htarget
  have hround := format.round_mono zero_le_one hcast
  rw [format.round_one] at hround
  rw [Value.div_eq hrate (Value.rational_ofInt htarget.le (by omega)) (by linarith)]
  exact Value.rational_ofRat_of_le hrate (div_nonneg hpos.le (by linarith))
    (div_le_self hpos.le hround)

private theorem rational_quotient_zero (hrate : metrics.messagesPerSecond.rational = some rate)
    (hpos : 0 < rate) (htarget : autoscaling.targetMessagesPerSecond.toInt = 0) :
    (metrics.messagesPerSecond.div
        (Value.ofInt autoscaling.targetMessagesPerSecond.toInt)).rational = none := by
  have hzero := @Value.rational_ofInt format 0 le_rfl (by norm_num)
  rw [Int.cast_zero, format.round_zero] at hzero
  rw [htarget, Value.div_zero hrate hzero hpos.ne']

theorem exact_checkThroughput (hrate : metrics.messagesPerSecond.rational = some rate)
    (hpos : 0 < rate) (hreplicas : 0 < currentReplicas.toInt)
    (htarget : 0 ≤ autoscaling.targetMessagesPerSecond.toInt)
    (hbusy : rateLimit format autoscaling.targetMessagesPerSecond <
      brokerRate format rate currentReplicas)
    (h : Exact (checkThroughput metrics autoscaling currentReplicas draft) draft') :
    0 < autoscaling.targetMessagesPerSecond.toInt ∧
      brokersForRate format rate autoscaling.targetMessagesPerSecond ≤ 2147483647 ∧
      draft'.recommended.toInt = max draft.recommended.toInt
        (brokersForRate format rate autoscaling.targetMessagesPerSecond) := by
  rw [checkThroughput_eq hrate hpos hreplicas htarget, if_pos hbusy] at h
  simp only [Checked.exact_bind, exact_ceilAsInt32, Checked.exact_pure] at h
  obtain ⟨needed, ⟨q, hq, hneeded⟩, rfl⟩ := h
  have hnonzero : autoscaling.targetMessagesPerSecond.toInt ≠ 0 := by
    intro hzero
    rw [rational_quotient_zero hrate hpos hzero] at hq
    cases hq
  have hpositive : 0 < autoscaling.targetMessagesPerSecond.toInt := by omega
  rw [rational_quotient hrate hpos hpositive] at hq
  obtain rfl := Option.some.inj hq
  have hfits := needed.toInt_lt
  have hbrokers : needed.toInt =
      brokersForRate format rate autoscaling.targetMessagesPerSecond := hneeded
  refine ⟨hpositive, by omega, ?_⟩
  rw [recommended_raise, hbrokers]

theorem lossless_checkThroughput (hrate : metrics.messagesPerSecond.rational = some rate)
    (hpos : 0 < rate) (hreplicas : 0 < currentReplicas.toInt)
    (htarget : 0 < autoscaling.targetMessagesPerSecond.toInt)
    (hfits : brokersForRate format rate autoscaling.targetMessagesPerSecond ≤ 2147483647) :
    Checked.Lossless (checkThroughput metrics autoscaling currentReplicas draft) := by
  rw [checkThroughput_eq hrate hpos hreplicas htarget.le]
  split
  · have hnonneg : 0 ≤ brokersForRate format rate autoscaling.targetMessagesPerSecond := by
      have hcast : (0 : ℚ) ≤ autoscaling.targetMessagesPerSecond.toInt := by exact_mod_cast htarget.le
      exact Int.ceil_nonneg (format.round_nonneg (div_nonneg hpos.le (format.round_nonneg hcast)))
    obtain ⟨needed, hneeded⟩ := exists_int32 (by omega : -2147483648 ≤
      brokersForRate format rate autoscaling.targetMessagesPerSecond) hfits
    rw [Checked.lossless_bind]
    exact ⟨needed, exact_ceilAsInt32.mpr ⟨_, rational_quotient hrate hpos htarget, hneeded⟩,
      Checked.lossless_pure⟩
  · exact Checked.lossless_pure

end Throughput

/-! One replica per hundred partitions. -/

theorem exact_checkPartitions (hpartitions : 0 < metrics.totalPartitions.toInt)
    (h : Exact (checkPartitions metrics currentReplicas draft) draft') :
    draft'.recommended.toInt =
      max draft.recommended.toInt (max (metrics.totalPartitions.toInt / 100) 1) := by
  have hpositive : metrics.totalPartitions > 0 := Int32.lt_iff_toInt_lt.mpr hpartitions
  simp only [checkPartitions, if_pos hpositive, Checked.exact_bind, exact_div32,
    Checked.exact_pure] at h
  obtain ⟨perBroker, -, hundreds, ⟨-, hhundreds⟩, rfl⟩ := h
  have hone : (1 : Int32).toInt = 1 := rfl
  have hhundred : (100 : Int32).toInt = 100 := rfl
  rw [hhundred, Int.tdiv_eq_ediv_of_nonneg hpartitions.le] at hhundreds
  rw [recommended_raise, toInt_max32, hone, hhundreds]

theorem lossless_checkPartitions (hreplicas : 0 < currentReplicas.toInt) :
    Checked.Lossless (checkPartitions metrics currentReplicas draft) := by
  unfold checkPartitions
  split
  · rename_i hpositive
    have hpartitions : 0 < metrics.totalPartitions.toInt := Int32.lt_iff_toInt_lt.mp hpositive
    have hhi := metrics.totalPartitions.toInt_lt
    have hhundred : (100 : Int32).toInt = 100 := rfl
    have hself := Int.ediv_le_self currentReplicas.toInt hpartitions.le
    have hnonneg := Int.ediv_nonneg hpartitions.le hreplicas.le
    obtain ⟨perBroker, hperBroker⟩ := @exists_int32
      (metrics.totalPartitions.toInt / currentReplicas.toInt) (by omega) (by omega)
    obtain ⟨hundreds, hhundreds⟩ := @exists_int32 (metrics.totalPartitions.toInt / 100)
      (by omega) (by omega)
    simp only [Checked.lossless_bind]
    refine ⟨perBroker, exact_div32.mpr ⟨?_, ?_⟩, hundreds, exact_div32.mpr ⟨by decide, ?_⟩,
      Checked.lossless_pure⟩
    · rintro rfl
      exact absurd hreplicas (by decide)
    · rw [hperBroker, Int.tdiv_eq_ediv_of_nonneg hpartitions.le]
    · rw [hhundred, hhundreds, Int.tdiv_eq_ediv_of_nonneg hpartitions.le]
  · exact Checked.lossless_pure

end Steps

end AutoScalingController

end StreamlineOperator.Controllers
