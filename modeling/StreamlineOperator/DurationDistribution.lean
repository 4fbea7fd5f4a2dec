/- source: src/src/metrics.rs (DurationHistogram::observe, OperatorMetrics::render)
   digest: The rendered histogram is the distribution of the observations, as long as they can be counted. -/

import Mathlib.Algebra.Order.Ring.Nat
import StreamlineOperator.Foundation.Histogram
import StreamlineOperator.Metrics

set_option autoImplicit false
set_option relaxedAutoImplicit false

namespace StreamlineOperator.Metrics

open Foundation
open Exposition
open DurationHistogram (bucketSeries)

/-- A call of the process's metrics by whatever task. -/
inductive Call where
  | record (recording : Recording)
  | setLeader (leader : Bool)
  deriving DecidableEq, Repr

def OperatorMetrics.call (self : OperatorMetrics) : Call → OperatorMetrics
  | .record recording => self.record recording
  | .setLeader leader => self.setLeader leader

/-- The metrics after some calls. -/
def run (calls : List Call) : OperatorMetrics := calls.foldl OperatorMetrics.call .new

/-- The durations observed by some calls, in order. -/
def durations (calls : List Call) : List UInt64 :=
  calls.filterMap fun
    | .record (.observeDurationMs ms) => some ms
    | _ => none

def sumSeries : String := "streamline_operator_reconcile_duration_ms_sum"

def countSeries : String := "streamline_operator_reconcile_duration_ms_count"

/-- What a page shows for the buckets, in their order. -/
def bucketValues (page : String) : List (Option Nat) :=
  (durationBucketsMs.map toString ++ ["+Inf"]).map fun le => value? page (bucketSeries le)

/-- The page shows the distribution of these observations. -/
structure Empirical (page : String) (values : List UInt64) : Prop where
  bucket : ∀ boundary ∈ durationBucketsMs,
    value? page (bucketSeries (toString boundary)) =
      some (values.countP fun value => value ≤ boundary)
  increasing : ∃ shown : List Nat, bucketValues page = shown.map some ∧ shown.Pairwise (· ≤ ·)
  infinite : value? page (bucketSeries "+Inf") = value? page countSeries
  count : value? page countSeries = some values.length
  sum : value? page sumSeries = some (values.map UInt64.toNat).sum

/-! What the histogram stores. -/

def boundsMs : List Nat := durationBucketsMs.map UInt64.toNat

theorem boundsMs_sorted : boundsMs.Pairwise (· ≤ ·) := by decide

theorem bucketIndex_eq_slot (self : DurationHistogram) (value : UInt64) :
    self.bucketIndex value = Histogram.slot boundsMs value.toNat := by
  have hslot : Histogram.slot boundsMs value.toNat =
      durationBucketsMs.findIdx (fun boundary => value ≤ boundary) := by
    rw [Histogram.slot, boundsMs, List.findIdx_map]
    rfl
  have hsized := self.sized
  rw [hslot, List.findIdx_eq_getD_findIdx?, DurationHistogram.bucketIndex]
  cases durationBucketsMs.findIdx? (fun boundary => value ≤ boundary) with
  | some i => rfl
  | none =>
    rw [Option.getD_none]
    show self.buckets.length - 1 = durationBucketsMs.length
    omega

/-- The histogram holds the counts of these observations, as far as its integers go. -/
structure Counted (histogram : DurationHistogram) (values : List UInt64) : Prop where
  buckets : histogram.buckets =
    (Histogram.tally boundsMs (values.map UInt64.toNat)).map UInt64.ofNat
  sum : histogram.sum = UInt64.ofNat (values.map UInt64.toNat).sum
  count : histogram.count = UInt64.ofNat values.length

theorem counted_new : Counted .new [] where
  buckets := by
    rw [List.map_nil, Histogram.tally_nil, List.map_replicate]
    rfl
  sum := rfl
  count := rfl

private theorem map_modify_ofNat (counts : List Nat) (i : Nat) :
    (counts.modify i (· + 1)).map UInt64.ofNat = (counts.map UInt64.ofNat).modify i (· + 1) := by
  refine List.ext_getElem (by simp) ?_
  intro j hj hj'
  rw [List.getElem_map, List.getElem_modify, List.getElem_modify, List.getElem_map]
  split
  · exact UInt64.ofNat_add _ _
  · rfl

theorem Counted.observe {self : DurationHistogram} {values : List UInt64}
    (h : Counted self values) (value : UInt64) :
    Counted (self.observe value) (values ++ [value]) where
  buckets := by
    rw [List.map_append, List.map_singleton, Histogram.tally_concat, map_modify_ofNat,
      ← h.buckets, ← bucketIndex_eq_slot self]
    rfl
  sum := by
    have hsum : (self.observe value).sum = self.sum + value := rfl
    rw [hsum, h.sum, List.map_append, List.map_singleton, List.sum_append, List.sum_singleton,
      UInt64.ofNat_add, UInt64.ofNat_toNat]
  count := by
    have hcount : (self.observe value).count = self.count + 1 := rfl
    rw [hcount, h.count, List.length_append, List.length_singleton, UInt64.ofNat_add]
    rfl

theorem durationBuckets_call (self : OperatorMetrics) (call : Call) :
    (self.call call).durationBuckets =
      (durations [call]).foldl DurationHistogram.observe self.durationBuckets := by
  cases call with
  | setLeader leader => rfl
  | record recording =>
    cases recording with
    | incReconcile resource =>
      show (self.incReconcile resource).durationBuckets = self.durationBuckets
      simp only [OperatorMetrics.incReconcile]
      split_ifs <;> rfl
    | incSuccess => rfl
    | incError resource =>
      show (self.incError resource).durationBuckets = self.durationBuckets
      simp only [OperatorMetrics.incError]
      split_ifs <;> rfl
    | incLeaderTransition => rfl
    | observeDurationMs ms => rfl

theorem Counted.observeAll {self : DurationHistogram} {values : List UInt64}
    (h : Counted self values) (more : List UInt64) :
    Counted (more.foldl DurationHistogram.observe self) (values ++ more) := by
  induction more generalizing self values with
  | nil =>
    rw [List.append_nil]
    exact h
  | cons value more ih =>
    have hnext := ih (h.observe value)
    rw [List.append_assoc, List.singleton_append] at hnext
    exact hnext

theorem durationBuckets_foldl (calls : List Call) (self : OperatorMetrics) :
    (calls.foldl OperatorMetrics.call self).durationBuckets =
      (durations calls).foldl DurationHistogram.observe self.durationBuckets := by
  induction calls generalizing self with
  | nil => rfl
  | cons call calls ih =>
    have hsplit : durations (call :: calls) = durations [call] ++ durations calls :=
      @List.filterMap_append _ _ [call] calls _
    rw [List.foldl_cons, ih, durationBuckets_call, hsplit, List.foldl_append]

/-- After any calls the histogram counts the durations they observed. -/
theorem counted_run (calls : List Call) :
    Counted (run calls).durationBuckets (durations calls) := by
  have hall := counted_new.observeAll (durations calls)
  rw [List.nil_append] at hall
  rw [run, durationBuckets_foldl]
  exact hall

/-! What the page shows. -/

section Shown

variable {self : DurationHistogram} {counts : List Nat}

theorem cumulative_add (hbuckets : self.buckets = counts.map UInt64.ofNat) {i : Nat}
    (hi : i < counts.length) :
    UInt64.ofNat (counts.take i).sum + self.buckets.getD i 0 =
      UInt64.ofNat (counts.take (i + 1)).sum := by
  have hbucket : self.buckets.getD i 0 = UInt64.ofNat counts[i] := by
    rw [hbuckets, List.getD_eq_getElem?_getD, List.getElem?_map, List.getElem?_eq_getElem hi]
    rfl
  rw [hbucket, ← UInt64.ofNat_add, List.take_succ_eq_append_getElem hi, List.sum_append,
    List.sum_singleton]

theorem bucketSeries_injective {le le' : String} (h : bucketSeries le = bucketSeries le') :
    le = le' := by
  rw [bucketSeries_eq, bucketSeries_eq, String.append_right_inj, String.append_left_inj] at h
  exact h

theorem toString_uint64_injective {m n : UInt64} (h : toString m = toString n) : m = n :=
  UInt64.toNat_inj.mp (natRepr_injective h)

theorem bucketSeries_ne_infinite (boundary : UInt64) :
    bucketSeries (toString boundary) ≠ bucketSeries "+Inf" := by
  intro h
  have hle := bucketSeries_injective h
  have hmem : '+' ∈ (toString boundary).toList := by
    rw [hle]
    decide
  exact absurd (isDigit_of_mem_repr hmem) (by decide)

theorem lookup_bucketSamples (hbuckets : self.buckets = counts.map UInt64.ofNat)
    {boundaries : List UInt64} (hnodup : boundaries.Nodup) {i j : Nat} (hj : j < boundaries.length)
    (hlength : i + j < counts.length) (rest : List Sample) :
    lookup (self.bucketSamples i boundaries (UInt64.ofNat (counts.take i).sum) ++ rest)
        (bucketSeries (toString boundaries[j])) =
      some ((counts.take (i + j + 1)).sum % 2 ^ 64) := by
  induction boundaries generalizing i j with
  | nil => exact absurd hj (Nat.not_lt_zero _)
  | cons boundary boundaries ih =>
    rw [DurationHistogram.bucketSamples, cumulative_add hbuckets (by omega), List.cons_append]
    cases j with
    | zero =>
      rw [List.getElem_cons_zero, lookup_cons_self, UInt64.toNat_ofNat']
    | succ j =>
      have hne : bucketSeries (toString boundary) ≠
          bucketSeries (toString (boundary :: boundaries)[j + 1]) := by
        intro heq
        have hboundary := toString_uint64_injective (bucketSeries_injective heq)
        rw [List.getElem_cons_succ] at hboundary
        refine (List.nodup_cons.mp hnodup).1 ?_
        rw [hboundary]
        exact List.getElem_mem _
      rw [lookup_cons_of_ne hne]
      have hrest : i + 1 + j < counts.length := by omega
      have hnext := ih (List.nodup_cons.mp hnodup).2 (Nat.lt_of_succ_lt_succ hj) hrest
      rw [show i + (j + 1) + 1 = i + 1 + j + 1 by omega]
      exact hnext

theorem lookup_bucketSamples_infinite (hbuckets : self.buckets = counts.map UInt64.ofNat)
    {boundaries : List UInt64} {i : Nat} (hlength : i + boundaries.length < counts.length)
    (rest : List Sample) :
    lookup (self.bucketSamples i boundaries (UInt64.ofNat (counts.take i).sum) ++ rest)
        (bucketSeries "+Inf") =
      some ((counts.take (i + boundaries.length + 1)).sum % 2 ^ 64) := by
  induction boundaries generalizing i with
  | nil =>
    rw [List.length_nil, Nat.add_zero] at hlength ⊢
    rw [DurationHistogram.bucketSamples, cumulative_add hbuckets hlength, List.singleton_append,
      lookup_cons_self, UInt64.toNat_ofNat']
  | cons boundary boundaries ih =>
    rw [List.length_cons] at hlength ⊢
    rw [DurationHistogram.bucketSamples, cumulative_add hbuckets (by omega), List.cons_append,
      lookup_cons_of_ne (bucketSeries_ne_infinite boundary), ih (by omega)]
    rw [show i + 1 + boundaries.length + 1 = i + (boundaries.length + 1) + 1 by omega]

theorem startsWith_bucketSeries {front : String}
    (h : startsWith "streamline_operator_reconcile_duration_ms_bucket\x7ble=\"" front = true)
    (le : String) : startsWith (bucketSeries le) front = true := by
  rw [bucketSeries_eq]
  exact startsWith_append h _

theorem bucketSeries_isBucket (le : String) :
    startsWith (bucketSeries le) "streamline_operator_reconcile_duration_ms_bucket" = true :=
  startsWith_bucketSeries ((startsWith_ofList _ _).trans (by decide)) le

theorem bucketSeries_isDuration (le : String) :
    startsWith (bucketSeries le) "streamline_operator_reconcile_duration_ms_" = true :=
  startsWith_bucketSeries ((startsWith_ofList _ _).trans (by decide)) le

theorem startsWith_of_mem_bucketSamples {i : Nat} {boundaries : List UInt64} {cumulative : UInt64}
    {sample : Sample} (h : sample ∈ self.bucketSamples i boundaries cumulative) :
    startsWith sample.series "streamline_operator_reconcile_duration_ms_bucket" = true := by
  induction boundaries generalizing i cumulative with
  | nil =>
    rw [DurationHistogram.bucketSamples, List.mem_singleton] at h
    rw [h]
    exact bucketSeries_isBucket _
  | cons boundary boundaries ih =>
    rw [DurationHistogram.bucketSamples, List.mem_cons] at h
    rcases h with rfl | h
    · exact bucketSeries_isBucket _
    · exact ih h

theorem lookup_bucketSamples_other {series : String}
    (hother : startsWith series "streamline_operator_reconcile_duration_ms_bucket" = false)
    {i : Nat} {boundaries : List UInt64} {cumulative : UInt64} (rest : List Sample) :
    lookup (self.bucketSamples i boundaries cumulative ++ rest) series = lookup rest series := by
  refine lookup_append_of_ne ?_
  intro sample hsample heq
  have hstarts := startsWith_of_mem_bucketSamples hsample
  rw [heq, hother] at hstarts
  cases hstarts

end Shown

theorem startsWith_seriesName_resource {name front : String} (hfront : startsWith name front = false)
    (hname : startsWith front name = false) (resource : String) :
    startsWith (seriesName name [("resource", resource)]) front = false := by
  rw [seriesName_resource]
  exact startsWith_eq_false hfront hname _

theorem startsWith_of_mem_counterSamples {metrics : OperatorMetrics} {sample : Sample}
    (h : sample ∈ metrics.counterSamples) :
    startsWith sample.series "streamline_operator_reconcile_duration_ms_" = false := by
  have htotals : ∀ resource, startsWith
      (seriesName "streamline_operator_reconcile_by_resource_total" [("resource", resource)])
      "streamline_operator_reconcile_duration_ms_" = false :=
    startsWith_seriesName_resource ((startsWith_ofList _ _).trans (by decide))
      ((startsWith_ofList _ _).trans (by decide))
  have herrors : ∀ resource, startsWith
      (seriesName "streamline_operator_reconcile_errors_by_resource_total" [("resource", resource)])
      "streamline_operator_reconcile_duration_ms_" = false :=
    startsWith_seriesName_resource ((startsWith_ofList _ _).trans (by decide))
      ((startsWith_ofList _ _).trans (by decide))
  simp only [OperatorMetrics.counterSamples, List.mem_cons, List.not_mem_nil, or_false] at h
  rcases h with rfl | rfl | rfl | rfl | rfl | rfl | rfl | rfl | rfl | rfl | rfl
  · exact (startsWith_ofList _ _).trans (by decide)
  · exact (startsWith_ofList _ _).trans (by decide)
  · exact (startsWith_ofList _ _).trans (by decide)
  · exact htotals "cluster"
  · exact htotals "topic"
  · exact htotals "user"
  · exact herrors "cluster"
  · exact herrors "topic"
  · exact herrors "user"
  · exact (startsWith_ofList _ _).trans (by decide)
  · exact (startsWith_ofList _ _).trans (by decide)

theorem value?_render_of_duration {series : String}
    (h : startsWith series "streamline_operator_reconcile_duration_ms_" = true)
    (metrics : OperatorMetrics) :
    value? metrics.render series = lookup metrics.durationBuckets.samples series := by
  rw [value?, samples_render, samples_histogram]
  refine lookup_append_of_ne ?_
  intro sample hsample heq
  have hstarts := startsWith_of_mem_counterSamples hsample
  rw [heq, h] at hstarts
  cases hstarts

section Page

variable {metrics : OperatorMetrics} {values : List UInt64}

theorem samples_eq_of_counts (self : DurationHistogram) (counts : List Nat) :
    self.samples =
      self.bucketSamples 0 durationBucketsMs (UInt64.ofNat (counts.take 0).sum) ++
        [⟨sumSeries, self.sum.toNat⟩, ⟨countSeries, self.count.toNat⟩] := rfl

theorem countP_boundsMs {i : Nat} (_ : i < durationBucketsMs.length)
    (hbound : i < boundsMs.length) :
    (values.map UInt64.toNat).countP (fun value => value ≤ boundsMs[i]) =
      values.countP (fun value => value ≤ durationBucketsMs[i]) := by
  rw [List.countP_map]
  refine List.countP_congr ?_
  intro value _
  simp only [Function.comp_apply, boundsMs, List.getElem_map, decide_eq_true_eq]
  exact UInt64.le_iff_toNat_le.symm

variable (h : Counted metrics.durationBuckets values)

include h

/-- A bucket shows how many observations its boundary is not below. -/
theorem value?_bucket {i : Nat} (hi : i < durationBucketsMs.length) :
    value? metrics.render (bucketSeries (toString durationBucketsMs[i])) =
      some ((values.countP fun value => value ≤ durationBucketsMs[i]) % 2 ^ 64) := by
  have hbound : i < boundsMs.length := by
    rw [boundsMs, List.length_map]
    exact hi
  have hlength : 0 + i < (Histogram.tally boundsMs (values.map UInt64.toNat)).length := by
    rw [Histogram.length_tally]
    omega
  rw [value?_render_of_duration (bucketSeries_isDuration _),
    samples_eq_of_counts _ (Histogram.tally boundsMs (values.map UInt64.toNat)),
    lookup_bucketSamples h.buckets (by decide) hi hlength, Nat.zero_add,
    Histogram.sum_take_tally_of_bound boundsMs_sorted hbound]
  exact congrArg (fun count => some (count % 2 ^ 64)) (countP_boundsMs hi hbound)

theorem value?_infinite :
    value? metrics.render (bucketSeries "+Inf") = some (values.length % 2 ^ 64) := by
  have hlength : 0 + durationBucketsMs.length <
      (Histogram.tally boundsMs (values.map UInt64.toNat)).length := by
    rw [Histogram.length_tally, boundsMs, List.length_map]
    omega
  have hall : (Histogram.tally boundsMs (values.map UInt64.toNat)).take
      (0 + durationBucketsMs.length + 1) = Histogram.tally boundsMs (values.map UInt64.toNat) := by
    refine List.take_of_length_le ?_
    rw [Histogram.length_tally, boundsMs, List.length_map]
    omega
  rw [value?_render_of_duration (bucketSeries_isDuration _),
    samples_eq_of_counts _ (Histogram.tally boundsMs (values.map UInt64.toNat)),
    lookup_bucketSamples_infinite h.buckets hlength, hall, Histogram.sum_tally, List.length_map]

theorem value?_sum :
    value? metrics.render sumSeries = some ((values.map UInt64.toNat).sum % 2 ^ 64) := by
  have hduration : startsWith sumSeries "streamline_operator_reconcile_duration_ms_" = true :=
    (startsWith_ofList _ _).trans (by decide)
  have hother : startsWith sumSeries "streamline_operator_reconcile_duration_ms_bucket" = false :=
    (startsWith_ofList _ _).trans (by decide)
  rw [value?_render_of_duration hduration, samples_eq_of_counts _ [],
    lookup_bucketSamples_other hother, lookup_cons_self,
    h.sum, UInt64.toNat_ofNat']

theorem value?_count : value? metrics.render countSeries = some (values.length % 2 ^ 64) := by
  have hne : sumSeries ≠ countSeries := by simp [sumSeries, countSeries]
  have hduration : startsWith countSeries "streamline_operator_reconcile_duration_ms_" = true :=
    (startsWith_ofList _ _).trans (by decide)
  have hother : startsWith countSeries "streamline_operator_reconcile_duration_ms_bucket" = false :=
    (startsWith_ofList _ _).trans (by decide)
  rw [value?_render_of_duration hduration, samples_eq_of_counts _ [],
    lookup_bucketSamples_other hother, lookup_cons_of_ne hne,
    lookup_cons_self, h.count, UInt64.toNat_ofNat']

theorem bucketValues_render :
    bucketValues metrics.render =
      (durationBucketsMs.map (fun boundary => (values.countP fun value => value ≤ boundary) % 2 ^ 64)
        ++ [values.length % 2 ^ 64]).map some := by
  simp only [bucketValues, List.map_append, List.map_map, List.map_cons, List.map_nil,
    value?_infinite h]
  rw [List.append_left_inj, List.map_inj_left]
  intro boundary hboundary
  obtain ⟨i, hi, rfl⟩ := List.mem_iff_getElem.mp hboundary
  rw [Function.comp_apply, Function.comp_apply]
  exact value?_bucket h hi

theorem empirical_of_counted (hsum : (values.map UInt64.toNat).sum < 2 ^ 64)
    (hlength : values.length < 2 ^ 64) : Empirical metrics.render values where
  bucket := by
    intro boundary hboundary
    obtain ⟨i, hi, rfl⟩ := List.mem_iff_getElem.mp hboundary
    rw [value?_bucket h hi, Nat.mod_eq_of_lt (Nat.lt_of_le_of_lt List.countP_le_length hlength)]
  increasing := by
    refine ⟨_, bucketValues_render h, ?_⟩
    have hmod : ∀ p : UInt64 → Bool, values.countP p % 2 ^ 64 = values.countP p := by
      intro p
      exact Nat.mod_eq_of_lt (Nat.lt_of_le_of_lt List.countP_le_length hlength)
    simp only [hmod, Nat.mod_eq_of_lt hlength]
    have hsorted : durationBucketsMs.Pairwise (· ≤ ·) := by decide
    rw [List.pairwise_append]
    refine ⟨?_, List.pairwise_singleton _ _, ?_⟩
    · refine hsorted.map _ ?_
      intro lower upper hle
      refine List.countP_mono_left ?_
      intro value _ hvalue
      exact decide_eq_true (UInt64.le_trans (of_decide_eq_true hvalue) hle)
    · intro shown hshown last hlast
      obtain ⟨boundary, -, rfl⟩ := List.mem_map.mp hshown
      rw [List.mem_singleton.mp hlast]
      exact List.countP_le_length
  infinite := by rw [value?_infinite h, value?_count h]
  count := by rw [value?_count h, Nat.mod_eq_of_lt hlength]
  sum := by rw [value?_sum h, Nat.mod_eq_of_lt hsum]

theorem length_lt_of_empirical (hempirical : Empirical metrics.render values) :
    values.length < 2 ^ 64 := by
  have hcount := hempirical.count
  rw [value?_count h, Option.some_inj] at hcount
  have hlt := Nat.mod_lt values.length (show 2 ^ 64 > 0 by decide)
  omega

end Page

/-- Whatever else is recorded, the durations whose sum fits are shown as they are
distributed exactly when their number fits, too. -/
theorem duration_histogram_empirical_iff (calls : List Call)
    (hsum : ((durations calls).map UInt64.toNat).sum < 2 ^ 64) :
    Empirical (run calls).render (durations calls) ↔ (durations calls).length < 2 ^ 64 := by
  constructor
  · exact length_lt_of_empirical (counted_run calls)
  · exact empirical_of_counted (counted_run calls) hsum

/-- Observations on both sides of a boundary and above all of them. -/
theorem duration_histogram_empirical_spread :
    Empirical
      (run [.record (.observeDurationMs 5), .setLeader true, .record (.observeDurationMs 20000),
        .record (.observeDurationMs 6)]).render [5, 20000, 6] :=
  (duration_histogram_empirical_iff
    [.record (.observeDurationMs 5), .setLeader true, .record (.observeDurationMs 20000),
      .record (.observeDurationMs 6)] (by decide)).mpr (by decide)

/-- Observations of nothing, one more than the counters can hold. -/
def emptyReconciles : List Call := List.replicate (2 ^ 64) (.record (.observeDurationMs 0))

theorem durations_emptyReconciles : durations emptyReconciles = List.replicate (2 ^ 64) 0 :=
  List.filterMap_replicate_of_some rfl

/-- The sum of any number of zeros fits; their number is lost at `2 ^ 64`. -/
theorem duration_histogram_not_empirical :
    ¬ ∀ calls : List Call, ((durations calls).map UInt64.toNat).sum < 2 ^ 64 →
      Empirical (run calls).render (durations calls) := by
  intro hall
  have hsum : ((durations emptyReconciles).map UInt64.toNat).sum < 2 ^ 64 := by
    rw [durations_emptyReconciles, List.map_replicate, UInt64.toNat_zero, List.sum_replicate_nat,
      Nat.mul_zero]
    exact Nat.two_pow_pos 64
  have hlength := length_lt_of_empirical (counted_run emptyReconciles) (hall _ hsum)
  rw [durations_emptyReconciles, List.length_replicate] at hlength
  exact Nat.lt_irrefl _ hlength

end StreamlineOperator.Metrics
