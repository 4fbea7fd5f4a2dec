/- source: src/src/metrics.rs
   digest: The counters, the leader gauge and the duration histogram, and the page they are rendered to. -/

import StreamlineOperator.Foundation.Exposition

set_option autoImplicit false
set_option relaxedAutoImplicit false

namespace StreamlineOperator.Metrics

open Foundation

/-- Histogram bucket boundaries in milliseconds. -/
def durationBucketsMs : List UInt64 := [5, 10, 25, 50, 100, 250, 500, 1000, 2500, 5000, 10000]

/-- `buckets[i]` counts the observations in `(boundary i - 1, boundary i]`, the last
bucket those above every boundary. Sums and counts wrap around. -/
structure DurationHistogram where
  buckets : List UInt64
  sum : UInt64
  count : UInt64
  sized : buckets.length = durationBucketsMs.length + 1

namespace DurationHistogram

def new : DurationHistogram where
  buckets := List.replicate (durationBucketsMs.length + 1) 0
  sum := 0
  count := 0
  sized := List.length_replicate

/-- Which bucket an observation goes to: that of the first boundary it does not exceed,
or the last one. -/
def bucketIndex (self : DurationHistogram) (valueMs : UInt64) : Nat :=
  match durationBucketsMs.findIdx? (fun boundary => valueMs ≤ boundary) with
  | some i => i
  | none => self.buckets.length - 1

def observe (self : DurationHistogram) (valueMs : UInt64) : DurationHistogram where
  buckets := self.buckets.modify (self.bucketIndex valueMs) (· + 1)
  sum := self.sum + valueMs
  count := self.count + 1
  sized := (List.length_modify _ _ _).trans self.sized

/-- The series of a bucket. -/
def bucketSeries (le : String) : String :=
  "streamline_operator_reconcile_duration_ms_bucket\x7ble=\"" ++ le ++ "\"\x7d"

/-- The lines of the buckets from the `i`-th on, cumulated, and that of the last one. -/
def bucketLines (self : DurationHistogram) : Nat → List UInt64 → UInt64 → String
  | i, boundary :: boundaries, cumulative =>
    let cumulative := cumulative + self.buckets.getD i 0
    bucketSeries (toString boundary) ++ " " ++ toString cumulative ++ "\n" ++
      bucketLines self (i + 1) boundaries cumulative
  | i, [], cumulative =>
    bucketSeries "+Inf" ++ " " ++ toString (cumulative + self.buckets.getD i 0) ++ "\n"

def render (self : DurationHistogram) : String :=
  "# HELP streamline_operator_reconcile_duration_ms Reconciliation duration in milliseconds\n" ++
  "# TYPE streamline_operator_reconcile_duration_ms histogram\n" ++
  bucketLines self 0 durationBucketsMs 0 ++
  "streamline_operator_reconcile_duration_ms_sum " ++ toString self.sum ++ "\n" ++
  "streamline_operator_reconcile_duration_ms_count " ++ toString self.count ++ "\n"

end DurationHistogram

/-- The process's metrics. The counters wrap around. -/
structure OperatorMetrics where
  reconcileTotal : UInt64
  reconcileSuccess : UInt64
  reconcileErrors : UInt64
  reconcileClusterTotal : UInt64
  reconcileTopicTotal : UInt64
  reconcileUserTotal : UInt64
  reconcileClusterErrors : UInt64
  reconcileTopicErrors : UInt64
  reconcileUserErrors : UInt64
  leaderTransitions : UInt64
  leader : UInt64
  durationBuckets : DurationHistogram

/-- The series of a counter with its labels. -/
def seriesName (name : String) (labels : List (String × String)) : String :=
  if labels.isEmpty then name
  else
    name ++ ("\x7b" ++ ",".intercalate (labels.map fun (k, v) => k ++ "=\"" ++ v ++ "\"") ++ "\x7d")

def pushCounter (name : String) (labels : List (String × String)) (value : UInt64) : String :=
  seriesName name labels ++ " " ++ toString value ++ "\n"

namespace OperatorMetrics

def new : OperatorMetrics where
  reconcileTotal := 0
  reconcileSuccess := 0
  reconcileErrors := 0
  reconcileClusterTotal := 0
  reconcileTopicTotal := 0
  reconcileUserTotal := 0
  reconcileClusterErrors := 0
  reconcileTopicErrors := 0
  reconcileUserErrors := 0
  leaderTransitions := 0
  leader := 0
  durationBuckets := .new

def incReconcile (self : OperatorMetrics) (resource : String) : OperatorMetrics :=
  let self := { self with reconcileTotal := self.reconcileTotal + 1 }
  if resource = "cluster" then
    { self with reconcileClusterTotal := self.reconcileClusterTotal + 1 }
  else if resource = "topic" then
    { self with reconcileTopicTotal := self.reconcileTopicTotal + 1 }
  else if resource = "user" then
    { self with reconcileUserTotal := self.reconcileUserTotal + 1 }
  else self

def incSuccess (self : OperatorMetrics) : OperatorMetrics :=
  { self with reconcileSuccess := self.reconcileSuccess + 1 }

def incError (self : OperatorMetrics) (resource : String) : OperatorMetrics :=
  let self := { self with reconcileErrors := self.reconcileErrors + 1 }
  if resource = "cluster" then
    { self with reconcileClusterErrors := self.reconcileClusterErrors + 1 }
  else if resource = "topic" then
    { self with reconcileTopicErrors := self.reconcileTopicErrors + 1 }
  else if resource = "user" then
    { self with reconcileUserErrors := self.reconcileUserErrors + 1 }
  else self

def incLeaderTransition (self : OperatorMetrics) : OperatorMetrics :=
  { self with leaderTransitions := self.leaderTransitions + 1 }

/-- Set the leadership gauge. -/
def setLeader (self : OperatorMetrics) (leader : Bool) : OperatorMetrics :=
  { self with leader := if leader then 1 else 0 }

def isLeader (self : OperatorMetrics) : Bool := self.leader = 1

/-- Record a reconciliation duration. -/
def observeDurationMs (self : OperatorMetrics) (ms : UInt64) : OperatorMetrics :=
  { self with durationBuckets := self.durationBuckets.observe ms }

/-- The metrics in the text exposition format. -/
def render (self : OperatorMetrics) : String :=
  "# HELP streamline_operator_reconcile_total Total reconciliation attempts\n" ++
  "# TYPE streamline_operator_reconcile_total counter\n" ++
  pushCounter "streamline_operator_reconcile_total" [] self.reconcileTotal ++
  "# HELP streamline_operator_reconcile_success_total Successful reconciliations\n" ++
  "# TYPE streamline_operator_reconcile_success_total counter\n" ++
  pushCounter "streamline_operator_reconcile_success_total" [] self.reconcileSuccess ++
  "# HELP streamline_operator_reconcile_errors_total Failed reconciliations\n" ++
  "# TYPE streamline_operator_reconcile_errors_total counter\n" ++
  pushCounter "streamline_operator_reconcile_errors_total" [] self.reconcileErrors ++
  "# HELP streamline_operator_reconcile_by_resource_total Reconciliations per resource type\n" ++
  "# TYPE streamline_operator_reconcile_by_resource_total counter\n" ++
  pushCounter "streamline_operator_reconcile_by_resource_total" [("resource", "cluster")]
    self.reconcileClusterTotal ++
  pushCounter "streamline_operator_reconcile_by_resource_total" [("resource", "topic")]
    self.reconcileTopicTotal ++
  pushCounter "streamline_operator_reconcile_by_resource_total" [("resource", "user")]
    self.reconcileUserTotal ++
  "# HELP streamline_operator_reconcile_errors_by_resource_total Errors per resource type\n" ++
  "# TYPE streamline_operator_reconcile_errors_by_resource_total counter\n" ++
  pushCounter "streamline_operator_reconcile_errors_by_resource_total" [("resource", "cluster")]
    self.reconcileClusterErrors ++
  pushCounter "streamline_operator_reconcile_errors_by_resource_total" [("resource", "topic")]
    self.reconcileTopicErrors ++
  pushCounter "streamline_operator_reconcile_errors_by_resource_total" [("resource", "user")]
    self.reconcileUserErrors ++
  "# HELP streamline_operator_leader_transitions_total Leader election transitions\n" ++
  "# TYPE streamline_operator_leader_transitions_total counter\n" ++
  pushCounter "streamline_operator_leader_transitions_total" [] self.leaderTransitions ++
  "# HELP streamline_operator_leader 1 if this replica holds the leader Lease, else 0\n" ++
  "# TYPE streamline_operator_leader gauge\n" ++
  pushCounter "streamline_operator_leader" [] self.leader ++
  self.durationBuckets.render

end OperatorMetrics

/-- What a task of the process may record. -/
inductive Recording where
  | incReconcile (resource : String)
  | incSuccess
  | incError (resource : String)
  | incLeaderTransition
  | observeDurationMs (ms : UInt64)
  deriving DecidableEq, Repr

def OperatorMetrics.record (self : OperatorMetrics) : Recording → OperatorMetrics
  | .incReconcile resource => self.incReconcile resource
  | .incSuccess => self.incSuccess
  | .incError resource => self.incError resource
  | .incLeaderTransition => self.incLeaderTransition
  | .observeDurationMs ms => self.observeDurationMs ms

/-! The page read back. -/

open Exposition

/-- The bucket samples from the `i`-th bucket on. -/
def DurationHistogram.bucketSamples (self : DurationHistogram) :
    Nat → List UInt64 → UInt64 → List Sample
  | i, boundary :: boundaries, cumulative =>
    ⟨bucketSeries (toString boundary), (cumulative + self.buckets.getD i 0).toNat⟩ ::
      bucketSamples self (i + 1) boundaries (cumulative + self.buckets.getD i 0)
  | i, [], cumulative => [⟨bucketSeries "+Inf", (cumulative + self.buckets.getD i 0).toNat⟩]

def DurationHistogram.samples (self : DurationHistogram) : List Sample :=
  self.bucketSamples 0 durationBucketsMs 0 ++
    [⟨"streamline_operator_reconcile_duration_ms_sum", self.sum.toNat⟩,
      ⟨"streamline_operator_reconcile_duration_ms_count", self.count.toNat⟩]

def OperatorMetrics.counterSamples (self : OperatorMetrics) : List Sample :=
  [⟨"streamline_operator_reconcile_total", self.reconcileTotal.toNat⟩,
    ⟨"streamline_operator_reconcile_success_total", self.reconcileSuccess.toNat⟩,
    ⟨"streamline_operator_reconcile_errors_total", self.reconcileErrors.toNat⟩,
    ⟨seriesName "streamline_operator_reconcile_by_resource_total" [("resource", "cluster")],
      self.reconcileClusterTotal.toNat⟩,
    ⟨seriesName "streamline_operator_reconcile_by_resource_total" [("resource", "topic")],
      self.reconcileTopicTotal.toNat⟩,
    ⟨seriesName "streamline_operator_reconcile_by_resource_total" [("resource", "user")],
      self.reconcileUserTotal.toNat⟩,
    ⟨seriesName "streamline_operator_reconcile_errors_by_resource_total" [("resource", "cluster")],
      self.reconcileClusterErrors.toNat⟩,
    ⟨seriesName "streamline_operator_reconcile_errors_by_resource_total" [("resource", "topic")],
      self.reconcileTopicErrors.toNat⟩,
    ⟨seriesName "streamline_operator_reconcile_errors_by_resource_total" [("resource", "user")],
      self.reconcileUserErrors.toNat⟩,
    ⟨"streamline_operator_leader_transitions_total", self.leaderTransitions.toNat⟩,
    ⟨"streamline_operator_leader", self.leader.toNat⟩]

/-! The lines of the counters. -/

theorem samples_pushCounter {name : String} {labels : List (String × String)}
    (h : IsSeries (seriesName name labels)) (value : UInt64) (rest : String) :
    samples (pushCounter name labels value ++ rest) =
      ⟨seriesName name labels, value.toNat⟩ :: samples rest := by
  have hvalue : toString value = value.toNat.repr := rfl
  rw [pushCounter, hvalue, String.append_assoc, String.append_assoc, String.append_assoc,
    samples_sample h]

theorem seriesName_resource (name resource : String) :
    seriesName name [("resource", resource)] =
      name ++ ("\x7b" ++ ("resource" ++ "=\"" ++ resource ++ "\"") ++ "\x7d") := rfl

theorem isSeries_resource {name resource : List Char} (hname : isSeriesText name = true)
    (hresource : isSeriesText resource = true) :
    IsSeries (seriesName (String.ofList name) [("resource", String.ofList resource)]) := by
  rw [seriesName_resource]
  refine (isSeries_ofList hname).append ?_
  have hline := (isSeries_ofList hresource).newline_notMem
  simpa [String.toList_append] using hline

theorem samples_counter {help type name : List Char} (hhelp : isCommentLine help = true)
    (htype : isCommentLine type = true) (hname : isSeriesText name = true) (value : UInt64)
    (rest : String) :
    samples (String.ofList help ++ (String.ofList type ++
      (pushCounter (String.ofList name) [] value ++ rest))) =
      ⟨String.ofList name, value.toNat⟩ :: samples rest := by
  have hseries : IsSeries (seriesName (String.ofList name) []) := isSeries_ofList hname
  rw [samples_comment hhelp, samples_comment htype, samples_pushCounter hseries]
  rfl

theorem samples_resourceCounters {help type name : List Char} (hhelp : isCommentLine help = true)
    (htype : isCommentLine type = true) (hname : isSeriesText name = true)
    (cluster topic user : UInt64) (rest : String) :
    samples (String.ofList help ++ (String.ofList type ++
      (pushCounter (String.ofList name) [("resource", "cluster")] cluster ++
        (pushCounter (String.ofList name) [("resource", "topic")] topic ++
          (pushCounter (String.ofList name) [("resource", "user")] user ++ rest))))) =
      ⟨seriesName (String.ofList name) [("resource", "cluster")], cluster.toNat⟩ ::
        ⟨seriesName (String.ofList name) [("resource", "topic")], topic.toNat⟩ ::
          ⟨seriesName (String.ofList name) [("resource", "user")], user.toNat⟩ :: samples rest := by
  have hcluster : IsSeries (seriesName (String.ofList name) [("resource", "cluster")]) :=
    isSeries_resource hname (by decide)
  have htopic : IsSeries (seriesName (String.ofList name) [("resource", "topic")]) :=
    isSeries_resource hname (by decide)
  have huser : IsSeries (seriesName (String.ofList name) [("resource", "user")]) :=
    isSeries_resource hname (by decide)
  rw [samples_comment hhelp, samples_comment htype, samples_pushCounter hcluster,
    samples_pushCounter htopic, samples_pushCounter huser]

theorem samples_render (self : OperatorMetrics) :
    samples self.render = self.counterSamples ++ samples self.durationBuckets.render := by
  unfold OperatorMetrics.render OperatorMetrics.counterSamples
  simp only [String.append_assoc, List.cons_append, List.nil_append]
  refine Eq.trans (samples_counter (by decide) (by decide) (by decide) _ _) (congrArg _ ?_)
  refine Eq.trans (samples_counter (by decide) (by decide) (by decide) _ _) (congrArg _ ?_)
  refine Eq.trans (samples_counter (by decide) (by decide) (by decide) _ _) (congrArg _ ?_)
  refine Eq.trans (samples_resourceCounters (by decide) (by decide) (by decide) _ _ _ _)
    (congrArg _ (congrArg _ (congrArg _ ?_)))
  refine Eq.trans (samples_resourceCounters (by decide) (by decide) (by decide) _ _ _ _)
    (congrArg _ (congrArg _ (congrArg _ ?_)))
  refine Eq.trans (samples_counter (by decide) (by decide) (by decide) _ _) (congrArg _ ?_)
  refine Eq.trans (samples_counter (by decide) (by decide) (by decide) _ _) rfl

/-! The lines of the histogram. -/

theorem toString_uint64 (value : UInt64) : toString value = value.toNat.repr := rfl

theorem bucketSeries_eq (le : String) :
    DurationHistogram.bucketSeries le =
      "streamline_operator_reconcile_duration_ms_bucket\x7ble=\"" ++ (le ++ "\"\x7d") :=
  String.append_assoc

theorem isSeries_bucketSeries {le : String} (hle : '\n' ∉ le.toList) :
    IsSeries (DurationHistogram.bucketSeries le) := by
  have hname : IsSeries "streamline_operator_reconcile_duration_ms_bucket\x7ble=\"" :=
    isSeries_ofList (by decide)
  have hlabels : '\n' ∉ (le ++ "\"\x7d").toList := by
    simpa [String.toList_append] using hle
  rw [bucketSeries_eq]
  exact hname.append hlabels

theorem newline_notMem_toString (value : UInt64) : '\n' ∉ (toString value).toList := by
  intro hmem
  exact absurd (isDigit_of_mem_repr hmem) (by decide)

theorem samples_bucketLines (self : DurationHistogram) (i : Nat) (boundaries : List UInt64)
    (cumulative : UInt64) (rest : String) :
    samples (self.bucketLines i boundaries cumulative ++ rest) =
      self.bucketSamples i boundaries cumulative ++ samples rest := by
  induction boundaries generalizing i cumulative with
  | nil =>
    have hseries := @isSeries_bucketSeries "+Inf" (by decide)
    simp only [DurationHistogram.bucketLines, DurationHistogram.bucketSamples, toString_uint64,
      String.append_assoc]
    exact samples_sample hseries _ rest
  | cons boundary boundaries ih =>
    have hseries := isSeries_bucketSeries (newline_notMem_toString boundary)
    simp only [DurationHistogram.bucketLines, DurationHistogram.bucketSamples,
      toString_uint64 (cumulative + _), String.append_assoc]
    rw [samples_sample hseries, ih, List.cons_append]

theorem samples_spaced {spaced name : String} (hspaced : spaced = name ++ " ")
    (hname : IsSeries name) (value : UInt64) (rest : String) :
    samples (spaced ++ (toString value ++ ("\n" ++ rest))) =
      ⟨name, value.toNat⟩ :: samples rest := by
  rw [hspaced, toString_uint64, String.append_assoc, samples_sample hname]

theorem samples_histogram (self : DurationHistogram) : samples self.render = self.samples := by
  have hsum : IsSeries "streamline_operator_reconcile_duration_ms_sum" :=
    isSeries_ofList (by decide)
  have hcount : IsSeries "streamline_operator_reconcile_duration_ms_count" :=
    isSeries_ofList (by decide)
  unfold DurationHistogram.render DurationHistogram.samples
  simp only [String.append_assoc]
  refine Eq.trans (samples_comment (by decide) _) ?_
  refine Eq.trans (samples_comment (by decide) _) ?_
  refine Eq.trans (samples_bucketLines self 0 durationBucketsMs 0 _) (congrArg _ ?_)
  refine Eq.trans (samples_spaced (by simp) hsum self.sum _) (congrArg _ ?_)
  have hend : "\n" = "\n" ++ "" := String.append_empty.symm
  rw [hend, samples_spaced (by simp) hcount, samples_empty]

theorem seriesName_resource_ne {name series : String} (h : startsWith series name = false)
    (resource : String) : seriesName name [("resource", resource)] ≠ series := by
  rintro rfl
  rw [seriesName_resource, startsWith_append (startsWith_self name)] at h
  cases h

theorem value?_leader (self : OperatorMetrics) :
    value? self.render "streamline_operator_leader" = some self.leader.toNat := by
  have htotals : ∀ resource,
      seriesName "streamline_operator_reconcile_by_resource_total" [("resource", resource)] ≠
        "streamline_operator_leader" :=
    seriesName_resource_ne ((startsWith_ofList _ _).trans (by decide))
  have herrors : ∀ resource,
      seriesName "streamline_operator_reconcile_errors_by_resource_total" [("resource", resource)] ≠
        "streamline_operator_leader" :=
    seriesName_resource_ne ((startsWith_ofList _ _).trans (by decide))
  rw [value?, samples_render]
  unfold OperatorMetrics.counterSamples
  simp only [List.cons_append]
  iterate 3 rw [lookup_cons_of_ne (by simp)]
  iterate 3 rw [lookup_cons_of_ne (htotals _)]
  iterate 3 rw [lookup_cons_of_ne (herrors _)]
  rw [lookup_cons_of_ne (by simp), lookup_cons_self]

end StreamlineOperator.Metrics
