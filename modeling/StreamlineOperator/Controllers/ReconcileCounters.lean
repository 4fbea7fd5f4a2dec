/- source: src/src/controllers/{cluster,topic,user}.rs (reconcile, the error policies of run); src/src/metrics.rs
   digest: The counters tell failed reconciles from others, but for the topics whose trouble is overlooked. -/

import Mathlib.Algebra.Group.Nat.Defs
import StreamlineOperator.Controllers.TopicAccount
import StreamlineOperator.Metrics

set_option autoImplicit false
set_option relaxedAutoImplicit false

namespace StreamlineOperator.Controllers

open Foundation
open Kubernetes
open Crd (StreamlineCluster StreamlineTopic StreamlineUser)
open Metrics (OperatorMetrics Recording)

/-- A completed reconcile of one of the three kinds, with all that happened in it. -/
inductive Reconcile (Spec : Type) where
  | cluster (object : StreamlineCluster) (tr : List ApiExchange)
      (res : Except OperatorError Action)
      (runs : Program.Runs (ClusterController.reconcile object) tr res)
  | topic (object : StreamlineTopic) (tr : List ApiExchange) (res : Except OperatorError Action)
      (runs : Program.Runs (TopicController.reconcile object) tr res)
  | user (object : StreamlineUser Spec) (tr : List ApiExchange)
      (res : Except OperatorError Action)
      (runs : Program.Runs (UserController.reconcile object) tr res)

/-- The call of the metrics that an event stands for. -/
def recording : MetricEvent → Recording
  | .incReconcile resource => .incReconcile resource
  | .incSuccess => .incSuccess
  | .incError resource => .incError resource

variable {Spec : Type}

namespace Reconcile

def resource : Reconcile Spec → String
  | cluster .. => "cluster"
  | topic .. => "topic"
  | user .. => "user"

/-- What it recorded, with the error policy after it. -/
def events : Reconcile Spec → List MetricEvent
  | cluster _ tr res _ => recorded "cluster" tr res
  | topic _ tr res _ => recorded "topic" tr res
  | user _ tr res _ => recorded "user" tr res

/-- It returned an error or built a status with phase `Failed`. -/
def failed : Reconcile Spec → Bool
  | cluster object tr res _ =>
    Controllers.failed (object.status.map fun status => status.phase.text) tr res
  | topic object tr res _ =>
    Controllers.failed (object.status.map fun status => status.phase.text) tr res
  | user object tr res _ =>
    Controllers.failed (object.status.map fun status => status.phase.text) tr res

def overlooked : Reconcile Spec → Bool
  | topic object tr _ _ => Controllers.overlooked object tr
  | _ => false

theorem account (r : Reconcile Spec) : Account r.resource r.events r.failed r.overlooked := by
  cases r with
  | cluster object tr res runs => exact account_cluster object runs
  | topic object tr res runs => exact account_topic object runs
  | user object tr res runs => exact account_user object runs

def succeeded (r : Reconcile Spec) : Bool := r.events.contains .incSuccess

/-- It failed and this was not overlooked. -/
def counted (r : Reconcile Spec) : Bool := r.failed && !r.overlooked

end Reconcile

/-- The metrics of a process after some reconciles. -/
def metricsAfter (rs : List (Reconcile Spec)) : OperatorMetrics :=
  (rs.flatMap fun r => r.events.map recording).foldl OperatorMetrics.record .new

/-- The counters tell the failures from the successes. -/
structure CountersTell (rs : List (Reconcile Spec)) : Prop where
  total : (metricsAfter rs).reconcileTotal.toNat = rs.length
  totals : (metricsAfter rs).reconcileTotal.toNat =
    (metricsAfter rs).reconcileClusterTotal.toNat + (metricsAfter rs).reconcileTopicTotal.toNat +
      (metricsAfter rs).reconcileUserTotal.toNat
  errors : (metricsAfter rs).reconcileErrors.toNat = rs.countP Reconcile.failed
  errorTotals : (metricsAfter rs).reconcileErrors.toNat =
    (metricsAfter rs).reconcileClusterErrors.toNat +
      (metricsAfter rs).reconcileTopicErrors.toNat + (metricsAfter rs).reconcileUserErrors.toNat
  successes : (metricsAfter rs).reconcileSuccess.toNat = rs.countP Reconcile.succeeded
  honest : ∀ r ∈ rs, r.failed = true → r.succeeded = false

/-! What a counter holds. -/

section Counters

variable {counter : OperatorMetrics → UInt64} {counts : Recording → Bool}

/-- A counter that one call moves by at most one holds the number of calls that move it. -/
theorem counter_foldl
    (hrecord : ∀ m r, counter (m.record r) = counter m + if counts r then 1 else 0)
    (recordings : List Recording) (m : OperatorMetrics) :
    counter (recordings.foldl OperatorMetrics.record m) =
      counter m + UInt64.ofNat (recordings.countP counts) := by
  induction recordings generalizing m with
  | nil => simp
  | cons r recordings ih =>
    rw [List.foldl_cons, ih, hrecord, List.countP_cons, Nat.add_comm, UInt64.ofNat_add,
      ← UInt64.add_assoc]
    cases counts r <;> rfl

private theorem countP_flatMap {q : Reconcile Spec → Bool} {rs : List (Reconcile Spec)}
    (h : ∀ r ∈ rs, (r.events.map recording).countP counts = if q r then 1 else 0) :
    (rs.flatMap fun r => r.events.map recording).countP counts = rs.countP q := by
  induction rs with
  | nil => rfl
  | cons r rs ih =>
    obtain ⟨hr, hrs⟩ := List.forall_mem_cons.mp h
    rw [List.flatMap_cons, List.countP_append, List.countP_cons, hr, ih hrs, Nat.add_comm]

theorem counter_metricsAfter
    (hrecord : ∀ m r, counter (m.record r) = counter m + if counts r then 1 else 0)
    (hnew : counter .new = 0) {q : Reconcile Spec → Bool}
    (h : ∀ r : Reconcile Spec,
      (r.events.map recording).countP counts = if q r then 1 else 0)
    (rs : List (Reconcile Spec)) :
    (counter (metricsAfter rs)).toNat = rs.countP q % 2 ^ 64 := by
  rw [metricsAfter, counter_foldl hrecord, hnew, UInt64.zero_add,
    countP_flatMap fun r _ => h r, UInt64.toNat_ofNat']

end Counters

def isReconcile : Recording → Bool
  | .incReconcile _ => true
  | _ => false

def isError : Recording → Bool
  | .incError _ => true
  | _ => false

/-- What one reconcile adds to the counters. -/
structure Adds (r : Reconcile Spec) : Prop where
  reconciles : (r.events.map recording).countP isReconcile = 1
  kind : ∀ resource, (r.events.map recording).countP (· = .incReconcile resource) =
    if r.resource = resource then 1 else 0
  errors : (r.events.map recording).countP isError = if r.counted then 1 else 0
  kindErrors : ∀ resource, (r.events.map recording).countP (· = .incError resource) =
    if r.resource = resource ∧ r.counted then 1 else 0
  successes : (r.events.map recording).countP (· = .incSuccess) = if r.succeeded then 1 else 0

theorem Reconcile.adds (r : Reconcile Spec) : Adds r := by
  rcases r.account with ⟨hevents, hfailed, hseen⟩ | ⟨hevents | hevents, hfailed⟩
  · have hcounted : r.counted = true := by simp [counted, hfailed, hseen]
    have hsucceeded : r.succeeded = false := by simp [succeeded, hevents]
    constructor <;>
      simp [hevents, hcounted, hsucceeded, recording, List.countP_cons, isReconcile, isError]
  · have hcounted : r.counted = false := by simp [counted, hfailed]
    have hsucceeded : r.succeeded = false := by simp [succeeded, hevents]
    constructor <;>
      simp [hevents, hcounted, hsucceeded, recording, isReconcile, isError]
  · have hcounted : r.counted = false := by simp [counted, hfailed]
    have hsucceeded : r.succeeded = true := by simp [succeeded, hevents]
    constructor <;>
      simp [hevents, hcounted, hsucceeded, recording, List.countP_cons, isReconcile, isError]

theorem Reconcile.failed_of_overlooked {r : Reconcile Spec} (h : r.overlooked = true) :
    r.failed = true := by
  rcases r.account with ⟨-, -, hseen⟩ | ⟨-, hfailed⟩
  · rw [hseen] at h
    cases h
  · rw [hfailed, h]

theorem Reconcile.succeeded_eq_false {r : Reconcile Spec} (h : r.overlooked = false)
    (hfailed : r.failed = true) : r.succeeded = false := by
  rcases r.account with ⟨hevents, -, -⟩ | ⟨-, hsame⟩
  · simp [succeeded, hevents]
  · rw [hsame, h] at hfailed
    cases hfailed

/-- What one call does to the counters. -/
structure Moves (m : OperatorMetrics) (r : Recording) : Prop where
  total : (m.record r).reconcileTotal = m.reconcileTotal + if isReconcile r then 1 else 0
  clusterTotal : (m.record r).reconcileClusterTotal =
    m.reconcileClusterTotal + if decide (r = .incReconcile "cluster") then 1 else 0
  topicTotal : (m.record r).reconcileTopicTotal =
    m.reconcileTopicTotal + if decide (r = .incReconcile "topic") then 1 else 0
  userTotal : (m.record r).reconcileUserTotal =
    m.reconcileUserTotal + if decide (r = .incReconcile "user") then 1 else 0
  errors : (m.record r).reconcileErrors = m.reconcileErrors + if isError r then 1 else 0
  clusterErrors : (m.record r).reconcileClusterErrors =
    m.reconcileClusterErrors + if decide (r = .incError "cluster") then 1 else 0
  topicErrors : (m.record r).reconcileTopicErrors =
    m.reconcileTopicErrors + if decide (r = .incError "topic") then 1 else 0
  userErrors : (m.record r).reconcileUserErrors =
    m.reconcileUserErrors + if decide (r = .incError "user") then 1 else 0
  successes : (m.record r).reconcileSuccess =
    m.reconcileSuccess + if decide (r = .incSuccess) then 1 else 0

theorem record_moves (m : OperatorMetrics) (r : Recording) : Moves m r := by
  cases r with
  | incReconcile resource =>
    by_cases hcluster : resource = "cluster"
    · constructor <;>
        simp [OperatorMetrics.record, OperatorMetrics.incReconcile, hcluster, isReconcile, isError]
    by_cases htopic : resource = "topic"
    · constructor <;>
        simp [OperatorMetrics.record, OperatorMetrics.incReconcile, htopic, isReconcile, isError]
    by_cases huser : resource = "user"
    · constructor <;>
        simp [OperatorMetrics.record, OperatorMetrics.incReconcile, huser, isReconcile, isError]
    constructor <;>
      simp [OperatorMetrics.record, OperatorMetrics.incReconcile, hcluster, htopic, huser,
        isReconcile, isError]
  | incError resource =>
    by_cases hcluster : resource = "cluster"
    · constructor <;>
        simp [OperatorMetrics.record, OperatorMetrics.incError, hcluster, isReconcile, isError]
    by_cases htopic : resource = "topic"
    · constructor <;>
        simp [OperatorMetrics.record, OperatorMetrics.incError, htopic, isReconcile, isError]
    by_cases huser : resource = "user"
    · constructor <;>
        simp [OperatorMetrics.record, OperatorMetrics.incError, huser, isReconcile, isError]
    constructor <;>
      simp [OperatorMetrics.record, OperatorMetrics.incError, hcluster, htopic, huser,
        isReconcile, isError]
  | incSuccess =>
    constructor <;>
      simp [OperatorMetrics.record, OperatorMetrics.incSuccess, isReconcile, isError]
  | incLeaderTransition =>
    constructor <;>
      simp [OperatorMetrics.record, OperatorMetrics.incLeaderTransition, isReconcile, isError]
  | observeDurationMs ms =>
    constructor <;>
      simp [OperatorMetrics.record, OperatorMetrics.observeDurationMs, isReconcile, isError]

/-- What the counters hold after some reconciles. -/
structure Holds (rs : List (Reconcile Spec)) : Prop where
  total : (metricsAfter rs).reconcileTotal.toNat = rs.length % 2 ^ 64
  clusterTotal : (metricsAfter rs).reconcileClusterTotal.toNat =
    rs.countP (fun r => r.resource = "cluster") % 2 ^ 64
  topicTotal : (metricsAfter rs).reconcileTopicTotal.toNat =
    rs.countP (fun r => r.resource = "topic") % 2 ^ 64
  userTotal : (metricsAfter rs).reconcileUserTotal.toNat =
    rs.countP (fun r => r.resource = "user") % 2 ^ 64
  errors : (metricsAfter rs).reconcileErrors.toNat = rs.countP Reconcile.counted % 2 ^ 64
  clusterErrors : (metricsAfter rs).reconcileClusterErrors.toNat =
    rs.countP (fun r => r.resource = "cluster" ∧ r.counted) % 2 ^ 64
  topicErrors : (metricsAfter rs).reconcileTopicErrors.toNat =
    rs.countP (fun r => r.resource = "topic" ∧ r.counted) % 2 ^ 64
  userErrors : (metricsAfter rs).reconcileUserErrors.toNat =
    rs.countP (fun r => r.resource = "user" ∧ r.counted) % 2 ^ 64
  successes : (metricsAfter rs).reconcileSuccess.toNat =
    rs.countP Reconcile.succeeded % 2 ^ 64

private theorem kindTotal_metricsAfter {counter : OperatorMetrics → UInt64} {resource : String}
    (hrecord : ∀ m r, counter (m.record r) =
      counter m + if decide (r = .incReconcile resource) then 1 else 0)
    (hnew : counter .new = 0) (rs : List (Reconcile Spec)) :
    (counter (metricsAfter rs)).toNat =
      rs.countP (fun r => r.resource = resource) % 2 ^ 64 := by
  refine counter_metricsAfter hrecord hnew (fun r => ?_) rs
  simp only [r.adds.kind resource, decide_eq_true_eq]

private theorem kindErrors_metricsAfter {counter : OperatorMetrics → UInt64} {resource : String}
    (hrecord : ∀ m r, counter (m.record r) =
      counter m + if decide (r = .incError resource) then 1 else 0)
    (hnew : counter .new = 0) (rs : List (Reconcile Spec)) :
    (counter (metricsAfter rs)).toNat =
      rs.countP (fun r => r.resource = resource ∧ r.counted) % 2 ^ 64 := by
  refine counter_metricsAfter hrecord hnew (fun r => ?_) rs
  simp only [r.adds.kindErrors resource, decide_eq_true_eq]

theorem metricsAfter_holds (rs : List (Reconcile Spec)) : Holds rs where
  total := by
    have hcount := @counter_metricsAfter Spec _ _ (fun m r => (record_moves m r).total) rfl
      (fun _ => true) (fun r => r.adds.reconciles) rs
    rw [hcount, List.countP_true]
  clusterTotal := kindTotal_metricsAfter (fun m r => (record_moves m r).clusterTotal) rfl rs
  topicTotal := kindTotal_metricsAfter (fun m r => (record_moves m r).topicTotal) rfl rs
  userTotal := kindTotal_metricsAfter (fun m r => (record_moves m r).userTotal) rfl rs
  errors := counter_metricsAfter (fun m r => (record_moves m r).errors) rfl
    (fun r => r.adds.errors) rs
  clusterErrors := kindErrors_metricsAfter (fun m r => (record_moves m r).clusterErrors) rfl rs
  topicErrors := kindErrors_metricsAfter (fun m r => (record_moves m r).topicErrors) rfl rs
  userErrors := kindErrors_metricsAfter (fun m r => (record_moves m r).userErrors) rfl rs
  successes := counter_metricsAfter (fun m r => (record_moves m r).successes) rfl
    (fun r => r.adds.successes) rs

private theorem countP_kinds (q : Reconcile Spec → Bool) (rs : List (Reconcile Spec)) :
    rs.countP (fun r => r.resource = "cluster" ∧ q r) +
        rs.countP (fun r => r.resource = "topic" ∧ q r) +
        rs.countP (fun r => r.resource = "user" ∧ q r) = rs.countP q := by
  induction rs with
  | nil => rfl
  | cons r rs ih =>
    have hkind : r.resource = "cluster" ∨ r.resource = "topic" ∨ r.resource = "user" := by
      cases r <;> simp [Reconcile.resource]
    simp only [List.countP_cons, ← ih]
    rcases hkind with hkind | hkind | hkind <;> simp [hkind] <;> omega

private theorem countP_failed (rs : List (Reconcile Spec)) :
    rs.countP Reconcile.failed =
      rs.countP Reconcile.counted + rs.countP Reconcile.overlooked := by
  induction rs with
  | nil => rfl
  | cons r rs ih =>
    simp only [List.countP_cons, ih]
    cases hseen : r.overlooked with
    | false => simp [Reconcile.counted, hseen, Nat.add_right_comm]
    | true => simp [Reconcile.counted, hseen, r.failed_of_overlooked hseen, Nat.add_assoc]

variable {rs : List (Reconcile Spec)}

theorem CountersTell.length_lt (h : CountersTell rs) : rs.length < 2 ^ 64 := by
  have htotal := h.total
  rw [(metricsAfter_holds rs).total] at htotal
  rw [← htotal]
  exact Nat.mod_lt _ (by decide)

theorem CountersTell.overlooked_eq_false (h : CountersTell rs) :
    ∀ r ∈ rs, r.overlooked = false := by
  have hcounted : rs.countP Reconcile.counted < 2 ^ 64 :=
    Nat.lt_of_le_of_lt List.countP_le_length h.length_lt
  have herrors : rs.countP Reconcile.counted = rs.countP Reconcile.failed := by
    rw [← h.errors, (metricsAfter_holds rs).errors, Nat.mod_eq_of_lt hcounted]
  have hnone : rs.countP Reconcile.overlooked = 0 := by
    have hfailed := countP_failed rs
    omega
  intro r hr
  exact Bool.eq_false_iff.mpr (List.countP_eq_zero.mp hnone r hr)

theorem countersTell_of_seen (hlength : rs.length < 2 ^ 64)
    (hseen : ∀ r ∈ rs, r.overlooked = false) : CountersTell rs := by
  have hholds := metricsAfter_holds rs
  -- no counter has wrapped around
  have hcountP : ∀ q : Reconcile Spec → Bool, rs.countP q % 2 ^ 64 = rs.countP q :=
    fun q => Nat.mod_eq_of_lt (Nat.lt_of_le_of_lt List.countP_le_length hlength)
  have hfailed : rs.countP Reconcile.counted = rs.countP Reconcile.failed := by
    have hnone : rs.countP Reconcile.overlooked = 0 :=
      List.countP_eq_zero.mpr fun r hr => Bool.eq_false_iff.mp (hseen r hr)
    rw [countP_failed, hnone, Nat.add_zero]
  refine ⟨?_, ?_, ?_, ?_, ?_, ?_⟩
  · rw [hholds.total, Nat.mod_eq_of_lt hlength]
  · have hkinds := countP_kinds (fun _ => true) rs
    simp only [and_true, List.countP_true] at hkinds
    rw [hholds.total, hholds.clusterTotal, hholds.topicTotal, hholds.userTotal, hcountP, hcountP,
      hcountP, hkinds, Nat.mod_eq_of_lt hlength]
  · rw [hholds.errors, hcountP, hfailed]
  · rw [hholds.errors, hholds.clusterErrors, hholds.topicErrors, hholds.userErrors, hcountP,
      hcountP, hcountP, hcountP, countP_kinds]
  · rw [hholds.successes, hcountP]
  · exact fun r hr hfail => r.succeeded_eq_false (hseen r hr) hfail

/-- The counters tell the failures from the successes exactly as long as the reconciles can
be counted and none of them is of a topic whose trouble is overlooked. -/
theorem reconcile_counters_iff (rs : List (Reconcile Spec)) :
    CountersTell rs ↔ rs.length < 2 ^ 64 ∧ ∀ r ∈ rs, r.overlooked = false := by
  constructor
  · intro htell
    exact ⟨htell.length_lt, htell.overlooked_eq_false⟩
  · rintro ⟨hlength, hseen⟩
    exact countersTell_of_seen hlength hseen

/-- A topic of a cluster that does not exist. -/
def strayTopic : StreamlineTopic where
  metadata :=
    { name := some "orders", namespaceName := some "streamline",
      finalizers := some [Conditions.topicFinalizer] }
  spec := { clusterRef := "events" }
  status := none

/-- Its reconcile publishes `Failed` and returns, and counts as neither. -/
theorem reconcile_counters_stray :
    ¬ ∀ rs : List (Reconcile Unit), CountersTell rs := by
  intro htell
  have hruns := Program.runs_answer emptyServer (TopicController.reconcile strayTopic)
  have hseen : overlooked strayTopic
      ((TopicController.reconcile strayTopic).answer emptyServer).1 = false :=
    (htell [.topic strayTopic _ _ hruns]).overlooked_eq_false _ List.mem_cons_self
  have hoverlooked : overlooked strayTopic
      ((TopicController.reconcile strayTopic).answer emptyServer).1 = true := by decide
  rw [hoverlooked] at hseen
  cases hseen

end StreamlineOperator.Controllers
