/- source: src/src/health.rs; src/src/metrics.rs (set_leader, is_leader); src/src/main.rs (the /metrics page)
   digest: Readiness and leadership in shared cells, the probes, and when the leader gauge agrees. -/

import StreamlineOperator.Foundation.Histories
import StreamlineOperator.Metrics

set_option autoImplicit false
set_option relaxedAutoImplicit false

namespace StreamlineOperator.Health

open Foundation
open Metrics (OperatorMetrics Recording)

/-- What the tasks of the process share: the flags, by cell, and the global metrics. -/
structure Process where
  flags : Nat → Bool
  metrics : OperatorMetrics

/-- `flag.store(value)`. -/
def Process.store (self : Process) (cell : Nat) (value : Bool) : Process :=
  { self with flags := fun c => if c = cell then value else self.flags c }

/-- A handle on the two flags. It holds references to their cells, not the flags. -/
structure ReadinessState where
  ready : Nat
  leader : Nat
  distinct : ready ≠ leader

namespace ReadinessState

/-- The handle on two new cells. -/
def new : ReadinessState where
  ready := 0
  leader := 1
  distinct := Nat.zero_ne_one

/-- A clone refers to the same cells. -/
def clone (self : ReadinessState) : ReadinessState := self

def markReady (self : ReadinessState) (process : Process) : Process :=
  process.store self.ready true

/-- Losing readiness also loses leadership. The gauge is not touched. -/
def markUnready (self : ReadinessState) (process : Process) : Process :=
  (process.store self.ready false).store self.leader false

def markLeader (self : ReadinessState) (process : Process) : Process :=
  let process := process.store self.leader true
  { process with metrics := process.metrics.setLeader true }

def markStandby (self : ReadinessState) (process : Process) : Process :=
  let process := process.store self.leader false
  { process with metrics := process.metrics.setLeader false }

def isReady (self : ReadinessState) (process : Process) : Bool := process.flags self.ready

def isLeader (self : ReadinessState) (process : Process) : Bool := process.flags self.leader

end ReadinessState

/-- The status code and the text of an answer. -/
structure Answer where
  status : Nat
  text : String
  deriving DecidableEq, Repr

def healthz : Answer := ⟨200, "ok"⟩

def readyz (state : ReadinessState) (process : Process) : Answer :=
  if state.isReady process then ⟨200, "ok"⟩ else ⟨503, "operator not initialised"⟩

def leaderz (state : ReadinessState) (process : Process) : Answer :=
  if state.isLeader process then ⟨200, "leader"⟩ else ⟨503, "standby"⟩

/-- The probe router. -/
def router (state : ReadinessState) (process : Process) (path : String) : Answer :=
  if path = "/healthz" then healthz
  else if path = "/readyz" then readyz state process
  else if path = "/leaderz" then leaderz state process
  else ⟨404, ""⟩

/-- What `/metrics` answers. -/
def metricsPage (process : Process) : String := process.metrics.render

/-- The four calls by which the tasks change readiness and leadership. -/
inductive Mark where
  | ready
  | unready
  | leader
  | standby
  deriving DecidableEq, Repr

def ReadinessState.mark (self : ReadinessState) (process : Process) : Mark → Process
  | .ready => self.markReady process
  | .unready => self.markUnready process
  | .leader => self.markLeader process
  | .standby => self.markStandby process

/-- What a task does next: it marks, through the handle that so many clones led to, or it
records something else. -/
inductive Event where
  | mark (clones : Nat) (mark : Mark)
  | record (recording : Recording)
  deriving DecidableEq, Repr

/-- The handle of a task that was given a clone of a clone. -/
def ReadinessState.handle (self : ReadinessState) : Nat → ReadinessState
  | 0 => self
  | clones + 1 => (self.handle clones).clone

def step (state : ReadinessState) (process : Process) : Event → Process
  | .mark clones mark => (state.handle clones).mark process mark
  | .record recording => { process with metrics := process.metrics.record recording }

/-- The process when it starts. -/
def start : Process where
  flags _ := false
  metrics := .new

/-- The gauge on the page is 1 exactly for a leader, and `/leaderz` says the same. -/
structure Agrees (state : ReadinessState) (process : Process) : Prop where
  gauge : Exposition.value? (metricsPage process) "streamline_operator_leader" = some 1 ↔
    state.isLeader process = true
  probe : (router state process "/leaderz").status = 200 ↔ state.isLeader process = true

/-- The event takes readiness, and with it leadership, from a leader. -/
def UnreadiesLeader (state : ReadinessState) (process : Process) (event : Event) : Prop :=
  (∃ clones, event = .mark clones .unready) ∧ state.isLeader process = true

/-! The flags. -/

theorem handle_eq (state : ReadinessState) (clones : Nat) : state.handle clones = state := by
  induction clones with
  | zero => rfl
  | succ clones ih =>
    rw [ReadinessState.handle, ih]
    rfl

@[simp] theorem isLeader_markReady (state : ReadinessState) (process : Process) :
    state.isLeader (state.markReady process) = state.isLeader process :=
  if_neg state.distinct.symm

@[simp] theorem isLeader_markUnready (state : ReadinessState) (process : Process) :
    state.isLeader (state.markUnready process) = false :=
  if_pos rfl

@[simp] theorem isLeader_markLeader (state : ReadinessState) (process : Process) :
    state.isLeader (state.markLeader process) = true :=
  if_pos rfl

@[simp] theorem isLeader_markStandby (state : ReadinessState) (process : Process) :
    state.isLeader (state.markStandby process) = false :=
  if_pos rfl

/-- Readiness is independent of leadership, but for losing both. -/
theorem isReady_mark (state : ReadinessState) (process : Process) (mark : Mark) :
    state.isReady (state.mark process mark) =
      match mark with
      | .ready => true
      | .unready => false
      | .leader => state.isReady process
      | .standby => state.isReady process := by
  cases mark with
  | ready => exact if_pos rfl
  | unready =>
    have hother : state.isReady (state.mark process .unready) =
        state.isReady (process.store state.ready false) := if_neg state.distinct
    rw [hother]
    exact if_pos rfl
  | leader => exact if_neg state.distinct
  | standby => exact if_neg state.distinct

/-! The gauge. -/

theorem leader_record (metrics : OperatorMetrics) (recording : Recording) :
    (metrics.record recording).leader = metrics.leader := by
  cases recording with
  | incReconcile resource =>
    simp only [OperatorMetrics.record, OperatorMetrics.incReconcile]
    split_ifs <;> rfl
  | incSuccess => rfl
  | incError resource =>
    simp only [OperatorMetrics.record, OperatorMetrics.incError]
    split_ifs <;> rfl
  | incLeaderTransition => rfl
  | observeDurationMs ms => rfl

theorem leaderz_status (state : ReadinessState) (process : Process) :
    (router state process "/leaderz").status = 200 ↔ state.isLeader process = true := by
  have hroute : router state process "/leaderz" = leaderz state process := by simp [router]
  rw [hroute, leaderz]
  split_ifs with hleader
  · simp [hleader]
  · simp [hleader]

theorem agrees_iff (state : ReadinessState) (process : Process) :
    Agrees state process ↔ (process.metrics.leader = 1 ↔ state.isLeader process = true) := by
  have hgauge : Exposition.value? (metricsPage process) "streamline_operator_leader" = some 1 ↔
      process.metrics.leader = 1 := by
    rw [metricsPage, Metrics.value?_leader, Option.some_inj, ← UInt64.toNat_one,
      UInt64.toNat_inj]
  constructor
  · intro h
    rw [← hgauge]
    exact h.gauge
  · intro h
    exact ⟨hgauge.trans h, leaderz_status state process⟩

theorem agrees_mark_leader (state : ReadinessState) (process : Process) :
    Agrees state (state.markLeader process) := by
  rw [agrees_iff, isLeader_markLeader]
  exact iff_of_true rfl rfl

theorem agrees_mark_standby (state : ReadinessState) (process : Process) :
    Agrees state (state.markStandby process) := by
  rw [agrees_iff, isLeader_markStandby]
  exact iff_of_false (show (0 : UInt64) ≠ 1 by decide) Bool.false_ne_true

theorem agrees_markUnready {state : ReadinessState} {process : Process}
    (h : Agrees state process) :
    Agrees state (state.markUnready process) ↔ state.isLeader process = false := by
  rw [agrees_iff] at h ⊢
  have hgauge : (state.markUnready process).metrics.leader = process.metrics.leader := rfl
  rw [isLeader_markUnready, hgauge, h]
  cases state.isLeader process <;> decide

/-- The step: agreement is lost exactly where a leader is marked unready. -/
theorem agrees_step {state : ReadinessState} (process : Process) (event : Event)
    (h : Agrees state process) :
    Agrees state (step state process event) ↔ ¬ UnreadiesLeader state process event := by
  cases event with
  | record recording =>
    have hkept : Agrees state (step state process (.record recording)) := by
      rw [agrees_iff] at h ⊢
      have hleader := leader_record process.metrics recording
      rw [← hleader] at h
      exact h
    refine iff_of_true hkept ?_
    rintro ⟨⟨clones, heq⟩, -⟩
    cases heq
  | mark clones mark =>
    rw [step, handle_eq]
    cases mark with
    | ready =>
      have hkept : Agrees state (state.markReady process) := by
        rw [agrees_iff] at h ⊢
        rw [isLeader_markReady]
        exact h
      refine iff_of_true hkept ?_
      rintro ⟨⟨clones', heq⟩, -⟩
      cases heq
    | unready =>
      rw [ReadinessState.mark, agrees_markUnready h]
      simp [UnreadiesLeader]
    | leader =>
      refine iff_of_true (agrees_mark_leader state process) ?_
      rintro ⟨⟨clones', heq⟩, -⟩
      cases heq
    | standby =>
      refine iff_of_true (agrees_mark_standby state process) ?_
      rintro ⟨⟨clones', heq⟩, -⟩
      cases heq

theorem agrees_start : Agrees .new start := by
  rw [agrees_iff]
  decide

/-- Gauge and probe agree after every call, through whatever clones, exactly in the
histories that never mark a leader unready. -/
theorem leader_gauge_agrees_iff (events : List Event) :
    Throughout (step .new) (Agrees .new) start events ↔
      EachEvent (step .new) (fun process event => ¬ UnreadiesLeader .new process event) start
        events :=
  throughout_iff_eachEvent agrees_step agrees_start events

/-- A leader whose controllers stop is no leader for the probe, but still for the gauge. -/
theorem leader_gauge_after_shutdown :
    ¬ ∀ events : List Event, Throughout (step .new) (Agrees .new) start events := by
  intro hall
  have hagrees := hall [.mark 0 .leader, .mark 1 .unready] _ [] (List.append_nil _).symm
  rw [agrees_iff] at hagrees
  exact absurd (hagrees.mp (by decide)) (by decide)

end StreamlineOperator.Health
