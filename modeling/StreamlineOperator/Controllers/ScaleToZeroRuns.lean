/- source: src/src/controllers/scale_to_zero.rs (build_activity_snapshot, evaluate, apply_scale_action)
   digest: Runs of polls: when a cluster goes to zero, and when it comes back. -/

import StreamlineOperator.Controllers.ScaleToZero

set_option autoImplicit false
set_option relaxedAutoImplicit false

namespace StreamlineOperator.Controllers.ScaleToZeroController

open Foundation
open Kubernetes
open Crd (StreamlineCluster)

/-- What one poll finds: three readings of the clock (for the snapshot, for the
decision and when an activation is recorded) and the cluster's traffic. -/
structure Poll where
  snapshotAt : Instant
  evaluatedAt : Instant
  appliedAt : Int
  messagesPerSecond : F64
  bytesPerSecond : F64
  activeConnections : Nat
  consumerLag : Int64
  lastActivity : Int
  evaluated_after : snapshotAt.epoch ≤ evaluatedAt.epoch
  applied_after : evaluatedAt.epoch ≤ appliedAt
  applied_lt : appliedAt < 2 ^ 63
  messages_nonneg : messagesPerSecond.isNonNegative = true
  bytes_nonneg : bytesPerSecond.isNonNegative = true
  lastActivity_nonneg : 0 ≤ lastActivity
  lastActivity_le : lastActivity ≤ snapshotAt.epoch

/-- The replica count, and the second of the last applied activation. -/
structure Scaling where
  replicas : Int32
  lastScaleUp : Option Nat
  deriving DecidableEq, Repr

/-- The readings of all polls in order, none before `start`. -/
def InOrder (start : Int) : List Poll → Prop
  | [] => True
  | p :: rest => start ≤ p.snapshotAt.epoch ∧ InOrder p.appliedAt rest

section Runs

variable (rfc3339 : Int → String) (cluster : StreamlineCluster) (namespaceName : String)
  (config : ScaleToZeroConfig)

def Poll.snapshot (self : Poll) : ClusterActivitySnapshot :=
  buildActivitySnapshot rfc3339 self.snapshotAt cluster.nameAny namespaceName
    self.messagesPerSecond self.bytesPerSecond self.activeConnections self.consumerLag
    self.lastActivity config.idleTimeoutSeconds

def decision (state : Scaling) (p : Poll) : ScaleToZeroAction :=
  evaluate p.evaluatedAt (p.snapshot rfc3339 cluster namespaceName config) config state.replicas
    state.lastScaleUp

/-- The replica count an accepted patch of the StatefulSet sets. -/
def patchedReplicas : ApiExchange → Option Int32
  | ⟨.mergePatch .statefulSet _ _ body, .ok _⟩ =>
    (body.members.lookup "spec").bind fun spec => (spec.members.lookup "replicas").bind Decoder.int32
  | _ => none

/-- The replica count after an action has been applied. -/
def replicasAfter (current : Int32) (action : ScaleToZeroAction) : Int32 :=
  (((applyScaleAction cluster namespaceName action).answer emptyServer).1.findSome?
    patchedReplicas).getD current

/-- One poll: decide, apply, and remember an activation. -/
def poll (state : Scaling) (p : Poll) : Scaling :=
  let action := decision rfc3339 cluster namespaceName config state p
  { replicas := replicasAfter cluster namespaceName state.replicas action
    lastScaleUp := if action.action = .activate then some (asU64 p.appliedAt) else state.lastScaleUp }

def run (state : Scaling) (polls : List Poll) : Scaling :=
  polls.foldl (poll rfc3339 cluster namespaceName config) state

/-- When the activations of a run were applied. -/
def activations (state : Scaling) : List Poll → List Int
  | [] => []
  | p :: rest =>
    (if (decision rfc3339 cluster namespaceName config state p).action = .activate then [p.appliedAt]
      else []) ++ activations (poll rfc3339 cluster namespaceName config state p) rest

/-- What a poll may do in a state reached after these activations. -/
structure PollSafe (activated : List Int) (state : Scaling) (p : Poll) : Prop where
  nonneg : 0 ≤ (poll rfc3339 cluster namespaceName config state p).replicas
  toZero : 0 < state.replicas → (poll rfc3339 cluster namespaceName config state p).replicas = 0 →
    p.messagesPerSecond.isZero = true ∧ p.activeConnections = 0 ∧
      p.lastActivity + config.idleTimeoutSeconds ≤ p.snapshotAt.epoch ∧
      ∀ t ∈ activated, t + config.cooldownSeconds ≤ p.evaluatedAt.epoch
  fromZero : state.replicas = 0 →
    (((decision rfc3339 cluster namespaceName config state p).action = .activate ∧
        (decision rfc3339 cluster namespaceName config state p).targetReplicas =
          config.minActiveReplicas) ↔
      p.messagesPerSecond.isPositive = true ∨ 0 < p.activeConnections ∨
        p.snapshotAt.epoch < p.lastActivity + config.idleTimeoutSeconds)
  activated : state.replicas = 0 →
    (decision rfc3339 cluster namespaceName config state p).action = .activate →
      (poll rfc3339 cluster namespaceName config state p).replicas = config.minActiveReplicas

variable {rfc3339 cluster namespaceName config}

/-! One poll. -/

theorem replicasAfter_eq (current : Int32) (action : ScaleToZeroAction) :
    replicasAfter cluster namespaceName current action =
      if action.action = .none ∨ action.action = .inCooldown then current
      else action.targetReplicas := by
  by_cases h : action.action = .none ∨ action.action = .inCooldown
  · have hskip : applyScaleAction cluster namespaceName action = .ok () := by
      simp only [applyScaleAction, Bool.or_eq_true, decide_eq_true_eq, if_pos h, Program.pure_eq]
    simp [replicasAfter, hskip, Program.answer, h]
  · have hpatch : patchedReplicas ⟨.mergePatch .statefulSet namespaceName cluster.nameAny
        (replicasPatch action.targetReplicas), .ok ()⟩ = some action.targetReplicas := by
      simp [patchedReplicas, replicasPatch, Json.members, Members.lookup_cons,
        Decoder.int32_inverts.decode]
    simp only [replicasAfter, applyScaleAction, Bool.or_eq_true, decide_eq_true_eq, if_neg h, send,
      Program.bind_eq, Program.send_bind, Program.answer, emptyServer, List.findSome?_cons, hpatch,
      Option.getD_some]

variable (rfc3339 cluster namespaceName config) in
theorem snapshot_idleDuration (p : Poll) :
    ((p.snapshot rfc3339 cluster namespaceName config).idleDurationSeconds : Int) =
      p.snapshotAt.epoch - p.lastActivity := by
  have h0 := p.lastActivity_le
  have h1 := p.lastActivity_nonneg
  have h2 := p.evaluated_after
  have h3 := p.applied_after
  have h4 := p.applied_lt
  have hmax : max (p.snapshotAt.epoch - p.lastActivity) 0 = p.snapshotAt.epoch - p.lastActivity := by
    omega
  rw [Poll.snapshot, buildActivitySnapshot]
  simp only [hmax]
  exact asU64_of_lt (by omega) (by omega)

variable (rfc3339 cluster namespaceName config) in
theorem snapshot_isIdle (p : Poll) :
    (p.snapshot rfc3339 cluster namespaceName config).isIdle = true ↔
      p.messagesPerSecond.isZero = true ∧ p.activeConnections = 0 ∧
        p.lastActivity + config.idleTimeoutSeconds ≤ p.snapshotAt.epoch := by
  have hduration := snapshot_idleDuration rfc3339 cluster namespaceName config p
  have hidle : (p.snapshot rfc3339 cluster namespaceName config).isIdle =
      (p.messagesPerSecond.isZero && p.activeConnections = 0 && config.idleTimeoutSeconds ≤
        (p.snapshot rfc3339 cluster namespaceName config).idleDurationSeconds) := rfl
  rw [hidle]
  simp only [Bool.and_eq_true, decide_eq_true_eq, and_assoc]
  refine and_congr_right fun _ => and_congr_right fun _ => ?_
  omega

theorem decision_activate_iff (henabled : config.enabled = true) (state : Scaling) (p : Poll) :
    (decision rfc3339 cluster namespaceName config state p).action = .activate ↔
      state.replicas = 0 ∧ (p.snapshot rfc3339 cluster namespaceName config).isIdle = false := by
  unfold decision evaluate
  simp only [henabled, Bool.not_true, Bool.false_eq_true, if_false, Bool.and_eq_true,
    decide_eq_true_eq, Bool.not_eq_true']
  split
  · rename_i h
    simp [h]
  · rename_i h
    split
    · simp [h]
    · split <;> simp [h]

theorem decision_target_of_activate (state : Scaling) (p : Poll)
    (h : (decision rfc3339 cluster namespaceName config state p).action = .activate) :
    (decision rfc3339 cluster namespaceName config state p).targetReplicas =
      config.minActiveReplicas := by
  revert h
  unfold decision evaluate
  split
  · simp
  split
  · simp
  split
  · simp
  split <;> simp

theorem decision_scaleToZero {state : Scaling} {p : Poll}
    (h : (decision rfc3339 cluster namespaceName config state p).action = .scaleToZero) :
    (p.snapshot rfc3339 cluster namespaceName config).isIdle = true ∧
      withinCooldown p.evaluatedAt config state.lastScaleUp = none ∧
      (decision rfc3339 cluster namespaceName config state p).targetReplicas = 0 := by
  revert h
  unfold decision evaluate
  split
  · simp
  split
  · simp
  split
  · simp
  rename_i hcooldown
  split
  · rename_i hidle
    simp only [Bool.and_eq_true] at hidle
    simp [hidle.1, hcooldown]
  · simp

variable (rfc3339 cluster namespaceName config) in
theorem poll_replicas (state : Scaling) (p : Poll) :
    (poll rfc3339 cluster namespaceName config state p).replicas = state.replicas ∨
      ((decision rfc3339 cluster namespaceName config state p).action = .scaleToZero ∧
        (poll rfc3339 cluster namespaceName config state p).replicas = 0) ∨
      ((decision rfc3339 cluster namespaceName config state p).action = .activate ∧
        (poll rfc3339 cluster namespaceName config state p).replicas =
          config.minActiveReplicas) := by
  have hafter : (poll rfc3339 cluster namespaceName config state p).replicas =
      replicasAfter cluster namespaceName state.replicas
        (decision rfc3339 cluster namespaceName config state p) := rfl
  rw [hafter, replicasAfter_eq]
  cases haction : (decision rfc3339 cluster namespaceName config state p).action with
  | none => simp
  | inCooldown => simp
  | scaleToZero => simp [(decision_scaleToZero haction).2.2]
  | activate => simp [decision_target_of_activate _ _ haction]

theorem withinCooldown_eq_none {now : Instant} {lastUp : Nat}
    (h : withinCooldown now config (some lastUp) = none) :
    config.cooldownSeconds ≤ asU64 now.epoch - lastUp := by
  simpa [withinCooldown, Option.filter] using h

/-! Whole runs. -/

/-- What holds in every state: the count is not negative, and the remembered
second is not before any activation and not in the future. -/
structure Inv (now : Int) (activated : List Int) (state : Scaling) : Prop where
  nonneg : 0 ≤ state.replicas
  remembered : ∀ t ∈ activated, ∃ lastUp : Nat, state.lastScaleUp = some lastUp ∧ t ≤ lastUp ∧
    (lastUp : Int) ≤ now

section Polls

variable {now : Int} {activated : List Int} {state : Scaling} {p : Poll}

private theorem poll_nonneg (hmin : 1 ≤ config.minActiveReplicas) (h : Inv now activated state) :
    0 ≤ (poll rfc3339 cluster namespaceName config state p).replicas := by
  rcases poll_replicas rfc3339 cluster namespaceName config state p with heq | ⟨-, heq⟩ | ⟨-, heq⟩
  · rw [heq]
    exact h.nonneg
  · rw [heq]
    decide
  · rw [heq]
    exact Int32.le_trans (by decide) hmin

private theorem quiet_of_scaled_to_zero (hmin : 1 ≤ config.minActiveReplicas) (hnow : 0 ≤ now)
    (horder : now ≤ p.snapshotAt.epoch) (h : Inv now activated state) (hpos : 0 < state.replicas)
    (hzero : (poll rfc3339 cluster namespaceName config state p).replicas = 0) :
    p.messagesPerSecond.isZero = true ∧ p.activeConnections = 0 ∧
      p.lastActivity + config.idleTimeoutSeconds ≤ p.snapshotAt.epoch ∧
      ∀ t ∈ activated, t + config.cooldownSeconds ≤ p.evaluatedAt.epoch := by
  have hevaluated := p.evaluated_after
  have happlied := p.applied_after
  have hlt := p.applied_lt
  rcases poll_replicas rfc3339 cluster namespaceName config state p with heq | ⟨haction, -⟩ |
    ⟨-, heq⟩
  · rw [← heq, hzero] at hpos
    exact absurd hpos (by decide)
  · obtain ⟨hidle, hcooldown, -⟩ := decision_scaleToZero haction
    obtain ⟨hrate, hconnections, hactivity⟩ := (snapshot_isIdle _ _ _ _ p).mp hidle
    refine ⟨hrate, hconnections, hactivity, ?_⟩
    intro t ht
    obtain ⟨lastUp, hlast, hle, hpast⟩ := h.remembered t ht
    rw [hlast] at hcooldown
    have helapsed := withinCooldown_eq_none hcooldown
    have hepoch := asU64_of_lt (x := p.evaluatedAt.epoch) (by omega) (by omega)
    omega
  · rw [← heq, hzero] at hmin
    exact absurd hmin (by decide)

private theorem activate_iff_busy (henabled : config.enabled = true) (hzero : state.replicas = 0) :
    ((decision rfc3339 cluster namespaceName config state p).action = .activate ∧
        (decision rfc3339 cluster namespaceName config state p).targetReplicas =
          config.minActiveReplicas) ↔
      p.messagesPerSecond.isPositive = true ∨ 0 < p.activeConnections ∨
        p.snapshotAt.epoch < p.lastActivity + config.idleTimeoutSeconds := by
  have hidle := snapshot_isIdle rfc3339 cluster namespaceName config p
  have hrate := F64.isZero_eq_not_isPositive p.messages_nonneg
  constructor
  · rintro ⟨haction, -⟩
    have hbusy := ((decision_activate_iff henabled state p).mp haction).2
    by_contra hquiet
    simp only [not_or, Bool.not_eq_true] at hquiet
    rw [hidle.mpr ⟨by rw [hrate, hquiet.1, Bool.not_false], by omega, by omega⟩] at hbusy
    cases hbusy
  · intro hbusy
    have haction : (decision rfc3339 cluster namespaceName config state p).action = .activate := by
      rw [decision_activate_iff henabled, ← Bool.not_eq_true, hidle]
      refine ⟨hzero, ?_⟩
      rintro ⟨hnone, hconnections, hactivity⟩
      rcases hbusy with hpositive | hconnected | hrecent
      · rw [hrate, hpositive] at hnone
        cases hnone
      · omega
      · omega
    exact ⟨haction, decision_target_of_activate _ _ haction⟩

private theorem poll_of_activate
    (haction : (decision rfc3339 cluster namespaceName config state p).action = .activate) :
    (poll rfc3339 cluster namespaceName config state p).replicas = config.minActiveReplicas := by
  have hafter : (poll rfc3339 cluster namespaceName config state p).replicas =
      replicasAfter cluster namespaceName state.replicas
        (decision rfc3339 cluster namespaceName config state p) := rfl
  rw [hafter, replicasAfter_eq, haction, decision_target_of_activate _ _ haction]
  simp

theorem poll_safe (henabled : config.enabled = true) (hmin : 1 ≤ config.minActiveReplicas)
    (hnow : 0 ≤ now) (horder : now ≤ p.snapshotAt.epoch) (h : Inv now activated state) :
    PollSafe rfc3339 cluster namespaceName config activated state p where
  nonneg := poll_nonneg hmin h
  toZero := quiet_of_scaled_to_zero hmin hnow horder h
  fromZero := activate_iff_busy henabled
  activated _ := poll_of_activate

end Polls

variable (rfc3339 cluster namespaceName) in
/-- A poll keeps the invariant, its own activation included. -/
theorem Inv.poll (henabled : config.enabled = true) (hmin : 1 ≤ config.minActiveReplicas)
    {now : Int} {activated : List Int} {state : Scaling} {p : Poll} (hnow : 0 ≤ now)
    (horder : now ≤ p.snapshotAt.epoch) (h : Inv now activated state) :
    Inv p.appliedAt
      (activated ++
        if (decision rfc3339 cluster namespaceName config state p).action = .activate then [p.appliedAt]
        else [])
      (poll rfc3339 cluster namespaceName config state p) := by
  have hevaluated := p.evaluated_after
  have happlied := p.applied_after
  have hlt := p.applied_lt
  refine ⟨(poll_safe henabled hmin hnow horder h).nonneg, ?_⟩
  intro t ht
  by_cases haction : (decision rfc3339 cluster namespaceName config state p).action = .activate
  · have hrecorded := asU64_of_lt (x := p.appliedAt) (by omega) hlt
    refine ⟨asU64 p.appliedAt, by simp [ScaleToZeroController.poll, haction], ?_, by omega⟩
    simp only [haction, if_true, List.mem_append, List.mem_singleton] at ht
    rcases ht with ht | rfl
    · obtain ⟨lastUp, -, hle, hpast⟩ := h.remembered t ht
      omega
    · omega
  · simp only [haction, if_false, List.append_nil] at ht
    obtain ⟨lastUp, hlast, hle, hpast⟩ := h.remembered t ht
    exact ⟨lastUp, by simp [ScaleToZeroController.poll, haction, hlast], hle, by omega⟩

theorem run_safe (henabled : config.enabled = true) (hmin : 1 ≤ config.minActiveReplicas)
    (earlier : List Poll) (p : Poll) (later : List Poll) {now : Int} {activated : List Int}
    {state : Scaling} (hnow : 0 ≤ now) (horder : InOrder now (earlier ++ p :: later))
    (h : Inv now activated state) :
    PollSafe rfc3339 cluster namespaceName config
      (activated ++ activations rfc3339 cluster namespaceName config state earlier)
      (run rfc3339 cluster namespaceName config state earlier) p := by
  induction earlier generalizing now activated state with
  | nil =>
    simp only [activations, List.append_nil]
    exact poll_safe henabled hmin hnow horder.1 h
  | cons q earlier ih =>
    obtain ⟨hq, hrest⟩ := horder
    have hevaluated := q.evaluated_after
    have happlied := q.applied_after
    have hnext := ih (by omega) hrest (h.poll rfc3339 cluster namespaceName henabled hmin hnow hq)
    rw [List.append_assoc] at hnext
    exact hnext

end Runs

/-- In every run of polls every poll is safe, in the state it finds and after the
activations before it. -/
theorem scaling_runs_safe (rfc3339 : Int → String) (cluster : StreamlineCluster)
    (namespaceName : String) (config : ScaleToZeroConfig) (henabled : config.enabled = true)
    (hmin : 1 ≤ config.minActiveReplicas) (replicas : Int32) (hreplicas : 0 ≤ replicas)
    (polls : List Poll) (horder : InOrder 0 polls) (earlier : List Poll) (p : Poll)
    (later : List Poll) (hpolls : polls = earlier ++ p :: later) :
    PollSafe rfc3339 cluster namespaceName config
      (activations rfc3339 cluster namespaceName config ⟨replicas, none⟩ earlier)
      (run rfc3339 cluster namespaceName config ⟨replicas, none⟩ earlier) p := by
  subst hpolls
  have hinit : Inv 0 [] ⟨replicas, none⟩ := ⟨hreplicas, by simp⟩
  exact run_safe henabled hmin earlier p later (by decide) horder hinit

/-- A quiet poll whose three readings fall into one second. -/
def quietPoll (second lastActivity : Nat) (hlt : (second : Int) < 2 ^ 63)
    (hle : lastActivity ≤ second) : Poll where
  snapshotAt := ⟨second, "now"⟩
  evaluatedAt := ⟨second, "now"⟩
  appliedAt := second
  messagesPerSecond := .finite false 0 0
  bytesPerSecond := .finite false 0 0
  activeConnections := 0
  consumerLag := 0
  lastActivity := lastActivity
  evaluated_after := Int.le_refl _
  applied_after := Int.le_refl _
  applied_lt := hlt
  messages_nonneg := rfl
  bytes_nonneg := rfl
  lastActivity_nonneg := Int.natCast_nonneg _
  lastActivity_le := Int.ofNat_le.mpr hle

def idleCluster : StreamlineCluster where
  metadata := { name := some "events" }
  spec := {}
  status := none

/-- Activity within the timeout brings the cluster back, and the poll after the
timeout and the cooldown takes it down again. -/
theorem scaling_runs_safe_coldStart :
    PollSafe (fun _ => "then") idleCluster "streamline" { enabled := true } [1000]
        ⟨1, some 1000⟩ (quietPoll 1300 1000 (by decide) (by decide)) ∧
      (run (fun _ => "then") idleCluster "streamline" { enabled := true } ⟨0, none⟩
        [quietPoll 1000 1000 (by decide) (by decide),
          quietPoll 1300 1000 (by decide) (by decide)]).replicas = 0 :=
  ⟨scaling_runs_safe (fun _ => "then") idleCluster "streamline" { enabled := true } rfl (by decide)
      0 (by decide)
      [quietPoll 1000 1000 (by decide) (by decide), quietPoll 1300 1000 (by decide) (by decide)]
      (by simp [InOrder, quietPoll]) [quietPoll 1000 1000 (by decide) (by decide)] _ [] rfl,
    by decide⟩

end StreamlineOperator.Controllers.ScaleToZeroController
