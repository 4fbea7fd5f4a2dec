/- source: src/src/controllers/cluster.rs (reconcile and the writes it is made of)
   digest: Reconciles that fail on the way: what a later success stores, and when nothing moves. -/

import StreamlineOperator.Controllers.Rollout
import StreamlineOperator.Kubernetes.LossyServer

set_option autoImplicit false
set_option relaxedAutoImplicit false

namespace StreamlineOperator.Controllers.ClusterController

open Foundation
open Kubernetes
open Program (Triple Returning Ending)
open Conditions (clusterFinalizer)
open Crd (ClusterSpec StreamlineCluster)

/-! One attempt. -/

section Attempt

variable {requester : String} {cluster : StreamlineCluster}
variable {before after : (child : Child) → Option (Owned child.kind.Value) → Prop}

theorem Progress.forget {done : List Child} {store : ObjectStore}
    (hstill : ∀ child found, after child found → before child found)
    (h : Progress cluster before after done store) :
    Progress cluster before after [] store := by
  intro child
  have hchild := h child
  rw [if_neg List.not_mem_nil]
  by_cases hdone : child ∈ done
  · rw [if_pos hdone] at hchild
    exact hstill child _ hchild
  · rw [if_neg hdone] at hchild
    exact hchild

theorem triple_write_lossy
    (hfree : ∀ child stored, before child (some stored) →
      ¬ stored.Conflicts operatorApply (child.fields cluster))
    (hwrites : ∀ child found stored, before child found →
      Writes requester (child.fields cluster) found stored → after child (some stored))
    (hstill : ∀ child found, after child found → before child found)
    (child : Child) {done : List Child} (hnew : child ∉ done) :
    Triple (lossyServes requester) (Progress cluster before after done) (child.write cluster)
      (Ending (Progress cluster before after [])
        fun _ => Progress cluster before after (child :: done)) := by
  have hbefore : ∀ store, Progress cluster before after done store →
      before child (child.stored cluster store) := by
    intro store hstore
    simpa [hnew] using hstore child
  refine triple_getThenWrite_lossy (child.objectName_object cluster) ?_ ?_
    (fun store => Progress.forget hstill) (fun store => Progress.forget hstill)
  · intro store hstore stored hstored
    have hchild := hbefore store hstore
    rw [Child.stored, hstored] at hchild
    exact hfree child stored hchild
  · intro store stored hstore hwrote other
    by_cases hsame : other = child
    · subst hsame
      rw [if_pos List.mem_cons_self, Child.stored, ObjectStore.set_same]
      exact hwrites other _ stored (hbefore store hstore) hwrote
    · have hkey : ¬ (other.kind = child.kind ∧
          cluster.namespaceOrDefault = cluster.namespaceOrDefault ∧
          other.name cluster = child.name cluster) :=
        fun h => hsame (Child.eq_of_key h.1 h.2.2)
      simpa [Child.stored, ObjectStore.set_other hkey, hsame] using hstore other

theorem reads_sendMetric {event : MetricEvent} :
    Program.Always (fun e => e.request.writesObject = false) (sendMetric event) :=
  always_sendMetric rfl

theorem reads_deleteHpa {namespaceName : String} :
    Program.Always (fun e => e.request.writesObject = false)
      (AutoScalingController.deleteHpa cluster namespaceName) := by
  intro tr res hruns
  obtain ⟨r, rfl, -⟩ := AutoScalingController.runs_deleteHpa hruns
  rw [List.forall_mem_singleton]
  rfl

theorem reads_updateStatus {namespaceName : String} :
    Program.Always (fun e => e.request.writesObject = false)
      (updateStatus cluster namespaceName) :=
  updateStatus_always (fun _ => rfl) (fun _ => rfl) (fun _ _ => rfl)

/-- A reconcile of an accepted cluster through a lossy connection: if it returns, it has
written its four children, and if it fails, they are no worse than before. -/
theorem triple_reconcile_lossy (requester : String)
    (before after : (child : Child) → Option (Owned child.kind.Value) → Prop)
    (hvalid : cluster.spec.validate = .ok ())
    (hlive : cluster.metadata.deletionTimestamp = none)
    (hfree : ∀ child stored, before child (some stored) →
      ¬ stored.Conflicts operatorApply (child.fields cluster))
    (hwrites : ∀ child found stored, before child found →
      Writes requester (child.fields cluster) found stored → after child (some stored))
    (hstill : ∀ child found, after child found → before child found) :
    Triple (lossyServes requester)
      (fun store => ∀ child, before child (child.stored cluster store)) (reconcile cluster)
      (Ending (fun store => ∀ child : Child, before child (child.stored cluster store))
        fun _ store => ∀ child : Child, after child (child.stored cluster store)) := by
  have hstages := renderSpec_eq cluster cluster.namespaceOrDefault
  -- Every part either goes on or leaves the children as `Progress … []` says.
  have hreads : ∀ {α : Type} {p : Operation α} {done : List Child},
      Program.Always (fun e => e.request.writesObject = false) p →
      Triple (lossyServes requester) (Progress cluster before after done) p
        (Ending (Progress cluster before after [])
          fun _ => Progress cluster before after done) := by
    intro α p done hp
    refine Program.triple_weaken (triple_of_reads hp) (fun _ => id) ?_
    intro res store hres
    cases res with
    | ok a => exact hres
    | error e => exact Progress.forget hstill hres
  have hwrite := @triple_write_lossy requester cluster before after hfree hwrites hstill
  have hrun : Triple (lossyServes requester) (Progress cluster before after [])
      (reconcile cluster) (Ending (Progress cluster before after [])
        fun _ => Progress cluster before after
          [.statefulSet, .clientService, .headlessService, .configMap]) := by
    rw [reconcile_live_eq hlive]
    refine Program.triple_bind_ending (hreads reads_sendMetric) fun _ => ?_
    refine Program.triple_bind_ending
      (hreads (always_ensureFinalizer fun _ => rfl)) fun _ => ?_
    refine Program.triple_bind_ending (hreads reads_deleteHpa) fun _ => ?_
    rw [afterCleanup, hvalid]
    rw [hvalid] at hstages
    simp only [hstages]
    refine Program.triple_bind_ending (hwrite .configMap (by decide)) fun _ => ?_
    refine Program.triple_bind_ending (hwrite .headlessService (by decide)) fun _ => ?_
    refine Program.triple_bind_ending (hwrite .clientService (by decide)) fun _ => ?_
    refine Program.triple_bind_ending (hwrite .statefulSet (by decide)) fun _ => ?_
    refine Program.triple_bind_ending (hreads reads_updateStatus) fun _ => ?_
    refine Program.triple_bind_ending (hreads reads_sendMetric) fun _ => ?_
    exact Program.triple_ok fun store hstore => hstore
  refine Program.triple_weaken hrun ?_ ?_
  · intro store hstore child
    simpa using hstore child
  · intro res store hres
    cases res with
    | error e => exact fun child => by simpa using hres child
    | ok action =>
      intro child
      have hchild := hres child
      cases child <;> simpa using hchild

end Attempt

/-! Runs of attempts. -/

/-- One reconcile of a cluster through a connection that may lose calls and answers,
between two states of the API server. -/
structure Attempt (requester : String) where
  cluster : StreamlineCluster
  before : ObjectStore
  after : ObjectStore
  trace : List ApiExchange
  result : Except OperatorError Action
  runs : Program.Runs (reconcile cluster) trace result
  served : Served (lossyServes requester) before trace after

namespace Attempt

variable {requester : String}

def Succeeds (self : Attempt requester) : Prop := ∃ action, self.result = .ok action

/-- Nothing was lost on the way. -/
def Reliable (self : Attempt requester) : Prop :=
  Served (serves requester) self.before self.trace self.after

/-- The stored children are those of the attempt's own spec. -/
def RolledOut (self : Attempt requester) : Prop :=
  ∀ child : Child, ∃ stored, child.stored self.cluster self.after = some stored ∧
    stored.value = child.fields self.cluster

end Attempt

/-- Attempts at one live cluster, the first before it has any child object. Each version
of the cluster is accepted, and renders what the versions before it render. -/
structure AttemptRun (requester : String) where
  steps : List (Attempt requester)
  name : String
  namespaceName : String
  sameName : ∀ step ∈ steps, step.cluster.nameAny = name
  sameNamespace : ∀ step ∈ steps, step.cluster.namespaceOrDefault = namespaceName
  accepted : ∀ step ∈ steps, step.cluster.spec.validate = .ok ()
  live : ∀ step ∈ steps, step.cluster.metadata.deletionTimestamp = none
  fresh : ∀ step ∈ steps.head?, ∀ child : Child, child.stored step.cluster step.before = none
  linked : steps.IsChain (fun a b => b.before = a.after)
  growing : steps.Pairwise (fun a b =>
    ∀ child : Child, (child.fields a.cluster).Extends (child.fields b.cluster))

section Runs

variable {requester : String}

/-- A child is absent, or an attempt created it with what the given attempts all render. -/
def Started (requester : String) (later : List (Attempt requester)) (child : Child)
    (found : Option (Owned child.kind.Value)) : Prop :=
  ∀ stored, found = some stored → ∃ base, stored.Since requester operatorApply base ∧
    ∀ step ∈ later, base.Extends (child.fields step.cluster)

/-- The child is stored as this attempt renders it, and the later ones render that too. -/
def RenderedBy (step : Attempt requester) (later : List (Attempt requester)) (child : Child)
    (found : Option (Owned child.kind.Value)) : Prop :=
  ∃ stored base, found = some stored ∧ stored.value = child.fields step.cluster ∧
    stored.Since requester operatorApply base ∧
    ∀ other ∈ step :: later, base.Extends (child.fields other.cluster)

theorem RenderedBy.started {step : Attempt requester} {later : List (Attempt requester)}
    {child : Child} {found : Option (Owned child.kind.Value)}
    (h : RenderedBy step later child found) : Started requester (step :: later) child found := by
  obtain ⟨stored, base, rfl, -, hsince, hextends⟩ := h
  intro stored' hstored'
  cases hstored'
  exact ⟨base, hsince, hextends⟩

theorem Started.tail {step : Attempt requester} {later : List (Attempt requester)}
    {child : Child} {found : Option (Owned child.kind.Value)}
    (h : Started requester (step :: later) child found) : Started requester later child found := by
  intro stored hstored
  obtain ⟨base, hsince, hextends⟩ := h stored hstored
  exact ⟨base, hsince, fun other hother => hextends other (List.mem_cons_of_mem _ hother)⟩

theorem Started.not_conflicts {step : Attempt requester} {later : List (Attempt requester)}
    {child : Child} {stored : Owned child.kind.Value}
    (h : Started requester (step :: later) child (some stored)) :
    ¬ stored.Conflicts operatorApply (child.fields step.cluster) := by
  obtain ⟨base, hsince, hextends⟩ := h stored rfl
  exact hsince.not_conflicts (hextends step List.mem_cons_self)

theorem Started.renderedBy {step : Attempt requester} {later : List (Attempt requester)}
    {child : Child} {found : Option (Owned child.kind.Value)} {stored : Owned child.kind.Value}
    (hgrows : ∀ other ∈ later, (child.fields step.cluster).Extends (child.fields other.cluster))
    (h : Started requester (step :: later) child found)
    (hwrites : Writes requester (child.fields step.cluster) found stored) :
    RenderedBy step later child (some stored) := by
  cases hwrites with
  | created =>
    refine ⟨_, child.fields step.cluster, rfl, rfl, Owned.since_create, ?_⟩
    rw [List.forall_mem_cons]
    exact ⟨fun _ _ hset => hset, hgrows⟩
  | applied hfree =>
    obtain ⟨base, hsince, hextends⟩ := h _ rfl
    have hvalue := hsince.applied_value (hextends step List.mem_cons_self)
    exact ⟨_, base, rfl, hvalue, hsince.applied operatorApply_ne hfree, hextends⟩

/-- The step: from started children an attempt leads to started children, and if it
succeeds they are as it renders them. -/
theorem Attempt.started_step (step : Attempt requester) {later : List (Attempt requester)}
    (hvalid : step.cluster.spec.validate = .ok ())
    (hlive : step.cluster.metadata.deletionTimestamp = none)
    (hgrows : ∀ other ∈ later, ∀ child : Child,
      (child.fields step.cluster).Extends (child.fields other.cluster))
    (hbefore : ∀ child : Child, Started requester (step :: later) child
      (child.stored step.cluster step.before)) :
    (∀ child : Child, Started requester later child (child.stored step.cluster step.after)) ∧
      (step.Succeeds → ∀ child : Child,
        RenderedBy step later child (child.stored step.cluster step.after)) := by
  have htriple := triple_reconcile_lossy requester (Started requester (step :: later))
    (RenderedBy step later) hvalid hlive (fun child stored => Started.not_conflicts)
    (fun child found stored h hwrites =>
      h.renderedBy (fun other hother => hgrows other hother child) hwrites)
    (fun child found => RenderedBy.started)
  have hafter := htriple step.before hbefore step.trace step.result step.after step.runs
    step.served
  cases hresult : step.result with
  | ok action =>
    rw [hresult] at hafter
    exact ⟨fun child => (hafter child).started.tail, fun _ => hafter⟩
  | error e =>
    rw [hresult] at hafter
    refine ⟨fun child => (hafter child).tail, ?_⟩
    rintro ⟨action, hok⟩
    rw [hresult] at hok
    cases hok

theorem Attempt.succeeds_of_reliable (step : Attempt requester)
    {later : List (Attempt requester)} (hvalid : step.cluster.spec.validate = .ok ())
    (hlive : step.cluster.metadata.deletionTimestamp = none)
    (hpresent : clusterFinalizer ∈ step.cluster.metadata.finalizerList)
    (hbefore : ∀ child : Child, Started requester (step :: later) child
      (child.stored step.cluster step.before)) (hreliable : step.Reliable) : step.Succeeds := by
  have htriple := triple_reconcile requester (Started requester (step :: later))
    (fun _ _ => True) hvalid hpresent hlive (fun child stored => Started.not_conflicts)
    (fun _ _ _ _ _ => trivial)
  obtain ⟨action, hresult, -⟩ := htriple step.before hbefore step.trace step.result step.after
    step.runs hreliable
  exact ⟨action, hresult⟩

namespace AttemptRun

variable (run : AttemptRun requester)

theorem stored_eq {a b : Attempt requester} (ha : a ∈ run.steps) (hb : b ∈ run.steps)
    (child : Child) (store : ObjectStore) :
    child.stored a.cluster store = child.stored b.cluster store := by
  have hname : a.cluster.nameAny = b.cluster.nameAny :=
    (run.sameName a ha).trans (run.sameName b hb).symm
  have hspace : a.cluster.namespaceOrDefault = b.cluster.namespaceOrDefault :=
    (run.sameNamespace a ha).trans (run.sameNamespace b hb).symm
  rw [Child.stored, Child.stored, hspace, Child.name_eq hname]

theorem grows {early late : List (Attempt requester)} {step : Attempt requester}
    (hsteps : run.steps = early ++ step :: late) :
    ∀ other ∈ late, ∀ child : Child,
      (child.fields step.cluster).Extends (child.fields other.cluster) := by
  have hgrowing := run.growing
  rw [hsteps] at hgrowing
  exact (List.pairwise_cons.mp (List.pairwise_append.mp hgrowing).2.1).1

theorem started_before {early late : List (Attempt requester)} {step : Attempt requester}
    (hsteps : run.steps = early ++ step :: late) :
    ∀ child : Child,
      Started requester (step :: late) child (child.stored step.cluster step.before) := by
  induction early using List.reverseRecOn generalizing step late with
  | nil =>
    intro child stored hstored
    have hfresh := run.fresh step (by rw [hsteps]; rfl) child
    rw [hfresh] at hstored
    cases hstored
  | append_singleton early previous ih =>
    intro child
    rw [List.append_assoc, List.singleton_append] at hsteps
    have hmem : previous ∈ run.steps ∧ step ∈ run.steps := by
      rw [hsteps]
      simp
    have hlinked := run.linked
    rw [hsteps] at hlinked
    have hstate : step.before = previous.after :=
      (List.isChain_cons_cons.mp hlinked.right_of_append).1
    have hafter := (previous.started_step (run.accepted previous hmem.1)
      (run.live previous hmem.1) (run.grows hsteps) (ih hsteps)).1 child
    rw [hstate, run.stored_eq hmem.2 hmem.1]
    exact hafter

theorem rolledOut {step : Attempt requester} (hstep : step ∈ run.steps)
    (hsucceeds : step.Succeeds) : step.RolledOut := by
  obtain ⟨early, late, hsteps⟩ := List.append_of_mem hstep
  intro child
  obtain ⟨stored, base, hstored, hvalue, -⟩ := (step.started_step (run.accepted step hstep)
    (run.live step hstep) (run.grows hsteps) (run.started_before hsteps)).2 hsucceeds child
  exact ⟨stored, hstored, hvalue⟩

end AttemptRun

/-- Whatever failed before, an attempt that returns has stored every child as its spec
renders it; and an attempt on which nothing is lost returns. -/
theorem retries_converge (run : AttemptRun requester) :
    ∀ step ∈ run.steps, (step.Succeeds → step.RolledOut) ∧
      (step.Reliable → clusterFinalizer ∈ step.cluster.metadata.finalizerList →
        step.Succeeds) := by
  intro step hstep
  obtain ⟨early, late, hsteps⟩ := List.append_of_mem hstep
  refine ⟨run.rolledOut hstep, fun hreliable hpresent => ?_⟩
  exact step.succeeds_of_reliable (run.accepted step hstep) (run.live step hstep) hpresent
    (run.started_before hsteps) hreliable

/-! When nothing moves any more. -/

/-- The child is what an apply of the attempt's own rendering left. -/
def AppliedBy (step : Attempt requester) (child : Child)
    (found : Option (Owned child.kind.Value)) : Prop :=
  ∃ stored : Owned child.kind.Value,
    found = some (stored.applied operatorApply (child.fields step.cluster))

theorem Attempt.applies (step : Attempt requester) {later : List (Attempt requester)}
    (hvalid : step.cluster.spec.validate = .ok ())
    (hlive : step.cluster.metadata.deletionTimestamp = none)
    (hstarted : ∀ child : Child, Started requester (step :: later) child
      (child.stored step.cluster step.before))
    (hstored : ∀ child : Child, (child.stored step.cluster step.before).isSome = true)
    (hsucceeds : step.Succeeds) :
    ∀ child : Child, AppliedBy step child (child.stored step.cluster step.after) := by
  have htriple := triple_reconcile_lossy requester
    (fun child found => found.isSome = true ∧ Started requester (step :: later) child found)
    (fun child found => AppliedBy step child found ∧
      Started requester (step :: later) child found)
    hvalid hlive (fun child stored h => h.2.not_conflicts) ?_ ?_
  · have hafter := htriple step.before (fun child => ⟨hstored child, hstarted child⟩) step.trace
      step.result step.after step.runs step.served
    obtain ⟨action, hresult⟩ := hsucceeds
    rw [hresult] at hafter
    exact fun child => (hafter child).1
  · rintro child found stored ⟨hthere, hstart⟩ hwrites
    cases hwrites with
    | created => cases hthere
    | @applied old hfree =>
      refine ⟨⟨old, rfl⟩, ?_⟩
      intro stored' hstored'
      cases hstored'
      obtain ⟨base, hsince, hextends⟩ := hstart old rfl
      exact ⟨base, hsince.applied operatorApply_ne hfree, hextends⟩
  · rintro child found ⟨⟨stored, rfl⟩, hstart⟩
    exact ⟨rfl, hstart⟩

theorem Attempt.unchanged (step : Attempt requester)
    (hvalid : step.cluster.spec.validate = .ok ())
    (hlive : step.cluster.metadata.deletionTimestamp = none)
    (happlied : ∀ child : Child, AppliedBy step child (child.stored step.cluster step.before)) :
    ∀ child : Child, child.stored step.cluster step.after =
      child.stored step.cluster step.before := by
  have htriple := triple_reconcile_lossy requester
    (fun child found => found = child.stored step.cluster step.before)
    (fun child found => found = child.stored step.cluster step.before) hvalid hlive ?_ ?_
    (fun child found => id)
  · have hafter := htriple step.before (fun child => rfl) step.trace step.result step.after
      step.runs step.served
    cases hresult : step.result with
    | ok action =>
      rw [hresult] at hafter
      exact hafter
    | error e =>
      rw [hresult] at hafter
      exact hafter
  · intro child stored hstored
    obtain ⟨old, hold⟩ := happlied child
    obtain rfl := Option.some.inj (hstored.trans hold)
    exact Owned.not_conflicts_applied old operatorApply _
  · intro child found stored hfound hwrites
    obtain ⟨old, hold⟩ := happlied child
    rw [hold] at hfound ⊢
    cases hwrites with
    | created => cases hfound
    | applied hfree =>
      cases hfound
      rw [Owned.applied_applied]

theorem Attempt.keeps_stored (step : Attempt requester) {later : List (Attempt requester)}
    (hvalid : step.cluster.spec.validate = .ok ())
    (hlive : step.cluster.metadata.deletionTimestamp = none)
    (hstarted : ∀ child : Child, Started requester (step :: later) child
      (child.stored step.cluster step.before))
    (hstored : ∀ child : Child, (child.stored step.cluster step.before).isSome = true) :
    ∀ child : Child, (child.stored step.cluster step.after).isSome = true := by
  have htriple := triple_reconcile_lossy requester
    (fun child found => found.isSome = true ∧ Started requester (step :: later) child found)
    (fun child found => found.isSome = true ∧ Started requester (step :: later) child found)
    hvalid hlive (fun child stored h => h.2.not_conflicts) ?_ (fun child found => id)
  · have hafter := htriple step.before (fun child => ⟨hstored child, hstarted child⟩) step.trace
      step.result step.after step.runs step.served
    cases hresult : step.result with
    | ok action =>
      rw [hresult] at hafter
      exact fun child => (hafter child).1
    | error e =>
      rw [hresult] at hafter
      exact fun child => (hafter child).1
  · rintro child found stored ⟨hthere, hstart⟩ hwrites
    cases hwrites with
    | created => cases hthere
    | @applied old hfree =>
      refine ⟨rfl, ?_⟩
      intro stored' hstored'
      cases hstored'
      obtain ⟨base, hsince, hextends⟩ := hstart old rfl
      exact ⟨base, hsince.applied operatorApply_ne hfree, hextends⟩

/-- Once two attempts at one version have succeeded, no attempt changes a child again. -/
theorem reconciles_settle (run : AttemptRun requester) {early mid late : List (Attempt requester)}
    {first second : Attempt requester}
    (hsteps : run.steps = early ++ first :: (mid ++ second :: late))
    (hsame : ∀ step ∈ late, ∀ child : Child,
      child.fields step.cluster = child.fields second.cluster)
    (hfirst : first.Succeeds) (hsecond : second.Succeeds) :
    ∀ step ∈ late, ∀ child : Child,
      child.stored step.cluster step.after = child.stored step.cluster step.before := by
  have hmem : ∀ step ∈ first :: (mid ++ second :: late), step ∈ run.steps := by
    intro step hstep
    rw [hsteps]
    exact List.mem_append_right _ hstep
  have hinRun : first ∈ run.steps ∧ second ∈ run.steps := ⟨hmem _ (by simp), hmem _ (by simp)⟩
  have hlate : ∀ step ∈ late, step ∈ run.steps := fun step hstep => hmem _ (by simp [hstep])
  have hlinked := run.linked
  rw [hsteps] at hlinked
  have htail := hlinked.right_of_append
  have hstarted : ∀ step ∈ run.steps, ∃ later : List (Attempt requester), ∀ child : Child,
      Started requester (step :: later) child (child.stored step.cluster step.before) := by
    intro step hstep
    obtain ⟨before, later, hsplit⟩ := List.append_of_mem hstep
    exact ⟨later, run.started_before hsplit⟩
  -- the first success has created every child, and they stay
  have hstored : ∀ child : Child, (child.stored second.cluster second.before).isSome = true := by
    have hcreated : ∀ child : Child, (child.stored first.cluster first.after).isSome = true := by
      intro child
      obtain ⟨stored, hstored, -⟩ := run.rolledOut hinRun.1 hfirst child
      rw [hstored]
      rfl
    have hkept := @linked_invariant _ _ Attempt.before Attempt.after
      (fun store => ∀ child : Child, (child.stored first.cluster store).isSome = true)
      _ _ htail ?_ hcreated second (by simp)
    · intro child
      rw [run.stored_eq hinRun.2 hinRun.1]
      exact hkept.1 child
    · intro step hstep hbefore
      have hstepRun := hmem step (List.mem_cons_of_mem _ hstep)
      obtain ⟨later, hstart⟩ := hstarted step hstepRun
      have hafter := step.keeps_stored (run.accepted step hstepRun) (run.live step hstepRun) hstart
        (fun child => by rw [run.stored_eq hstepRun hinRun.1]; exact hbefore child)
      intro child
      rw [← run.stored_eq hstepRun hinRun.1]
      exact hafter child
  -- the second success has applied every child, and nothing moves them after that
  obtain ⟨later, hstart⟩ := hstarted second hinRun.2
  have happlied := second.applies (run.accepted second hinRun.2) (run.live second hinRun.2) hstart
    hstored hsecond
  have hlast : (second :: late).IsChain (fun a b => b.before = a.after) :=
    htail.suffix ⟨first :: mid, rfl⟩
  have hunchanged : ∀ step ∈ late,
      (∀ child : Child, child.stored second.cluster step.before =
        child.stored second.cluster second.after) →
      ∀ child : Child, child.stored step.cluster step.after =
        child.stored step.cluster step.before := by
    intro step hstep hbefore
    refine step.unchanged (run.accepted step (hlate step hstep)) (run.live step (hlate step hstep))
      (fun child => ?_)
    obtain ⟨stored, hvalue⟩ := happlied child
    refine ⟨stored, ?_⟩
    rw [run.stored_eq (hlate step hstep) hinRun.2, hbefore child, hvalue, hsame step hstep child]
  have hsettled := @linked_invariant _ _ Attempt.before Attempt.after
    (fun store => ∀ child : Child, child.stored second.cluster store =
      child.stored second.cluster second.after) _ _ hlast
    (fun step hstep hbefore child => by
      rw [run.stored_eq hinRun.2 (hlate step hstep), hunchanged step hstep hbefore child,
        run.stored_eq (hlate step hstep) hinRun.2]
      exact hbefore child)
    (fun child => rfl)
  exact fun step hstep => hunchanged step hstep (hsettled step hstep).1

end Runs

/-! A run in which the first attempt fails. -/

/-- A fresh cluster that has its finalizer already. -/
def guardedCluster (name : String) : StreamlineCluster where
  metadata := { name := some name, namespaceName := some "streamline", uid := some "4f1c",
                finalizers := some [clusterFinalizer] }
  spec := {}
  status := none

theorem guardedCluster_accepted (name : String) : (guardedCluster name).spec.validate = .ok () := by
  change ({} : ClusterSpec).validate = .ok ()
  decide

theorem guardedCluster_guarded (name : String) :
    clusterFinalizer ∈ (guardedCluster name).metadata.finalizerList :=
  List.mem_singleton.mpr rfl

/-- The attempt whose second call gets lost on the way. -/
def lostAttempt : Attempt "kube-rs" where
  cluster := guardedCluster "events"
  before := fun _ _ _ => none
  after := fun _ _ _ => none
  trace := [⟨.metric (.incReconcile "cluster"), ()⟩,
    ⟨.delete .horizontalPodAutoscaler "streamline" "events-hpa",
      .error ⟨none, "connection reset"⟩⟩]
  result := .error (.kubeApi ("failed to delete HPA " ++
    AutoScalingController.hpaName (guardedCluster "events") ++ " in namespace " ++ "streamline" ++ ": " ++ "connection reset"))
  runs := Program.runs_call.mpr ⟨(), _, rfl, Program.runs_call.mpr
    ⟨.error ⟨none, "connection reset"⟩, [], rfl, Program.runs_err.mpr ⟨rfl, rfl⟩⟩⟩
  served := .cons (.served rfl) (.cons (.requestLost rfl) (.nil _))

theorem exists_attemptRun : ∃ (run : AttemptRun "kube-rs") (a b c : Attempt "kube-rs"),
    run.steps = [lostAttempt, a, b, c] ∧ (∀ step ∈ run.steps, step.cluster = guardedCluster "events") ∧
      ∀ step ∈ [a, b, c], step.Reliable := by
  have hattempt : ∀ store : ObjectStore, ∃ step : Attempt "kube-rs",
      step.cluster = guardedCluster "events" ∧ step.before = store ∧ step.Reliable := by
    intro store
    obtain ⟨trace, result, after, hruns, hserved⟩ :=
      Program.exists_served (@serves_total "kube-rs") (reconcile (guardedCluster "events")) store
    exact ⟨⟨guardedCluster "events", store, after, trace, result, hruns, hserved.lossy⟩, rfl, rfl, hserved⟩
  obtain ⟨a, ha, hfrom, hra⟩ := hattempt lostAttempt.after
  obtain ⟨b, hb, hab, hrb⟩ := hattempt a.after
  obtain ⟨c, hc, hbc, hrc⟩ := hattempt b.after
  have hsame : ∀ step ∈ [lostAttempt, a, b, c], step.cluster = guardedCluster "events" := by
    simp [ha, hb, hc, lostAttempt]
  have hfields : ∀ step ∈ [lostAttempt, a, b, c], ∀ child : Child,
      child.fields step.cluster = child.fields (guardedCluster "events") :=
    fun step hstep child => by rw [hsame step hstep]
  refine ⟨⟨[lostAttempt, a, b, c], "events", "streamline", fun step hstep => ?_,
    fun step hstep => ?_, fun step hstep => ?_, fun step hstep => ?_, ?_, ?_, ?_⟩, a, b, c, rfl,
    hsame, ?_⟩
  · rw [hsame step hstep]
    rfl
  · rw [hsame step hstep]
    rfl
  · rw [hsame step hstep]
    exact guardedCluster_accepted _
  · rw [hsame step hstep]
    rfl
  · simp only [List.head?_cons, Option.mem_some_iff, forall_eq']
    exact fun _ => rfl
  · simp [hfrom, hab, hbc]
  · refine List.Pairwise.imp_of_mem (R := fun _ _ => True) ?_ ?_
    · intro x y hx hy _ child field v hset
      rw [hfields y hy child, ← hfields x hx child]
      exact hset
    · exact List.pairwise_of_forall fun _ _ => trivial
  · simp [hra, hrb, hrc]

theorem retries_converge_lostAttempt :
    ∃ run : AttemptRun "kube-rs", (∃ step ∈ run.steps, ¬ step.Succeeds) ∧
      ∃ step ∈ run.steps, step.Succeeds ∧ step.RolledOut := by
  obtain ⟨run, a, b, c, hsteps, hsame, hreliable⟩ := exists_attemptRun
  have ha : a ∈ run.steps := by simp [hsteps]
  have hconverge := retries_converge run a ha
  have hsucceeds := hconverge.2 (hreliable a (by simp)) (hsame a ha ▸ guardedCluster_guarded _)
  refine ⟨run, ⟨lostAttempt, by simp [hsteps], ?_⟩, a, ha, hsucceeds, hconverge.1 hsucceeds⟩
  rintro ⟨action, hok⟩
  cases hok

theorem reconciles_settle_lostAttempt :
    ∃ (run : AttemptRun "kube-rs") (second third : Attempt "kube-rs"),
      second ∈ run.steps ∧ third ∈ run.steps ∧ third.before = second.after ∧
        ∀ child : Child, child.stored third.cluster third.after =
          child.stored third.cluster third.before := by
  obtain ⟨run, a, b, c, hsteps, hsame, hreliable⟩ := exists_attemptRun
  have hmem : a ∈ run.steps ∧ b ∈ run.steps ∧ c ∈ run.steps := by simp [hsteps]
  have hsucceeds : ∀ step ∈ run.steps, step.Reliable → step.Succeeds := by
    intro step hstep hstepReliable
    obtain ⟨early, late, hsplit⟩ := List.append_of_mem hstep
    exact step.succeeds_of_reliable (run.accepted step hstep) (run.live step hstep)
      (hsame step hstep ▸ guardedCluster_guarded _) (run.started_before hsplit) hstepReliable
  have hsettle := @reconciles_settle "kube-rs" run [lostAttempt] [] [c] a b hsteps
    (fun step hstep child => by
      obtain rfl := List.mem_singleton.mp hstep
      rw [hsame _ hmem.2.2, hsame _ hmem.2.1])
    (hsucceeds a hmem.1 (hreliable a (by simp))) (hsucceeds b hmem.2.1 (hreliable b (by simp)))
  have hlinked := run.linked
  rw [hsteps] at hlinked
  have hlast : [b, c].IsChain (fun a b => b.before = a.after) :=
    hlinked.suffix ⟨[lostAttempt, a], rfl⟩
  exact ⟨run, b, c, hmem.2.1, hmem.2.2, (List.isChain_cons_cons.mp hlast).1, hsettle c (by simp)⟩

end StreamlineOperator.Controllers.ClusterController
