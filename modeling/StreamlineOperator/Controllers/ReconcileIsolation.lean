/- source: src/src/controllers/cluster.rs (reconcile), run concurrently for many clusters
   digest: Reconciles of different clusters, interleaved in any order, behave as if alone. -/

import StreamlineOperator.Controllers.ClusterOwnership
import StreamlineOperator.Controllers.Retries

set_option autoImplicit false
set_option relaxedAutoImplicit false

namespace StreamlineOperator.Controllers.ClusterController

open Foundation
open Kubernetes
open Foundation.World (Run exchangesOf)
open Program (Always)
open Crd (StreamlineCluster)

/-- The keys of a cluster's children. -/
def childRegion (cluster : StreamlineCluster) : Region := fun kind namespaceName name =>
  namespaceName = cluster.namespaceOrDefault ∧
    ∃ child : Child, child.kind = kind ∧ child.name cluster = name

/-- The two clusters lie in different namespaces, or have no target in common. -/
def Apart (a b : StreamlineCluster) : Prop :=
  a.namespaceOrDefault ≠ b.namespaceOrDefault ∨
    Disjoint (targets a.namespaceOrDefault a.nameAny) (targets b.namespaceOrDefault b.nameAny)

theorem childRegion_target {cluster : StreamlineCluster} {kind : Kind}
    {namespaceName name : String} (h : childRegion cluster kind namespaceName name) :
    (kind, name) ∈ targets cluster.namespaceOrDefault cluster.nameAny := by
  obtain ⟨-, child, rfl, rfl⟩ := h
  rw [mem_targets_iff]
  cases child <;> simp [childObjects, Child.kind, Child.name]

theorem Apart.disjoint {a b : StreamlineCluster} (h : Apart a b) (kind : Kind)
    (namespaceName name : String) (ha : childRegion a kind namespaceName name) :
    ¬ childRegion b kind namespaceName name := by
  intro hb
  rcases h with hspaces | htargets
  · exact hspaces (ha.1.symm.trans hb.1)
  · exact Set.disjoint_left.mp htargets (childRegion_target ha) (childRegion_target hb)

/-! The requests of a reconcile keep to the children of its cluster. -/

section Within

variable {cluster : StreamlineCluster}

theorem within_of_no_key {region : Region} {request : Request} (h : request.storeKey = none) :
    request.Within region := by
  intro kind namespaceName name hkey
  rw [h] at hkey
  cases hkey

theorem within_write (child : Child) :
    Always (fun e => e.request.Within (childRegion cluster)) (child.write cluster) := by
  have hown : childRegion cluster child.kind cluster.namespaceOrDefault (child.name cluster) :=
    ⟨rfl, child, rfl, rfl⟩
  apply always_getThenWrite
  · rintro r kind namespaceName name hkey
    cases hkey
    exact hown
  · rintro r kind namespaceName name hkey
    cases hkey
    exact hown
  · rintro r kind namespaceName name hkey
    rw [Request.storeKey, child.objectName_object] at hkey
    cases hkey
    exact hown

theorem within_reconcile (cluster : StreamlineCluster) :
    Always (fun e => e.request.Within (childRegion cluster)) (reconcile cluster) := by
  have hmetric : Always (fun e => e.request.Within (childRegion cluster))
      (sendMetric (.incReconcile "cluster")) := always_sendMetric (within_of_no_key rfl)
  cases hlive : cluster.metadata.deletionTimestamp with
  | some time =>
    simp only [reconcile, hlive, Option.isSome_some, if_true]
    refine Program.always_bind hmetric fun _ => always_handleDeletion ?_ ?_ ?_
    · exact fun _ => within_of_no_key rfl
    · exact fun _ _ => within_of_no_key rfl
    · exact fun _ => within_of_no_key rfl
  | none =>
    rw [reconcile_live_eq hlive]
    refine Program.always_bind hmetric fun _ => ?_
    refine Program.always_bind (always_ensureFinalizer fun _ => within_of_no_key rfl) fun _ => ?_
    refine Program.always_bind ?_ fun _ => ?_
    · intro tr res hruns
      obtain ⟨r, rfl, -⟩ := AutoScalingController.runs_deleteHpa hruns
      rw [List.forall_mem_singleton]
      exact within_of_no_key rfl
    · apply afterCleanup_always
      · exact fun _ => within_of_no_key rfl
      · exact fun _ => within_of_no_key rfl
      · exact fun _ => within_of_no_key rfl
      · exact fun _ _ => within_of_no_key rfl
      · exact fun _ => ⟨within_write .configMap, within_write .headlessService,
          within_write .clientService, within_write .statefulSet⟩

end Within

/-- The reconciles of some clusters, all still to be made, over one store. -/
def concurrently {ι : Type} (store : ObjectStore) (cluster : ι → StreamlineCluster) :
    World Request Request.Response OperatorError Action ι ObjectStore :=
  ⟨store, fun i => reconcile (cluster i)⟩

/-- In any interleaving of reconciles of clusters that are apart, through a lossy
connection, each sees and leaves what it could have seen and left alone. One that returns
for an accepted cluster without children has stored them as rendered. -/
theorem reconciles_isolated {ι : Type} [DecidableEq ι] (requester : String) (store : ObjectStore)
    (cluster : ι → StreamlineCluster) (hapart : ∀ i j, i ≠ j → Apart (cluster i) (cluster j))
    (h : List (Event Request Request.Response ι ObjectStore))
    (w : World Request Request.Response OperatorError Action ι ObjectStore)
    (hr : Run (lossyServes requester) (concurrently store cluster) h w) (i : ι) :
    (∃ alone, Served (lossyServes requester) store (exchangesOf h i) alone ∧
      Program.Steps (reconcile (cluster i)) (exchangesOf h i) (w.tasks i) ∧
      ∀ child : Child, child.stored (cluster i) w.state = child.stored (cluster i) alone) ∧
    ((w.tasks i).isOk = true → (cluster i).spec.validate = .ok () →
      (cluster i).metadata.deletionTimestamp = none →
      (∀ child : Child, child.stored (cluster i) store = none) →
      ∀ child : Child, ∃ stored, child.stored (cluster i) w.state = some stored ∧
        stored.value = child.fields (cluster i)) := by
  have hsep : Separation (serves requester)
      (fun i request => request.Within (childRegion (cluster i)))
      (fun i => AgreeOn (childRegion (cluster i))) :=
    serves_separation fun i j hne => (hapart i j hne).disjoint
  obtain ⟨alone, hserved, hagree⟩ := hr.isolated hsep.lossy
    (fun j => Program.everywhere_of_always Request.nonempty_response (within_reconcile _) []) i
  have hsteps := hr.project i
  have hstored : ∀ child : Child, child.stored (cluster i) w.state =
      child.stored (cluster i) alone :=
    fun child => hagree _ _ _ ⟨rfl, child, rfl, rfl⟩
  refine ⟨⟨alone, hserved, hsteps, hstored⟩, ?_⟩
  intro hok hvalid hlive hfresh child
  cases htask : w.tasks i with
  | err e => simp [htask, Program.isOk] at hok
  | call r next => simp [htask, Program.isOk] at hok
  | ok action =>
    rw [htask] at hsteps
    let attempt : Attempt requester :=
      ⟨cluster i, store, alone, exchangesOf h i, .ok action, hsteps, hserved⟩
    have hstarted : ∀ child : Child, Started requester [attempt] child
        (child.stored (cluster i) store) := by
      intro child stored hfound
      rw [hfresh child] at hfound
      cases hfound
    obtain ⟨stored, base, hfound, hvalue, -⟩ :=
      (attempt.started_step hvalid hlive (by simp) hstarted).2 ⟨action, rfl⟩ child
    exact ⟨stored, (hstored child).trans hfound, hvalue⟩

/-- Two clusters, told apart by their names. -/
def ordersAndEvents (orders : Bool) : StreamlineCluster :=
  guardedCluster (if orders then "orders" else "events")

theorem ordersAndEvents_apart (i j : Bool) (hne : i ≠ j) :
    Apart (ordersAndEvents i) (ordersAndEvents j) := by
  refine .inr (Set.disjoint_left.mpr ?_)
  simp only [mem_targets_iff]
  intro target hi hj
  have hnone : ∀ target ∈ childObjects "orders", target ∉ childObjects "events" := by decide
  cases i <;> cases j
  · exact hne rfl
  · exact hnone target hj hi
  · exact hnone target hi hj
  · exact hne rfl

/-- While the reconcile of the cluster `true` has only begun, that of `false` runs to its
end, on a server without objects that loses nothing. -/
theorem exists_overlap (cluster : Bool → StreamlineCluster)
    (hlive : (cluster true).metadata.deletionTimestamp = none)
    (hfalse : cluster false = guardedCluster "events") :
    ∃ h w, Run (lossyServes "kube-rs") (concurrently (fun _ _ _ => none) cluster) h w ∧
      (∃ e ∈ h, e.task = true) ∧ (w.tasks false).isOk = true := by
  obtain ⟨trace, result, after, hruns, hserved⟩ := Program.exists_served
    (@serves_total "kube-rs") (reconcile (cluster false)) (fun _ _ _ => none)
  obtain ⟨action, rfl, -⟩ := triple_reconcile "kube-rs" (fun _ found => found = none)
    (fun _ _ => True) (guardedCluster_accepted "events") (guardedCluster_guarded "events") rfl nofun
    (fun _ _ _ _ _ => trivial) _ (fun _ => rfl) trace result after (hfalse ▸ hruns) hserved
  let start := concurrently (fun _ _ _ => none) cluster
  obtain ⟨next, hnext⟩ : ∃ next, start.tasks true =
      .call (.metric (.incReconcile "cluster")) next := ⟨_, reconcile_live_eq hlive⟩
  have hbegin : Run (lossyServes "kube-rs") start
      [⟨true, .metric (.incReconcile "cluster"), (), start.state, start.state⟩]
      ⟨start.state, Function.update start.tasks true (next ())⟩ :=
    Run.refl.step (.mk hnext (.served rfl))
  let begun : World Request Request.Response OperatorError Action Bool ObjectStore :=
    ⟨start.state, Function.update start.tasks true (next ())⟩
  have hstays : begun.tasks false = reconcile (cluster false) :=
    Function.update_of_ne Bool.false_ne_true (next ()) start.tasks
  obtain ⟨h, hrest, -⟩ := World.exists_run_alone hruns begun hstays hserved.lossy
  refine ⟨_, _, hbegin.append hrest, ⟨_, List.mem_cons_self, rfl⟩, ?_⟩
  have hdone := Function.update_self false (Program.ofExcept (.ok action)) begun.tasks
  exact (congrArg Program.isOk hdone).trans rfl

theorem reconciles_isolated_orders_events :
    ∃ h w, Run (lossyServes "kube-rs") (concurrently (fun _ _ _ => none) ordersAndEvents) h w ∧
      (∃ e ∈ h, e.task = true) ∧
      ∀ child : Child, ∃ stored, child.stored (ordersAndEvents false) w.state = some stored ∧
        stored.value = child.fields (ordersAndEvents false) := by
  obtain ⟨h, w, hrun, hbegun, hok⟩ := exists_overlap ordersAndEvents rfl rfl
  refine ⟨h, w, hrun, hbegun, ?_⟩
  exact (reconciles_isolated "kube-rs" _ ordersAndEvents ordersAndEvents_apart _ _ hrun false).2
    hok (guardedCluster_accepted "events") rfl (fun _ => rfl)

end StreamlineOperator.Controllers.ClusterController
