/- source: src/src/controllers/mod.rs (error_policy_backoff); src/src/controllers/{cluster,topic,user}.rs (reconcile, run)
   digest: Which failures end a reconcile, and when the object is reconciled again. -/

import StreamlineOperator.Controllers.TopicAccount
import StreamlineOperator.Foundation.FailFast

set_option autoImplicit false
set_option relaxedAutoImplicit false

namespace StreamlineOperator.Controllers

open Foundation
open Kubernetes
open Conditions
open Program (FailsFast)
open Crd (StreamlineCluster StreamlineTopic StreamlineUser CustomResource)

/-- The delay before the next attempt, by kind of error. -/
def errorPolicyBackoff : OperatorError → Action
  | .kubeApi _ | .http _ => .requeue 10
  | .notFound _ => .requeue 15
  | .reconciliation _ | .invalidState _ => .requeue 30
  | .configuration _ | .serialization _ => .requeue 60
  | .internal _ => .requeue 60

/-- What the runtime does after a reconcile: what it asks for, or what the error policy
says. -/
def scheduled : Except OperatorError Action → Action
  | .ok action => action
  | .error e => errorPolicyBackoff e

/-- The error that a failed request ends a reconcile with. A failure to read an object or
to delete a claim, an autoscaler that is gone already and whatever a broker does are passed
over. -/
def propagated : ApiExchange → Option OperatorError
  | ⟨.list .., .error e⟩ => some (.kubeApi e.text)
  | ⟨.create .., .error e⟩ => some (.kubeApi e.text)
  | ⟨.apply .., .error e⟩ => some (.kubeApi e.text)
  | ⟨.applyJson .., .error e⟩ => some (.kubeApi e.text)
  | ⟨.mergePatch .., .error e⟩ => some (.kubeApi e.text)
  | ⟨.patchStatus .., .error e⟩ => some (.kubeApi e.text)
  | ⟨.delete .horizontalPodAutoscaler namespaceName name, .error e⟩ =>
    match classifyDeleteError e with
    | .gone => none
    | .propagate => some (.kubeApi ("failed to delete HPA " ++ name ++ " in namespace " ++
        namespaceName ++ ": " ++ e.text))
  | _ => none

/-- A run that ends at its first failure, asks for `due` if there is none, and is followed
by the next one accordingly. -/
structure Rescheduled (due : Action) (tr : List ApiExchange)
    (res : Except OperatorError Action) : Prop where
  ended : Program.Ended propagated (fun _ action => action = due) tr res
  next : scheduled res = if tr.any (fun e => (propagated e).isSome) then .requeue 10 else due

/-- Whatever a reconcile ends with is an error of the Kubernetes API. -/
theorem backoff_of_propagated {e : ApiExchange} {error : OperatorError}
    (h : propagated e = some error) : errorPolicyBackoff error = .requeue 10 := by
  unfold propagated at h
  split at h
  case h_7 =>
    split at h
    · cases h
    · obtain rfl := Option.some.inj h
      rfl
  case h_8 => cases h
  all_goals
    obtain rfl := Option.some.inj h
    rfl

theorem rescheduled_of_ended {due : Action} {tr : List ApiExchange}
    {res : Except OperatorError Action}
    (h : Program.Ended propagated (fun _ action => action = due) tr res) :
    Rescheduled due tr res := by
  refine ⟨h, ?_⟩
  cases h with
  | returned unfailed post =>
    have hnone : tr.any (fun e => (propagated e).isSome) = false := by
      rw [List.any_eq_false]
      intro e he
      simp [unfailed e he]
    rw [hnone]
    exact post
  | stopped unfailed failed =>
    simp only [List.any_append, List.any_cons, failed, Option.isSome_some, Bool.true_or,
      Bool.or_true, if_true]
    exact backoff_of_propagated failed

/-! The operations that the reconciles share. -/

section Operations

variable {namespaceName : String}

theorem failsFast_sendMetric {event : MetricEvent} :
    FailsFast propagated (fun _ _ => True) (sendMetric event) :=
  Program.failsFast_last () (fun _ => rfl) (fun _ => trivial)

theorem failsFast_getThenWrite {kind : Kind} {name : String} {object : kind.Object} :
    FailsFast propagated (fun _ _ => True) (getThenWrite kind namespaceName name object) := by
  refine Program.failsFast_call_of_none (fun _ => rfl) ?_
  intro found
  cases found with
  | ok _ => exact Program.failsFast_last () (fun x => by cases x <;> rfl) (fun _ => trivial)
  | error _ => exact Program.failsFast_last () (fun x => by cases x <;> rfl) (fun _ => trivial)

theorem failsFast_ensureFinalizer {kind : Kind} {finalizer : String} {metadata : ObjectMeta} :
    FailsFast propagated (fun _ _ => True)
      (ensureFinalizer kind finalizer metadata namespaceName) := by
  unfold ensureFinalizer
  split
  · exact Program.failsFast_ok trivial
  · exact Program.failsFast_last () (fun x => by cases x <;> rfl) (fun _ => trivial)

theorem failsFast_removeFinalizer {kind : Kind} {finalizer : String} {metadata : ObjectMeta} :
    FailsFast propagated (fun _ _ => True)
      (removeFinalizer kind finalizer metadata namespaceName) :=
  Program.failsFast_last () (fun x => by cases x <;> rfl) (fun _ => trivial)

theorem failsFast_deleteHpa {cluster : StreamlineCluster} :
    FailsFast propagated (fun _ _ => True)
      (AutoScalingController.deleteHpa cluster namespaceName) := by
  simp only [AutoScalingController.deleteHpa, send, Program.bind_eq, Program.send_bind]
  refine Program.failsFast_last () ?_ (fun _ => trivial)
  intro x
  cases x with
  | ok _ => rfl
  | error e =>
    dsimp only [propagated]
    cases classifyDeleteError e <;> rfl

theorem failsFast_publish {Spec Status : Type} [PublishedStatus Status] [DecidableEq Status]
    {kind : Kind} {object : CustomResource Spec Status}
    {build : Clock → CustomResource Spec Status → Status} :
    FailsFast propagated (fun _ _ => True) (publish kind object namespaceName build) := by
  simp only [publish, send, Program.bind_eq, Program.send_bind]
  refine Program.failsFast_call_of_none (fun _ => rfl) ?_
  intro clock
  unfold patchStatusIfChanged
  split
  · exact Program.failsFast_ok trivial
  · exact Program.failsFast_last () (fun x => by cases x <;> rfl) (fun _ => trivial)

end Operations

/-! The reconciles. -/

namespace ClusterController

variable {cluster : StreamlineCluster} {namespaceName : String}

theorem failsFast_deleteClaim {pvc : Kubernetes.PersistentVolumeClaim} :
    FailsFast propagated (fun _ _ => True) (deleteClaim namespaceName pvc) := by
  unfold deleteClaim
  split
  · refine Program.failsFast_last () ?_ (fun _ => trivial)
    intro x
    cases x <;> rfl
  · exact Program.failsFast_ok trivial

theorem failsFast_list {α : Type} {T : α → Prop} {kind : Kind} {selector : String}
    {next : List kind.Object → Operation α}
    (hnext : ∀ items, FailsFast propagated (fun _ => T) (next items)) :
    FailsFast propagated (fun _ => T)
      ((send (.list kind namespaceName selector)).bind fun listed =>
        (orKubeApi listed).bind next) := by
  refine Program.failsFast_call ?_ ?_
  · intro listed hlisted
    cases listed with
    | ok items => exact hnext items
    | error e => cases hlisted
  · intro listed e hlisted
    cases listed with
    | ok items => cases hlisted
    | error error =>
      obtain rfl := Option.some.inj hlisted
      rfl

theorem failsFast_handleDeletion :
    FailsFast propagated (fun _ action => action = .awaitChange)
      (handleDeletion cluster namespaceName) := by
  refine failsFast_list ?_
  intro pvcs
  refine Program.failsFast_then (Program.failsFast_forEach fun _ _ => failsFast_deleteClaim) ?_
  intro _
  refine Program.failsFast_then failsFast_removeFinalizer ?_
  intro _
  exact Program.failsFast_ok rfl

/-- When a live cluster is reconciled again if nothing failed. -/
def liveDue (cluster : StreamlineCluster) : Action :=
  if cluster.spec.validate.isOk then .requeue 60 else .requeue 300

theorem failsFast_afterCleanup :
    FailsFast propagated (fun _ action => action = liveDue cluster)
      (afterCleanup cluster namespaceName) := by
  unfold afterCleanup liveDue
  cases hvalid : cluster.spec.validate with
  | error errors =>
    refine Program.failsFast_then failsFast_publish ?_
    intro _
    refine Program.failsFast_then failsFast_sendMetric ?_
    intro _
    exact Program.failsFast_ok rfl
  | ok u =>
    have heq := renderSpec_eq cluster namespaceName
    rw [hvalid] at heq
    simp only [heq]
    refine Program.failsFast_then failsFast_getThenWrite ?_
    intro _
    refine Program.failsFast_then failsFast_getThenWrite ?_
    intro _
    refine Program.failsFast_then failsFast_getThenWrite ?_
    intro _
    refine Program.failsFast_then failsFast_getThenWrite ?_
    intro _
    have hstatus : FailsFast propagated (fun _ _ => True) (updateStatus cluster namespaceName) :=
      failsFast_list fun _ => failsFast_publish
    refine Program.failsFast_then hstatus ?_
    intro _
    refine Program.failsFast_then failsFast_sendMetric ?_
    intro _
    exact Program.failsFast_ok rfl

/-- When a cluster is reconciled again if nothing failed. -/
def due (cluster : StreamlineCluster) : Action :=
  if cluster.metadata.deletionTimestamp.isSome then .awaitChange else liveDue cluster

theorem failsFast_reconcile :
    FailsFast propagated (fun _ action => action = due cluster) (reconcile cluster) := by
  refine Program.failsFast_then failsFast_sendMetric ?_
  intro _
  unfold due
  split
  · exact failsFast_handleDeletion
  · rw [reconcileLive_eq]
    refine Program.failsFast_then failsFast_ensureFinalizer ?_
    intro _
    refine Program.failsFast_then failsFast_deleteHpa ?_
    intro _
    exact failsFast_afterCleanup

end ClusterController

namespace TopicController

variable {topic : StreamlineTopic} {namespaceName : String} {cluster : StreamlineCluster}

/-- When an accepted topic is reconciled again, after what the cluster answered. -/
def appliedDue (tr : List ApiExchange) : Action :=
  match tr.findSome? createAnswer? with
  | some answer => if refused answer then .requeue 30 else .requeue 60
  | none => if tr.any lookupFailed then .requeue 30 else .requeue 10

/-- When a topic is reconciled again if nothing failed. -/
def due (topic : StreamlineTopic) (tr : List ApiExchange) : Action :=
  if topic.metadata.deletionTimestamp.isSome then .awaitChange
  else if (unsupportedFields topic.spec).isEmpty then appliedDue tr
  else .requeue 300

theorem appliedDue_append_left {before tr : List ApiExchange} (h : ∀ e ∈ before, Unrelated e) :
    appliedDue (before ++ tr) = appliedDue tr := by
  have hcreate : before.findSome? createAnswer? = none :=
    List.findSome?_eq_none_iff.mpr fun e he => (h e he).create
  have hlookup : before.any lookupFailed = false :=
    List.any_eq_false.mpr fun e he => by simp [(h e he).lookup]
  simp only [appliedDue, List.findSome?_append, hcreate, Option.none_or, List.any_append, hlookup,
    Bool.false_or]

theorem appliedDue_append_right {tr after : List ApiExchange} (h : ∀ e ∈ after, Unrelated e) :
    appliedDue (tr ++ after) = appliedDue tr := by
  have hcreate : after.findSome? createAnswer? = none :=
    List.findSome?_eq_none_iff.mpr fun e he => (h e he).create
  have hlookup : after.any lookupFailed = false :=
    List.any_eq_false.mpr fun e he => by simp [(h e he).lookup]
  simp only [appliedDue, List.findSome?_append, hcreate, Option.or_none, List.any_append, hlookup,
    Bool.or_false]

private theorem failsFast_tail {p : Operation Action} {shown : List ApiExchange} {action : Action}
    (hp : FailsFast propagated (fun _ a => a = action) p)
    (hunrelated : Program.Always Unrelated p) (h : appliedDue shown = action) :
    FailsFast propagated (fun after a => a = appliedDue (shown ++ after)) p := by
  refine Program.failsFast_mono ?_ (Program.failsFast_always hp hunrelated)
  intro after a hafter
  obtain ⟨ha, hafter⟩ := hafter
  rw [appliedDue_append_right hafter, h, ha]

private theorem always_unrelated_publish {build : Clock → StreamlineTopic → Crd.TopicStatus} :
    Program.Always Unrelated (publish .streamlineTopic topic namespaceName build) :=
  always_publish (fun _ => ⟨rfl, rfl, rfl⟩) (fun _ _ => ⟨rfl, rfl, rfl⟩)

private theorem failsFast_publish_then {build : Clock → StreamlineTopic → Crd.TopicStatus}
    {shown : List ApiExchange} {action : Action} (h : appliedDue shown = action) :
    FailsFast propagated (fun after a => a = appliedDue (shown ++ after))
      ((publish .streamlineTopic topic namespaceName build).bind fun _ => .ok action) := by
  refine failsFast_tail ?_ (Program.always_then always_unrelated_publish) h
  refine Program.failsFast_then failsFast_publish ?_
  intro _
  exact Program.failsFast_ok rfl

theorem createOrUpdateTopic_passed_over :
    Program.Always (fun e => propagated e = none) (createOrUpdateTopic topic cluster) := by
  intro tr outcome hruns
  obtain ⟨answer, rest, rfl, hrest, -⟩ := runs_create hruns
  rw [List.forall_mem_cons]
  refine ⟨rfl, ?_⟩
  intro e he
  obtain ⟨read, rfl⟩ := hrest e he
  rfl

theorem failsFast_syncTopic {found : ApiExchange} (hfound : Unrelated found) :
    FailsFast propagated (fun tr action => action = appliedDue ([found] ++ tr))
      (syncTopic topic namespaceName cluster) := by
  refine Program.failsFast_bind
    (Program.failsFast_attempt createOrUpdateTopic_passed_over) ?_
  intro outcome before hruns
  obtain ⟨answer, rest, rfl, -, houtcome⟩ := runs_create hruns
  simp only [← List.append_assoc]
  have hshown : appliedDue ([found] ++ ⟨.httpPost (createUrl cluster) (topicConfig topic), answer⟩
      :: rest) = if refused answer then .requeue 30 else .requeue 60 := by
    rw [appliedDue_append_left (List.forall_mem_singleton.mpr hfound)]
    rfl
  rcases houtcome with ⟨hrefused, e, rfl⟩ | ⟨htaken, response, -, rfl⟩
  · exact failsFast_publish_then (by rw [hshown, if_pos hrefused])
  · rw [htaken] at hshown
    dsimp only
    rw [updateStatusFromServer_eq]
    refine failsFast_tail ?_ ?_ hshown
    · refine Program.failsFast_then failsFast_publish ?_
      intro _
      refine Program.failsFast_then failsFast_sendMetric ?_
      intro _
      exact Program.failsFast_ok rfl
    · refine Program.always_bind always_unrelated_publish ?_
      intro _
      exact Program.always_then (always_sendMetric ⟨rfl, rfl, rfl⟩)

theorem failsFast_applySpec :
    FailsFast propagated (fun tr action => action = appliedDue tr)
      (applySpec topic namespaceName) := by
  simp only [applySpec, send, Program.bind_eq, Program.send_bind]
  refine Program.failsFast_call_of_none (fun _ => rfl) ?_
  intro found
  have happend : ∀ after, appliedDue
      (⟨.get .streamlineCluster namespaceName topic.spec.clusterRef, found⟩ :: after) =
        appliedDue ([⟨.get .streamlineCluster namespaceName topic.spec.clusterRef, found⟩] ++
          after) := fun _ => rfl
  simp only [happend]
  cases found with
  | error e => exact failsFast_publish_then rfl
  | ok cluster =>
    by_cases hready : clusterReady cluster = true
    · simp only [hready, if_true]
      exact failsFast_syncTopic ⟨rfl, rfl, rfl⟩
    · simp only [hready, if_false, Bool.false_eq_true]
      exact failsFast_publish_then rfl

theorem failsFast_handleDeletion :
    FailsFast propagated (fun _ action => action = .awaitChange)
      (handleDeletion topic namespaceName) := by
  have hremove : FailsFast propagated (fun _ action => action = Action.awaitChange)
      ((removeFinalizer .streamlineTopic topicFinalizer topic.metadata namespaceName).bind
        fun _ => .ok Action.awaitChange) := by
    refine Program.failsFast_then failsFast_removeFinalizer ?_
    intro _
    exact Program.failsFast_ok rfl
  simp only [handleDeletion, send, Program.bind_eq, Program.send_bind]
  refine Program.failsFast_call_of_none (fun _ => rfl) ?_
  intro found
  cases found with
  | error e => exact hremove
  | ok cluster =>
    refine Program.failsFast_call_of_none (fun _ => rfl) ?_
    intro _
    exact hremove

theorem failsFast_rejectSpec {unsupported : List String} :
    FailsFast propagated (fun _ action => action = .requeue 300)
      (rejectSpec topic namespaceName unsupported) := by
  refine Program.failsFast_then failsFast_publish ?_
  intro _
  refine Program.failsFast_then failsFast_sendMetric ?_
  intro _
  exact Program.failsFast_ok rfl

theorem failsFast_reconcileLive :
    FailsFast propagated
      (fun tr action => action =
        if (unsupportedFields topic.spec).isEmpty then appliedDue tr else .requeue 300)
      (reconcileLive topic namespaceName) := by
  have hfinalizer : Program.Always Unrelated (ensureFinalizer topic namespaceName) :=
    always_ensureFinalizer fun _ => ⟨rfl, rfl, rfl⟩
  refine Program.failsFast_bind
    (Program.failsFast_always failsFast_ensureFinalizer hfinalizer) ?_
  intro _ before hbefore
  dsimp only
  cases (unsupportedFields topic.spec).isEmpty with
  | false => exact failsFast_rejectSpec
  | true =>
    refine Program.failsFast_mono ?_ failsFast_applySpec
    intro after action haction
    rw [haction, appliedDue_append_left hbefore.2]
    rfl

theorem failsFast_reconcile :
    FailsFast propagated (fun tr action => action = due topic tr) (reconcile topic) := by
  have hmetric : Program.Always Unrelated (sendMetric (.incReconcile "topic")) :=
    always_sendMetric ⟨rfl, rfl, rfl⟩
  refine Program.failsFast_bind (Program.failsFast_always failsFast_sendMetric hmetric) ?_
  intro _ before hbefore
  unfold due
  split
  · exact failsFast_handleDeletion
  · refine Program.failsFast_mono ?_ failsFast_reconcileLive
    intro after action haction
    rw [haction, appliedDue_append_left hbefore.2]

end TopicController

namespace UserController

variable {Spec : Type} {user : StreamlineUser Spec}

theorem failsFast_reconcile :
    FailsFast propagated (fun _ action => action = .awaitChange) (reconcile user) := by
  have hremove : FailsFast propagated (fun _ _ => True)
      (removeFinalizerIfPresent user user.namespaceOrDefault) := by
    unfold removeFinalizerIfPresent
    split
    · exact Program.failsFast_ok trivial
    · exact failsFast_removeFinalizer
  refine Program.failsFast_then failsFast_sendMetric ?_
  intro _
  refine Program.failsFast_then hremove ?_
  intro _
  split
  · exact Program.failsFast_ok rfl
  · refine Program.failsFast_then failsFast_publish ?_
    intro _
    refine Program.failsFast_then failsFast_sendMetric ?_
    intro _
    exact Program.failsFast_ok rfl

end UserController

/-- Every run of every reconcile ends at its first failure of a kind that is not passed
over, with that failure as its error, and is then repeated after ten seconds; a run without
one asks for the delay its object and the answers of the cluster call for. -/
theorem reconciles_rescheduled :
    (∀ (cluster : StreamlineCluster) (tr : List ApiExchange) (res : Except OperatorError Action),
      Program.Runs (ClusterController.reconcile cluster) tr res →
        Rescheduled (ClusterController.due cluster) tr res) ∧
    (∀ (topic : StreamlineTopic) (tr : List ApiExchange) (res : Except OperatorError Action),
      Program.Runs (TopicController.reconcile topic) tr res →
        Rescheduled (TopicController.due topic tr) tr res) ∧
    ∀ (Spec : Type) (user : StreamlineUser Spec) (tr : List ApiExchange)
      (res : Except OperatorError Action),
      Program.Runs (UserController.reconcile user) tr res →
        Rescheduled .awaitChange tr res := by
  refine ⟨?_, ?_, ?_⟩
  · intro cluster tr res hruns
    exact rescheduled_of_ended (ClusterController.failsFast_reconcile tr res hruns)
  · intro topic tr res hruns
    have h := TopicController.failsFast_reconcile tr res hruns
    refine rescheduled_of_ended ?_
    cases h with
    | returned unfailed post => exact .returned unfailed post
    | stopped unfailed failed => exact .stopped unfailed failed
  · intro Spec user tr res hruns
    exact rescheduled_of_ended (UserController.failsFast_reconcile tr res hruns)

end StreamlineOperator.Controllers
