/- source: src/src/controllers/{cluster,topic}.rs (ensure_finalizer and what follows it)
   digest: A resource without the finalizer does not get past its first write. -/

import StreamlineOperator.Controllers.ClusterReconcile
import StreamlineOperator.Controllers.Topic

set_option autoImplicit false
set_option relaxedAutoImplicit false

namespace StreamlineOperator.Controllers

open Foundation
open Kubernetes
open Conditions (clusterFinalizer topicFinalizer)
open Crd (StreamlineCluster StreamlineTopic)

/-! What the API server accepts. -/

/-- The API version and the kind of a resource. -/
def typeMeta : Kind → String × String
  | .configMap => ("v1", "ConfigMap")
  | .service => ("v1", "Service")
  | .statefulSet => ("apps/v1", "StatefulSet")
  | .horizontalPodAutoscaler => ("autoscaling/v2", "HorizontalPodAutoscaler")
  | .scaledObject => ("keda.sh/v1alpha1", "ScaledObject")
  | .persistentVolumeClaim => ("v1", "PersistentVolumeClaim")
  | .pod => ("v1", "Pod")
  | .streamlineCluster => ("streamline.io/v1alpha1", "StreamlineCluster")
  | .streamlineTopic => ("streamline.io/v1alpha1", "StreamlineTopic")
  | .streamlineUser => ("streamline.io/v1alpha1", "StreamlineUser")

/-- An apply has to say what it applies: the API version and the kind of the
addressed resource, and its name if it gives one. -/
def isApplicable (kind : Kind) (name : String) (body : Json) : Bool :=
  (body.members.lookup "apiVersion").bind Decoder.string = some (typeMeta kind).1 &&
    (body.members.lookup "kind").bind Decoder.string = some (typeMeta kind).2 &&
    (((body.members.lookup "metadata").getD .null).members.lookup "name").all
      (fun given => Decoder.string given = some name)

/-- The call was answered as a bad request. -/
def isBadRequest {α : Type} (response : Except KubeError α) : Prop :=
  ∃ e, response = .error e ∧ e.code = some 400

/-- The server answers 400 to an apply that is not applicable and accepts every
other write. A rendered object carries its own API version and kind. Any child
object may be there or not, and so may a broker. -/
def Conforms : ApiExchange → Prop
  | ⟨.applyJson kind _ name _ body, r⟩ =>
    if isApplicable kind name body then r.isOk = true else isBadRequest r
  | ⟨.apply kind _ name object, r⟩ =>
    if kind.objectName object = name then r.isOk = true else isBadRequest r
  | ⟨.create .., r⟩ => r.isOk = true
  | ⟨.mergePatch .., r⟩ => r.isOk = true
  | ⟨.patchStatus .., r⟩ => r.isOk = true
  | ⟨.list .., r⟩ => r.isOk = true
  | ⟨.get .., r⟩ => ∀ e, r = .error e → e.code = some 404
  | ⟨.delete .., r⟩ => ∀ e, r = .error e → e.code = some 404
  | _ => True

/-- The reconcile returned `Ok` after writing the cluster's four child objects. -/
def WritesChildren (cluster : StreamlineCluster) (tr : List ApiExchange)
    (res : Except OperatorError Action) : Prop :=
  (∃ action, res = .ok action) ∧
    (∃ e ∈ tr, ClusterController.hasWritten .configMap (cluster.nameAny ++ "-config") e) ∧
    (∃ e ∈ tr, ClusterController.hasWritten .service (cluster.nameAny ++ "-headless") e) ∧
    (∃ e ∈ tr, ClusterController.hasWritten .service cluster.nameAny e) ∧
    ∃ e ∈ tr, ClusterController.hasWritten .statefulSet cluster.nameAny e

/-- The reconcile reached its create request. -/
def ReachesPost (topic : StreamlineTopic) (tr : List ApiExchange) : Prop :=
  ∃ e ∈ tr, ∃ url, e.request = .httpPost url (TopicController.topicConfig topic)

/-- Where the topic looks up its cluster, it finds one that is ready. -/
def FindsReady (topic : StreamlineTopic) : ApiExchange → Prop
  | ⟨.get .streamlineCluster namespaceName name, r⟩ =>
    namespaceName = topic.namespaceOrDefault → name = topic.spec.clusterRef →
      ∃ cluster, r = .ok cluster ∧ TopicController.clusterReady cluster = true
  | _ => True

theorem finalizersPatch_not_applicable (kind : Kind) (name : String) (finalizers : List String) :
    isApplicable kind name (finalizersPatch finalizers) = false := by
  simp [isApplicable, finalizersPatch, Json.members, Members.lookup_cons]

/-- Adding the finalizer fails, and with it everything behind it. -/
theorem ensureFinalizer_fails {kind : Kind} {finalizer : String} {metadata : ObjectMeta}
    {namespaceName : String} {tr : List ApiExchange} {res : Except OperatorError Unit}
    (hmissing : finalizer ∉ metadata.finalizerList) (hconforms : ∀ e ∈ tr, Conforms e)
    (h : Program.Runs (ensureFinalizer kind finalizer metadata namespaceName) tr res) :
    (∃ e, res = .error e) ∧ ∀ e ∈ tr, ∃ body,
      e.request = .applyJson kind namespaceName metadata.nameAny true body := by
  rcases runs_ensureFinalizer h with ⟨hpresent, -, -⟩ | ⟨-, r, rfl, hok⟩
  · exact absurd hpresent hmissing
  · rw [List.forall_mem_singleton] at hconforms ⊢
    simp only [Conforms, finalizersPatch_not_applicable, Bool.false_eq_true, if_false] at hconforms
    obtain ⟨failure, rfl, -⟩ := hconforms
    refine ⟨?_, _, rfl⟩
    cases res with
    | ok u => cases hok.mpr rfl
    | error e => exact ⟨e, rfl⟩

theorem handleDeletion_writes_nothing (cluster : StreamlineCluster) (namespaceName : String) :
    Program.Always (fun e => e.request.isWorkloadWrite = false)
      (ClusterController.handleDeletion cluster namespaceName) := by
  apply ClusterController.always_handleDeletion
  · exact fun _ => rfl
  · exact fun _ _ => rfl
  · exact fun _ => rfl

private theorem cluster_stuck {cluster : StreamlineCluster} {tr : List ApiExchange}
    {res : Except OperatorError Action}
    (hmissing : clusterFinalizer ∉ cluster.metadata.finalizerList)
    (hconforms : ∀ e ∈ tr, Conforms e)
    (h : Program.Runs (ClusterController.reconcile cluster) tr res) :
    (∃ e, res = .error e) ∨ ∀ e ∈ tr, e.request.isWorkloadWrite = false := by
  cases hdeleted : cluster.metadata.deletionTimestamp with
  | some time =>
    have hnone : Program.Always (fun e => e.request.isWorkloadWrite = false)
        (ClusterController.reconcile cluster) := by
      simp only [ClusterController.reconcile, hdeleted, Option.isSome_some, if_true]
      refine Program.always_bind (always_sendMetric rfl) ?_
      intro _
      exact handleDeletion_writes_nothing cluster _
    exact .inr (hnone tr res h)
  | none =>
    rw [ClusterController.reconcile_live_eq hdeleted] at h
    simp only [sendMetric, send, Program.send_bind, Program.runs_call, Program.runs_bind] at h
    obtain ⟨_, tr', rfl, ⟨e, -, rfl⟩ | ⟨_, before, after, rfl, hfinalizer, -⟩⟩ := h
    · exact .inl ⟨e, rfl⟩
    · have hbefore : ∀ e ∈ before, Conforms e := fun e he =>
        hconforms e (List.mem_cons_of_mem _ (List.mem_append_left _ he))
      obtain ⟨⟨e, he⟩, -⟩ := ensureFinalizer_fails hmissing hbefore hfinalizer
      cases he

private theorem topic_stuck {topic : StreamlineTopic} {tr : List ApiExchange}
    {res : Except OperatorError Action}
    (hmissing : topicFinalizer ∉ topic.metadata.finalizerList)
    (hconforms : ∀ e ∈ tr, Conforms e)
    (h : Program.Runs (TopicController.reconcile topic) tr res) :
    ∀ e ∈ tr, ∀ url body, e.request ≠ .httpPost url body := by
  simp only [TopicController.reconcile, sendMetric, send, Program.bind_eq, Program.send_bind,
    Program.runs_call] at h
  obtain ⟨_, tr', rfl, h⟩ := h
  rw [List.forall_mem_cons]
  refine ⟨by simp, ?_⟩
  cases hdeleted : topic.metadata.deletionTimestamp.isSome with
  | true =>
    simp only [hdeleted, if_true] at h
    obtain ⟨patched, -, ⟨cluster, deleted, rfl⟩ | ⟨e, rfl⟩⟩ := TopicController.runs_handleDeletion h
    · simp only [List.forall_mem_cons]
      exact ⟨by simp, by simp, by simp, by simp⟩
    · simp only [List.forall_mem_cons]
      exact ⟨by simp, by simp, by simp⟩
  | false =>
    simp only [hdeleted, if_false, Bool.false_eq_true, TopicController.reconcileLive,
      Program.bind_eq, Program.runs_bind] at h
    have hbefore : ∀ {before after : List ApiExchange} {outcome : Except OperatorError Unit},
        tr' = before ++ after →
        Program.Runs (TopicController.ensureFinalizer topic topic.namespaceOrDefault) before
          outcome → (∃ e, outcome = .error e) ∧ ∀ e ∈ before, ∃ body, e.request = .applyJson
            .streamlineTopic topic.namespaceOrDefault topic.metadata.nameAny true body := by
      rintro before after outcome rfl hfinalizer
      exact ensureFinalizer_fails hmissing (fun e he =>
        hconforms e (List.mem_cons_of_mem _ (List.mem_append_left _ he))) hfinalizer
    rcases h with ⟨e, hfinalizer, -⟩ | ⟨_, before, after, hsplit, hfinalizer, -⟩
    · intro e he url body hpost
      obtain ⟨body', happly⟩ := (hbefore (List.append_nil _).symm hfinalizer).2 e he
      rw [happly] at hpost
      cases hpost
    · obtain ⟨e, he⟩ := (hbefore hsplit hfinalizer).1
      cases he

/-- Against a conforming server, neither a cluster nor a topic without the
operator's finalizer ever gets past its first write. -/
theorem first_write_rejected (cluster : StreamlineCluster) (topic : StreamlineTopic) :
    (cluster.spec.validate = .ok () → clusterFinalizer ∉ cluster.metadata.finalizerList →
      ∀ tr res, Program.Runs (ClusterController.reconcile cluster) tr res →
        (∀ e ∈ tr, Conforms e) → ¬ WritesChildren cluster tr res) ∧
    (TopicController.unsupportedFields topic.spec = [] →
      topicFinalizer ∉ topic.metadata.finalizerList →
      ∀ tr res, Program.Runs (TopicController.reconcile topic) tr res →
        (∀ e ∈ tr, Conforms e) → ¬ ReachesPost topic tr) := by
  constructor
  · rintro - hmissing tr res h hconforms ⟨⟨action, rfl⟩, ⟨e, he, hwritten, -⟩, -⟩
    rcases cluster_stuck hmissing hconforms h with ⟨e, hres⟩ | hnone
    · cases hres
    · have hwrite := hnone e he
      rw [Request.isWorkloadWrite, hwritten] at hwrite
      cases hwrite
  · rintro - hmissing tr res h hconforms ⟨e, he, url, hpost⟩
    exact topic_stuck hmissing hconforms h e he url _ hpost

/-- A conforming server without any child object, and with a ready cluster. -/
def strictServer (ready : StreamlineCluster) : (request : Request) → request.Response
  | .applyJson kind _ name _ body =>
    if isApplicable kind name body then .ok () else .error ⟨some 400, "bad request"⟩
  | .apply kind _ name object =>
    if kind.objectName object = name then .ok () else .error ⟨some 400, "bad request"⟩
  | .get .streamlineCluster .. => .ok ready
  | request => emptyServer request

theorem strictServer_conforms (ready : StreamlineCluster) (request : Request) :
    Conforms ⟨request, strictServer ready request⟩ := by
  cases request with
  | applyJson kind namespaceName name force body =>
    cases happlicable : isApplicable kind name body with
    | true => simp [Conforms, strictServer, happlicable, Except.isOk, Except.toBool]
    | false => simp [Conforms, strictServer, happlicable, isBadRequest]
  | apply kind namespaceName name object =>
    by_cases hname : kind.objectName object = name
    · simp [Conforms, strictServer, hname, Except.isOk, Except.toBool]
    · simp [Conforms, strictServer, hname, isBadRequest]
  | get kind namespaceName name => cases kind <;> simp [Conforms, strictServer, emptyServer]
  | list | create | mergePatch | patchStatus => rfl
  | delete => simp [Conforms, strictServer, emptyServer]
  | httpPost | httpGet | httpDelete | clock | metric => trivial

theorem answer_conforms {ready : StreamlineCluster} {α : Type} {p : Operation α} :
    ∀ e ∈ (p.answer (strictServer ready)).1, Conforms e := by
  intro e he
  rw [Program.response_of_mem_answer he]
  exact strictServer_conforms ready e.request

/-- A ready cluster whose finalizer is missing, and a new topic of it. -/
def readyCluster : StreamlineCluster where
  metadata := { name := some "events", namespaceName := some "streamline" }
  spec := {}
  status := some { readyReplicas := 1, brokerEndpoints := ["events-0"] }

def newTopic : StreamlineTopic where
  metadata := { name := some "orders", namespaceName := some "streamline" }
  spec := { clusterRef := "events" }
  status := none

private theorem answer_findsReady (topic : StreamlineTopic) {α : Type} {p : Operation α} :
    ∀ e ∈ (p.answer (strictServer readyCluster)).1, FindsReady topic e := by
  intro e he
  rw [Program.response_of_mem_answer he]
  cases e.request with
  | get kind namespaceName name =>
    cases kind with
    | streamlineCluster => exact fun _ _ => ⟨readyCluster, rfl, by decide⟩
    | _ => trivial
  | _ => trivial

theorem first_write_rejected_strictServer :
    ¬ WritesChildren readyCluster
        ((ClusterController.reconcile readyCluster).answer (strictServer readyCluster)).1
        ((ClusterController.reconcile readyCluster).answer (strictServer readyCluster)).2 ∧
      ¬ ReachesPost newTopic
        ((TopicController.reconcile newTopic).answer (strictServer readyCluster)).1 :=
  ⟨(first_write_rejected readyCluster newTopic).1 (by decide) (by decide) _ _
      (Program.runs_answer _ _) answer_conforms,
    (first_write_rejected readyCluster newTopic).2 (by decide) (by decide) _ _
      (Program.runs_answer _ _) answer_conforms⟩

/-- The first reconcile of a fresh cluster, and that of a fresh topic. -/
theorem first_write_fails :
    (¬ ∀ cluster : StreamlineCluster, cluster.spec.validate = .ok () →
      clusterFinalizer ∉ cluster.metadata.finalizerList →
      ∀ tr res, Program.Runs (ClusterController.reconcile cluster) tr res →
        (∀ e ∈ tr, Conforms e) → WritesChildren cluster tr res) ∧
    ¬ ∀ topic : StreamlineTopic, TopicController.unsupportedFields topic.spec = [] →
      topicFinalizer ∉ topic.metadata.finalizerList →
      ∀ tr res, Program.Runs (TopicController.reconcile topic) tr res →
        (∀ e ∈ tr, Conforms e ∧ FindsReady topic e) → ReachesPost topic tr := by
  constructor
  · intro h
    obtain ⟨⟨action, hok⟩, -⟩ := h readyCluster (by decide) (by decide) _ _
      (Program.runs_answer (strictServer readyCluster) _) answer_conforms
    cases hok
  · intro h
    obtain ⟨e, he, url, hpost⟩ := h newTopic (by decide) (by decide) _ _
      (Program.runs_answer (strictServer readyCluster) _)
      (fun e he => ⟨answer_conforms e he, answer_findsReady newTopic e he⟩)
    exact topic_stuck (by decide) answer_conforms (Program.runs_answer _ _) e he url _ hpost

end StreamlineOperator.Controllers
