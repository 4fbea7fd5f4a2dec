/- source: src/src/controllers/cluster.rs (label queries and object names)
   digest: Which objects a cluster selects by label and writes by name, and when it shares them. -/

import StreamlineOperator.Controllers.ClusterReconcile
import Mathlib.Data.Set.Lattice
import Mathlib.Order.CompletePartialOrder

set_option autoImplicit false
set_option relaxedAutoImplicit false

namespace StreamlineOperator.Controllers

open Foundation
open Kubernetes
open Program (Always)
open Crd (StreamlineCluster)

namespace ClusterController

/-! Selection by label. -/

/-- The claims and pods of one namespace. The API server keeps names unique. -/
structure Namespace where
  claims : List PersistentVolumeClaim
  pods : List Pod
  claimNames : (claims.filterMap (fun pvc => pvc.metadata.name)).Nodup

/-- The exchange is one the API server can have answered: a list call returns
what the selector selects, or fails. -/
def Namespace.Answers (content : Namespace) : ApiExchange → Prop
  | ⟨.list .persistentVolumeClaim _ selector, r⟩ =>
    (∃ error, r = .error error) ∨
      r = .ok (content.claims.filter (fun pvc => matchesSelector selector pvc.metadata))
  | ⟨.list .pod _ selector, r⟩ =>
    (∃ error, r = .error error) ∨
      r = .ok (content.pods.filter (fun pod => matchesSelector selector pod.metadata))
  | _ => True

/-- The run feeds the number of these pods to `observed_status`, for the status it publishes
if that is new. -/
def FeedsCount (cluster : StreamlineCluster) (counted : List Pod) (tr : List ApiExchange)
    (res : Except OperatorError Unit) : Prop :=
  ∃ listed rest, tr = listed :: rest ∧ Program.Runs (publish .streamlineCluster cluster
    cluster.namespaceOrDefault (fun clock cluster => observedStatus clock cluster
      cluster.namespaceOrDefault (Int32.ofNat counted.length))) rest res

/-- The ready pods of the namespace that carry every label of the pod selector. -/
def ownReadyPods (cluster : StreamlineCluster) (content : Namespace) : List Pod :=
  (readyPods content.pods).filter (fun pod => carriesLabels (podSelector cluster) pod.metadata)

/-- Claims are deleted and pods are counted only where they carry every label of the
cluster's pod selector, so that a published status counts the cluster's own pods. -/
structure SelectsOwn (cluster : StreamlineCluster) (content : Namespace) : Prop where
  claims : ∀ tr res, Program.Runs (handleDeletion cluster cluster.namespaceOrDefault) tr res →
    (∀ e ∈ tr, content.Answers e) → ∀ namespaceName name r,
    ⟨.delete .persistentVolumeClaim namespaceName name, r⟩ ∈ tr →
    ∀ pvc ∈ content.claims, pvc.metadata.name = some name →
      carriesLabels (podSelector cluster) pvc.metadata = true
  pods : ∀ tr res, Program.Runs (updateStatus cluster cluster.namespaceOrDefault) tr res →
    (∀ e ∈ tr, content.Answers e) → ∀ namespaceName selector items,
    ⟨.list .pod namespaceName selector, .ok items⟩ ∈ tr →
    FeedsCount cluster (readyPods items) tr res ∧
      ∀ pod ∈ readyPods items, carriesLabels (podSelector cluster) pod.metadata = true
  published : ∀ tr res, Program.Runs (updateStatus cluster cluster.namespaceOrDefault) tr res →
    (∀ e ∈ tr, content.Answers e) → ∀ kind namespaceName name body r,
    ⟨.patchStatus kind namespaceName name body, r⟩ ∈ tr →
    ∃ clock, body = Crd.statusPatch (observedStatus clock cluster cluster.namespaceOrDefault
      (Int32.ofNat (ownReadyPods cluster content).length))

/-- The object is labelled as part of this instance. -/
def hasInstance (cluster : StreamlineCluster) (metadata : ObjectMeta) : Prop :=
  metadata.labelMap["app.kubernetes.io/instance"]? = some cluster.nameAny

/-- The object is labelled as part of a Streamline cluster. -/
def isStreamline (metadata : ObjectMeta) : Prop :=
  metadata.labelMap["app.kubernetes.io/name"]? = some "streamline"

instance (cluster : StreamlineCluster) (metadata : ObjectMeta) :
    Decidable (hasInstance cluster metadata) :=
  inferInstanceAs (Decidable (_ = _))

instance (metadata : ObjectMeta) : Decidable (isStreamline metadata) :=
  inferInstanceAs (Decidable (_ = _))

variable {cluster : StreamlineCluster} {content : Namespace}

theorem carriesLabels_podSelector {metadata : ObjectMeta} :
    carriesLabels (podSelector cluster) metadata = true ↔
      isStreamline metadata ∧ hasInstance cluster metadata := by
  rw [carriesLabels_iff]
  simp only [podSelector, StringMap.getElem?_insert']
  constructor
  · intro h
    exact ⟨h _ _ rfl, h _ _ rfl⟩
  · rintro ⟨hname, hinstance⟩ key value hvalue
    split at hvalue
    · rename_i hkey
      obtain rfl := Option.some.inj hvalue
      exact hkey ▸ hinstance
    · split at hvalue
      · rename_i hkey
        obtain rfl := Option.some.inj hvalue
        exact hkey ▸ hname
      · simp at hvalue

theorem matchesSelector_instanceSelector {name : ResourceName} (hname : cluster.nameAny = name.value)
    (metadata : ObjectMeta) :
    matchesSelector (instanceSelector cluster) metadata = true ↔ hasInstance cluster metadata := by
  have hcomma : ',' ∉ cluster.nameAny.toList := by
    intro hmem
    rw [hname] at hmem
    rcases dns1123_char name.valid hmem with h | h | h <;> revert h <;> decide
  have hkey : ∀ c ∈ "app.kubernetes.io/instance".toList, c ≠ '=' ∧ c ≠ ',' := by simp
  have hselector : instanceSelector cluster =
      "app.kubernetes.io/instance" ++ "=" ++ cluster.nameAny := rfl
  rw [matchesSelector, hselector, selectorRequirements_single hkey hcomma]
  simp [hasInstance]

private theorem eq_of_name_eq {pvcs : List PersistentVolumeClaim}
    (hunique : (pvcs.filterMap (fun pvc => pvc.metadata.name)).Nodup)
    {p q : PersistentVolumeClaim} (hp : p ∈ pvcs) (hq : q ∈ pvcs) {name : String}
    (hpn : p.metadata.name = some name) (hqn : q.metadata.name = some name) : p = q := by
  induction pvcs with
  | nil => simp at hp
  | cons pvc pvcs ih =>
    have hrest : (pvcs.filterMap (fun pvc => pvc.metadata.name)).Nodup :=
      hunique.sublist ((List.sublist_cons_self pvc pvcs).filterMap _)
    have hhead : ∀ r ∈ pvcs, r.metadata.name = some name → pvc.metadata.name ≠ some name := by
      intro r hr hrn hpvc
      simp only [List.filterMap_cons, hpvc, List.nodup_cons] at hunique
      exact hunique.1 (List.mem_filterMap.mpr ⟨r, hr, hrn⟩)
    rcases List.mem_cons.mp hp with rfl | hp' <;> rcases List.mem_cons.mp hq with rfl | hq'
    · rfl
    · exact absurd hpn (hhead q hq' hqn)
    · exact absurd hqn (hhead p hp' hpn)
    · exact ih hrest hp' hq'

private theorem deleted_of_run {namespaceName : String} {tr : List ApiExchange}
    {res : Except OperatorError Action}
    (h : Program.Runs (handleDeletion cluster namespaceName) tr res) :
    ∃ listed tr', tr = ⟨.list .persistentVolumeClaim namespaceName (instanceSelector cluster),
        listed⟩ :: tr' ∧
      ∀ e ∈ tr', ∀ ns name, e.request = .delete .persistentVolumeClaim ns name →
        ∃ items, listed = .ok items ∧ ∃ pvc ∈ items, pvc.metadata.name = some name := by
  simp only [handleDeletion, send, Program.bind_eq, Program.send_bind, Program.runs_call] at h
  obtain ⟨listed, tr', rfl, h⟩ := h
  refine ⟨listed, tr', rfl, ?_⟩
  cases listed with
  | error error =>
    simp only [orKubeApi, Program.err_bind, Program.runs_err] at h
    simp [h.1]
  | ok items =>
    simp only [orKubeApi, Program.ok_bind] at h
    have hdeletes : Always (fun e : ApiExchange => ∀ ns name,
        e.request = .delete .persistentVolumeClaim ns name →
          ∃ pvc ∈ items, pvc.metadata.name = some name)
        (Program.forEach items (deleteClaim namespaceName)) := by
      refine Program.always_forEach fun pvc hpvc => always_deleteClaim ?_
      rintro pvcName hname r ns name heq
      obtain ⟨-, rfl⟩ : namespaceName = ns ∧ pvcName = name := by simpa using heq
      exact ⟨pvc, hpvc, hname⟩
    have hfinalizer : Always (fun e : ApiExchange => ∀ ns name,
        e.request = .delete .persistentVolumeClaim ns name →
          ∃ pvc ∈ items, pvc.metadata.name = some name)
        ((removeFinalizer .streamlineCluster Conditions.clusterFinalizer cluster.metadata
          namespaceName).bind fun _ => (.ok .awaitChange : Operation Action)) := by
      apply Program.always_then
      exact always_removeFinalizer (by simp)
    intro e he ns name hrequest
    have hall := Program.always_bind hdeletes (fun _ => hfinalizer) _ _ h
    exact ⟨items, rfl, hall e he ns name hrequest⟩

/-- A server that lists the namespace truthfully. -/
def Namespace.server (content : Namespace) : (request : Request) → request.Response
  | .list .persistentVolumeClaim _ selector =>
    .ok (content.claims.filter (fun pvc => matchesSelector selector pvc.metadata))
  | .list .pod _ selector =>
    .ok (content.pods.filter (fun pod => matchesSelector selector pod.metadata))
  | request => emptyServer request

private theorem answers_of_mem_answer {α : Type} {p : Operation α} {e : ApiExchange}
    (h : e ∈ (p.answer content.server).1) : content.Answers e := by
  rw [Program.response_of_mem_answer h]
  generalize e.request = request
  cases request with
  | list kind ns selector => cases kind <;> simp [Namespace.Answers, Namespace.server]
  | _ => trivial

private theorem deleteClaim_mem (env : (request : Request) → request.Response)
    (namespaceName : String) {name : String} {items : List PersistentVolumeClaim}
    {pvc : PersistentVolumeClaim} (hmem : pvc ∈ items) (hname : pvc.metadata.name = some name) :
    ⟨.delete .persistentVolumeClaim namespaceName name,
        env (.delete .persistentVolumeClaim namespaceName name)⟩ ∈
      ((Program.forEach items (deleteClaim namespaceName)).answer env).1 := by
  induction items with
  | nil => simp at hmem
  | cons item items ih =>
    rw [Program.forEach]
    rcases List.mem_cons.mp hmem with rfl | hmem
    · apply Program.mem_answer_bind_left
      simp [deleteClaim, hname, send, Program.answer]
    · apply Program.mem_answer_bind_right (a := ()) _ (ih hmem)
      unfold deleteClaim
      split <;> rfl

/-- Whatever the two queries select is labelled as part of a Streamline cluster. -/
structure InstanceIsOwn (cluster : StreamlineCluster) (content : Namespace) : Prop where
  claims : ∀ pvc ∈ content.claims, pvc.metadata.name.isSome = true →
    hasInstance cluster pvc.metadata → isStreamline pvc.metadata
  pods : ∀ pod ∈ content.pods, isReadyPod pod = true →
    hasInstance cluster pod.metadata → isStreamline pod.metadata

private theorem runs_updateStatus {tr : List ApiExchange} {res : Except OperatorError Unit}
    (h : Program.Runs (updateStatus cluster cluster.namespaceOrDefault) tr res) :
    ∃ listed rest, tr = ⟨.list .pod cluster.namespaceOrDefault (instanceSelector cluster), listed⟩
        :: rest ∧
      ((∃ error, listed = .error error ∧ rest = []) ∨
        ∃ items, listed = .ok items ∧ Program.Runs (publish .streamlineCluster cluster
          cluster.namespaceOrDefault (fun clock cluster => observedStatus clock cluster
            cluster.namespaceOrDefault (Int32.ofNat (readyPods items).length))) rest res) := by
  simp only [updateStatus, send, Program.bind_eq, Program.send_bind, Program.runs_call] at h
  obtain ⟨listed, rest, rfl, h⟩ := h
  refine ⟨listed, rest, rfl, ?_⟩
  cases listed with
  | error error =>
    simp only [orKubeApi, Program.err_bind, Program.runs_err] at h
    exact .inl ⟨error, rfl, h.1⟩
  | ok items => exact .inr ⟨items, rfl, h⟩

private theorem readyPods_listed {name : ResourceName} (hname : cluster.nameAny = name.value)
    (h : InstanceIsOwn cluster content) :
    readyPods (content.pods.filter
        (fun pod => matchesSelector (instanceSelector cluster) pod.metadata)) =
      ownReadyPods cluster content := by
  rw [readyPods, ownReadyPods, readyPods, List.filter_filter, List.filter_filter]
  refine List.filter_congr fun pod hpod => ?_
  cases hready : isReadyPod pod with
  | false => simp
  | true =>
    rw [Bool.true_and, Bool.and_true, Bool.eq_iff_iff, matchesSelector_instanceSelector hname,
      carriesLabels_podSelector]
    exact ⟨fun hinstance => ⟨h.pods pod hpod hready hinstance, hinstance⟩, fun hcarries =>
      hcarries.2⟩

private theorem runs_updateStatus_own {name : ResourceName} (hname : cluster.nameAny = name.value)
    (h : InstanceIsOwn cluster content) {tr : List ApiExchange} {res : Except OperatorError Unit}
    (hruns : Program.Runs (updateStatus cluster cluster.namespaceOrDefault) tr res)
    (hanswers : ∀ e ∈ tr, content.Answers e) :
    ∃ listed rest, tr = ⟨.list .pod cluster.namespaceOrDefault (instanceSelector cluster), listed⟩
        :: rest ∧
      ((∃ error, listed = .error error ∧ rest = []) ∨
        ∃ items, listed = .ok items ∧ readyPods items = ownReadyPods cluster content ∧
          Program.Runs (publish .streamlineCluster cluster cluster.namespaceOrDefault
            (fun clock cluster => observedStatus clock cluster cluster.namespaceOrDefault
              (Int32.ofNat (readyPods items).length))) rest res) := by
  obtain ⟨listed, rest, rfl, hcases⟩ := runs_updateStatus hruns
  refine ⟨listed, rest, rfl, ?_⟩
  rcases hcases with hfailed | ⟨items, rfl, hpublish⟩
  · exact .inl hfailed
  · have hanswer := hanswers _ List.mem_cons_self
    simp only [Namespace.Answers, reduceCtorEq, exists_false, Except.ok.injEq, false_or] at hanswer
    exact .inr ⟨items, rfl, by rw [hanswer, readyPods_listed hname h], hpublish⟩

private theorem published_of_runs {count : Nat} {tr : List ApiExchange}
    {res : Except OperatorError Unit}
    (h : Program.Runs (publish .streamlineCluster cluster cluster.namespaceOrDefault
      (fun clock cluster => observedStatus clock cluster cluster.namespaceOrDefault
        (Int32.ofNat count))) tr res) {kind : Kind} {ns podName : String} {body : Json}
    {r : (Request.patchStatus kind ns podName body).Response}
    (hmem : ⟨.patchStatus kind ns podName body, r⟩ ∈ tr) :
    ∃ clock, body = Crd.statusPatch (observedStatus clock cluster cluster.namespaceOrDefault
      (Int32.ofNat count)) := by
  have hbodies : Always (fun e : ApiExchange => ∀ kind ns podName body,
      e.request = .patchStatus kind ns podName body → ∃ clock, body = Crd.statusPatch
        (observedStatus clock cluster cluster.namespaceOrDefault (Int32.ofNat count)))
      (publish .streamlineCluster cluster cluster.namespaceOrDefault (fun clock cluster =>
        observedStatus clock cluster cluster.namespaceOrDefault (Int32.ofNat count))) := by
    refine always_publish (by simp) ?_
    intro clock r kind ns podName body heq
    obtain ⟨-, -, -, rfl⟩ := Request.patchStatus.inj heq
    exact ⟨clock, rfl⟩
  exact hbodies tr res h _ hmem kind ns podName body rfl

private theorem selectsOwn_of_instanceIsOwn {name : ResourceName}
    (hname : cluster.nameAny = name.value) (h : InstanceIsOwn cluster content) :
    SelectsOwn cluster content where
  claims tr res hruns hanswers ns pvcName r hmem pvc hpvc hpvcName := by
    obtain ⟨listed, tr', rfl, hdeleted⟩ := deleted_of_run hruns
    have hmem' : _ ∈ tr' := (List.mem_cons.mp hmem).resolve_left (by simp)
    obtain ⟨items, rfl, p, hp, hpName⟩ := hdeleted _ hmem' ns pvcName rfl
    have hlist := hanswers _ List.mem_cons_self
    simp only [Namespace.Answers, reduceCtorEq, exists_false, Except.ok.injEq, false_or] at hlist
    rw [hlist, List.mem_filter] at hp
    obtain rfl := eq_of_name_eq content.claimNames hpvc hp.1 hpvcName hpName
    have hinstance := (matchesSelector_instanceSelector hname _).mp hp.2
    exact carriesLabels_podSelector.mpr
      ⟨h.claims pvc hpvc (by simp [hpvcName]) hinstance, hinstance⟩
  pods tr res hruns hanswers ns selector items hmem := by
    obtain ⟨listed, rest, rfl, ⟨error, rfl, rfl⟩ | ⟨found, rfl, hown, hpublish⟩⟩ :=
      runs_updateStatus_own hname h hruns hanswers
    · simp at hmem
    · have hlists : Always (fun e : ApiExchange => e.request ≠ .list .pod ns selector)
          (publish .streamlineCluster cluster cluster.namespaceOrDefault (fun clock cluster =>
            observedStatus clock cluster cluster.namespaceOrDefault
              (Int32.ofNat (readyPods found).length))) := always_publish (by simp) (by simp)
      have hfirst := (List.mem_cons.mp hmem).resolve_right
        fun hmem => hlists rest res hpublish _ hmem rfl
      obtain rfl : items = found := by simpa using (Exchange.mk.inj hfirst).2
      refine ⟨⟨_, rest, rfl, hpublish⟩, fun pod hpod => ?_⟩
      rw [hown] at hpod
      exact (List.mem_filter.mp hpod).2
  published tr res hruns hanswers kind ns podName body r hmem := by
    obtain ⟨listed, rest, rfl, ⟨error, rfl, rfl⟩ | ⟨found, rfl, hown, hpublish⟩⟩ :=
      runs_updateStatus_own hname h hruns hanswers
    · simp at hmem
    · rw [hown] at hpublish
      exact published_of_runs hpublish ((List.mem_cons.mp hmem).resolve_left (by simp))

private theorem isStreamline_of_claims (name : ResourceName) (hname : cluster.nameAny = name.value)
    (h : SelectsOwn cluster content) {pvc : PersistentVolumeClaim} (hpvc : pvc ∈ content.claims)
    (hpvcName : pvc.metadata.name.isSome = true) (hinstance : hasInstance cluster pvc.metadata) :
    isStreamline pvc.metadata := by
  obtain ⟨pvcName, hpvcName⟩ := Option.isSome_iff_exists.mp hpvcName
  have hlisted : pvc ∈ content.claims.filter
      (fun pvc => matchesSelector (instanceSelector cluster) pvc.metadata) :=
    List.mem_filter.mpr ⟨hpvc, (matchesSelector_instanceSelector hname _).mpr hinstance⟩
  have hdelete := deleteClaim_mem content.server cluster.namespaceOrDefault hlisted hpvcName
  have hmem : ⟨.delete .persistentVolumeClaim cluster.namespaceOrDefault pvcName,
      content.server (.delete .persistentVolumeClaim cluster.namespaceOrDefault pvcName)⟩ ∈
      ((handleDeletion cluster cluster.namespaceOrDefault).answer content.server).1 := by
    simp only [handleDeletion, send, Program.bind_eq, Program.send_bind]
    exact List.mem_cons_of_mem _
      (Program.mem_answer_bind_right rfl (Program.mem_answer_bind_left hdelete))
  have hcarries := h.claims _ _ (Program.runs_answer content.server _)
    (fun e he => answers_of_mem_answer he) _ _ _ hmem pvc hpvc hpvcName
  exact (carriesLabels_podSelector.mp hcarries).1

private theorem isStreamline_of_pods {name : ResourceName} (hname : cluster.nameAny = name.value)
    (h : SelectsOwn cluster content) {pod : Pod} (hpod : pod ∈ content.pods)
    (hready : isReadyPod pod = true) (hinstance : hasInstance cluster pod.metadata) :
    isStreamline pod.metadata := by
  have hlisted : pod ∈ content.pods.filter
      (fun pod => matchesSelector (instanceSelector cluster) pod.metadata) :=
    List.mem_filter.mpr ⟨hpod, (matchesSelector_instanceSelector hname _).mpr hinstance⟩
  have hcarries := h.pods _ _ (Program.runs_answer content.server _)
    (fun e he => answers_of_mem_answer he) cluster.namespaceOrDefault (instanceSelector cluster)
    _ List.mem_cons_self
  exact (carriesLabels_podSelector.mp
    (hcarries.2 pod (List.mem_filter.mpr ⟨hlisted, hready⟩))).1

/-- The two queries select the cluster's own objects exactly when no other
application of the namespace shares its instance label. -/
theorem queries_select_own_iff (cluster : StreamlineCluster) (name : ResourceName)
    (hname : cluster.nameAny = name.value) (content : Namespace) :
    SelectsOwn cluster content ↔ InstanceIsOwn cluster content :=
  ⟨fun h => ⟨fun _ => isStreamline_of_claims name hname h, fun _ => isStreamline_of_pods hname h⟩,
    selectsOwn_of_instanceIsOwn hname⟩

def labelled (name application release : String) : ObjectMeta where
  name := some name
  labels := some (((∅ : StringMap).insert "app.kubernetes.io/name" application).insert
    "app.kubernetes.io/instance" release)

def readyPod (name application release : String) : Pod where
  metadata := labelled name application release
  status := some { conditions := some [{ type := "Ready", status := "True" }] }

/-- A namespace in which the release `events` has a Streamline cluster only. -/
def ownNamespace : Namespace where
  claims := [{ metadata := labelled "data-events-0" "streamline" "events" },
    { metadata := labelled "data-orders-0" "postgresql" "orders" }]
  pods := [readyPod "events-0" "streamline" "events", readyPod "orders-0" "postgresql" "orders"]
  claimNames := by decide

theorem queries_select_own_iff_ownNamespace : SelectsOwn (freshCluster "events") ownNamespace :=
  (queries_select_own_iff (freshCluster "events") ⟨"events", by decide⟩ rfl ownNamespace).mpr
    ⟨by decide, by decide⟩

/-- A namespace in which the release `events` has a database as well. -/
def sharedNamespace : Namespace where
  claims := [{ metadata := labelled "data-events-0" "streamline" "events" },
    { metadata := labelled "data-events-postgresql-0" "postgresql" "events" }]
  pods := []
  claimNames := by decide

/-- Deleting the cluster deletes the database's claim. -/
theorem queries_select_foreign : ¬ SelectsOwn (freshCluster "events") sharedNamespace := by
  intro h
  have hclaim : { metadata := labelled "data-events-postgresql-0" "postgresql" "events" } ∈
      sharedNamespace.claims := by simp [sharedNamespace]
  have hforeign := isStreamline_of_claims ⟨"events", by decide⟩ rfl h hclaim rfl (by decide)
  revert hforeign
  decide

/-! Names of the child objects. -/

/-- The kinds of child object a cluster owns by name. -/
def ownedKinds : List Kind := [.configMap, .service, .statefulSet, .horizontalPodAutoscaler]

/-- What the reconciles of the cluster of this name may write or delete, over
every spec, status and metadata and every run. -/
def targets (namespaceName name : String) : Set (Kind × String) :=
  {target | target.1 ∈ ownedKinds ∧ ∃ (cluster : StreamlineCluster) (tr : List ApiExchange)
    (res : Except OperatorError Action), cluster.nameAny = name ∧
      cluster.namespaceOrDefault = namespaceName ∧ Program.Runs (reconcile cluster) tr res ∧
      ∃ e ∈ tr, e.request.writtenObject = some target ∨ e.request.deletedObject = some target}

/-- The child objects of a cluster. -/
def childObjects (name : String) : List (Kind × String) :=
  [(.configMap, name ++ "-config"), (.service, name ++ "-headless"), (.service, name),
    (.statefulSet, name), (.horizontalPodAutoscaler, name ++ "-hpa")]

/-- The exchange touches no owned kind but the cluster's own children. -/
def TouchesOwn (name : String) (e : ApiExchange) : Prop :=
  ∀ target : Kind × String, target.1 ∈ ownedKinds →
    e.request.writtenObject = some target ∨ e.request.deletedObject = some target →
    target ∈ childObjects name

private theorem touchesOwn_of_kind {name : String} {e : ApiExchange}
    (hwritten : ∀ target, e.request.writtenObject = some target → target.1 ∉ ownedKinds)
    (hdeleted : ∀ target, e.request.deletedObject = some target → target.1 ∉ ownedKinds) :
    TouchesOwn name e := by
  rintro target hkind (h | h)
  · exact absurd hkind (hwritten target h)
  · exact absurd hkind (hdeleted target h)

private theorem touchesOwn_of_quiet {name : String} {e : ApiExchange}
    (hwritten : e.request.writtenObject = none) (hdeleted : e.request.deletedObject = none) :
    TouchesOwn name e :=
  touchesOwn_of_kind (by simp [hwritten]) (by simp [hdeleted])

private theorem touchesOwn_getThenWrite {kind : Kind} {namespaceName name : String}
    {object : kind.Object} (hname : kind.objectName object = name)
    (hchild : (kind, name) ∈ childObjects cluster.nameAny) :
    Always (TouchesOwn cluster.nameAny) (getThenWrite kind namespaceName name object) := by
  apply always_getThenWrite
  · intro r
    exact touchesOwn_of_quiet rfl rfl
  · rintro r target - (h | h)
    · exact Option.some.inj h ▸ hchild
    · simp [Request.deletedObject] at h
  · rintro r target - (h | h)
    · rw [Request.writtenObject, hname] at h
      exact Option.some.inj h ▸ hchild
    · simp [Request.deletedObject] at h

private theorem touchesOwn_handleDeletion {namespaceName name : String} :
    Always (TouchesOwn name) (handleDeletion cluster namespaceName) := by
  apply always_handleDeletion
  · exact fun _ => touchesOwn_of_quiet rfl rfl
  · exact fun _ _ => touchesOwn_of_kind (by simp [Request.writtenObject])
      (by simp [Request.deletedObject, ownedKinds])
  · exact fun _ => touchesOwn_of_kind (by simp [Request.writtenObject, ownedKinds])
      (by simp [Request.deletedObject])

private theorem touchesOwn_afterCleanup {namespaceName : String} :
    Always (TouchesOwn cluster.nameAny) (afterCleanup cluster namespaceName) := by
  apply afterCleanup_always
  · exact fun clock => touchesOwn_of_quiet rfl rfl
  · exact fun event => touchesOwn_of_quiet rfl rfl
  · exact fun r => touchesOwn_of_quiet rfl rfl
  · exact fun body r => touchesOwn_of_kind (by simp [Request.writtenObject, ownedKinds])
      (by simp [Request.deletedObject])
  · exact fun _ => ⟨touchesOwn_getThenWrite rfl (by simp [childObjects]),
      touchesOwn_getThenWrite rfl (by simp [childObjects]),
      touchesOwn_getThenWrite rfl (by simp [childObjects]),
      touchesOwn_getThenWrite rfl (by simp [childObjects])⟩

private theorem reconcile_touchesOwn (cluster : StreamlineCluster) :
    Always (TouchesOwn cluster.nameAny) (reconcile cluster) := by
  have hmetric : Always (TouchesOwn cluster.nameAny) (sendMetric (.incReconcile "cluster")) :=
    always_sendMetric (touchesOwn_of_quiet rfl rfl)
  cases hlive : cluster.metadata.deletionTimestamp with
  | some time =>
    simp only [reconcile, hlive, Option.isSome_some, if_true]
    exact Program.always_bind hmetric fun _ => touchesOwn_handleDeletion
  | none =>
    rw [reconcile_live_eq hlive]
    apply Program.always_bind hmetric
    intro _
    refine Program.always_bind (always_ensureFinalizer fun r => ?_) fun _ => ?_
    · exact touchesOwn_of_kind (by simp [Request.writtenObject, ownedKinds])
        (by simp [Request.deletedObject])
    refine Program.always_bind ?_ fun _ => touchesOwn_afterCleanup
    intro tr res hruns
    obtain ⟨r, rfl, -⟩ := AutoScalingController.runs_deleteHpa hruns
    rw [List.forall_mem_singleton]
    rintro target - (h | h)
    · simp [Request.writtenObject] at h
    · rw [← Option.some.inj h]
      simp [childObjects, AutoScalingController.hpaName]

private theorem answer_getThenWrite {kind : Kind} {namespaceName name : String}
    {object : kind.Object} :
    (getThenWrite kind namespaceName name object).answer emptyServer =
      ([⟨.get kind namespaceName name, .error ⟨some 404, "not found"⟩⟩,
        ⟨.create kind namespaceName object, .ok ()⟩], .ok ()) :=
  rfl

theorem creates_of_accepted (hvalid : cluster.spec.validate = .ok ())
    {namespaceName : String} {e : ApiExchange}
    (h : e = ⟨.create .configMap namespaceName (buildConfigmap cluster namespaceName), .ok ()⟩ ∨
      e = ⟨.create .service namespaceName (headlessService cluster namespaceName), .ok ()⟩ ∨
      e = ⟨.create .service namespaceName (clientService cluster namespaceName), .ok ()⟩ ∨
      e = ⟨.create .statefulSet namespaceName (buildStatefulset cluster namespaceName), .ok ()⟩) :
    e ∈ ((afterCleanup cluster namespaceName).answer emptyServer).1 := by
  have heq := renderSpec_eq cluster namespaceName
  rw [hvalid] at heq
  simp only [afterCleanup, hvalid, heq]
  rcases h with rfl | rfl | rfl | rfl
  · exact Program.mem_answer_bind_left
      (by simp only [reconcileConfigmap, answer_getThenWrite, List.mem_cons, true_or, or_true])
  · refine Program.mem_answer_bind_right rfl (Program.mem_answer_bind_left ?_)
    simp only [reconcileHeadlessService, answer_getThenWrite, List.mem_cons, true_or, or_true]
  · refine Program.mem_answer_bind_right rfl (Program.mem_answer_bind_right rfl
      (Program.mem_answer_bind_left ?_))
    simp only [reconcileClientService, answer_getThenWrite, List.mem_cons, true_or, or_true]
  · refine Program.mem_answer_bind_right rfl (Program.mem_answer_bind_right rfl
      (Program.mem_answer_bind_right rfl (Program.mem_answer_bind_left ?_)))
    simp only [reconcileStatefulset, answer_getThenWrite, List.mem_cons, true_or, or_true]

private theorem childObjects_touched (namespaceName name : String) {target : Kind × String}
    (h : target ∈ childObjects name) : target ∈ targets namespaceName name := by
  let cluster : StreamlineCluster :=
    { metadata := { name := some name, namespaceName := some namespaceName }, spec := {},
      status := none }
  have hvalid : cluster.spec.validate = .ok () := by
    change ({} : Crd.ClusterSpec).validate = .ok ()
    decide
  have hruns := Program.runs_answer emptyServer (reconcile cluster)
  have hlive : reconcile cluster = _ := reconcile_live_eq rfl
  -- Every stage before the writes returns.
  have hwritten : ∀ e, e ∈ ((afterCleanup cluster namespaceName).answer emptyServer).1 →
      e ∈ ((reconcile cluster).answer emptyServer).1 := by
    intro e he
    rw [hlive]
    exact Program.mem_answer_bind_right rfl
      (Program.mem_answer_bind_right rfl (Program.mem_answer_bind_right rfl he))
  have hdeleted : ⟨.delete .horizontalPodAutoscaler namespaceName
      (AutoScalingController.hpaName cluster), .error ⟨some 404, "not found"⟩⟩ ∈
      ((reconcile cluster).answer emptyServer).1 := by
    rw [hlive]
    exact Program.mem_answer_bind_right rfl (Program.mem_answer_bind_right rfl
      (Program.mem_answer_bind_left List.mem_cons_self))
  have htarget : ∀ e ∈ ((reconcile cluster).answer emptyServer).1,
      e.request.writtenObject = some target ∨ e.request.deletedObject = some target →
      target.1 ∈ ownedKinds → target ∈ targets namespaceName name := fun e he ht hkind =>
    ⟨hkind, cluster, _, _, rfl, rfl, hruns, e, he, ht⟩
  simp only [childObjects, List.mem_cons, List.not_mem_nil, or_false] at h
  rcases h with rfl | rfl | rfl | rfl | rfl
  · exact htarget _ (hwritten _ (creates_of_accepted hvalid (.inl rfl))) (.inl rfl)
      (by simp [ownedKinds])
  · exact htarget _ (hwritten _ (creates_of_accepted hvalid (.inr (.inl rfl)))) (.inl rfl)
      (by simp [ownedKinds])
  · exact htarget _ (hwritten _ (creates_of_accepted hvalid (.inr (.inr (.inl rfl))))) (.inl rfl)
      (by simp [ownedKinds])
  · exact htarget _ (hwritten _ (creates_of_accepted hvalid (.inr (.inr (.inr rfl))))) (.inl rfl)
      (by simp [ownedKinds])
  · exact htarget _ hdeleted (.inr rfl) (by simp [ownedKinds])

theorem mem_targets_iff {namespaceName name : String} {target : Kind × String} :
    target ∈ targets namespaceName name ↔ target ∈ childObjects name := by
  constructor
  · rintro ⟨hkind, cluster, tr, res, rfl, -, hruns, e, he, htouched⟩
    exact reconcile_touchesOwn cluster tr res hruns e he target hkind htouched
  · exact childObjects_touched namespaceName name

/-- Two clusters share an object exactly when one is named like the headless
Service of the other. -/
theorem targets_disjoint_iff (namespaceName : String) (a b : ResourceName) (hne : a ≠ b) :
    Disjoint (targets namespaceName a.value) (targets namespaceName b.value) ↔
      a.value ≠ b.value ++ "-headless" ∧ b.value ≠ a.value ++ "-headless" := by
  have hvalue : a.value ≠ b.value := fun h => hne (ResourceName.ext h)
  rw [Set.disjoint_left]
  simp only [mem_targets_iff]
  constructor
  · intro h
    constructor
    · intro heq
      exact h (a := (.service, a.value)) (by simp [childObjects]) (by simp [childObjects, heq])
    · intro heq
      exact h (a := (.service, b.value)) (by simp [childObjects, heq]) (by simp [childObjects])
  · rintro ⟨hab, hba⟩ target ha hb
    simp only [childObjects, List.mem_cons, List.not_mem_nil, or_false] at ha hb
    rcases ha with rfl | rfl | rfl | rfl | rfl <;>
      simp [hvalue, hab, Ne.symm hba] at hb

theorem targets_disjoint_iff_orders_events :
    Disjoint (targets "streamline" "orders") (targets "streamline" "events") :=
  (targets_disjoint_iff "streamline" ⟨"orders", by decide⟩ ⟨"events", by decide⟩
    (by decide)).mpr (by decide)

/-- The clusters `orders` and `orders-headless` both own the Service
`orders-headless`. -/
theorem targets_shared : ¬ ∀ (namespaceName : String) (a b : ResourceName), a ≠ b →
    Disjoint (targets namespaceName a.value) (targets namespaceName b.value) := by
  intro h
  have hdisjoint := h "streamline" ⟨"orders", by decide⟩ ⟨"orders-headless", by decide⟩ (by decide)
  rw [Set.disjoint_left] at hdisjoint
  exact hdisjoint (a := (.service, "orders-headless"))
    (mem_targets_iff.mpr (by decide)) (mem_targets_iff.mpr (by decide))

end ClusterController

end StreamlineOperator.Controllers
