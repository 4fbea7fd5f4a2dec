/- source: src/deploy/rbac/role.yaml, src/overlays/cloud/, src/src/controllers/mod.rs (WatchScope)
   digest: The accesses of every call the operator makes, and the roles it is installed with. -/

import StreamlineOperator.Controllers.FirstWrite
import StreamlineOperator.Controllers.User
import StreamlineOperator.Kubernetes.Rbac
import StreamlineOperator.LeaderElection.Elector

set_option autoImplicit false
set_option relaxedAutoImplicit false

namespace StreamlineOperator.Controllers.Authorization

open Foundation
open Kubernetes
open Program (Always Runs)
open LeaderElection (LeaseRequest LeaseOp LeaseExchange)
open Crd (StreamlineCluster StreamlineTopic StreamlineUser)

/-! What a call asks for. -/

section Accesses

/-- The API group and the resource name of a kind. -/
def resource : Kind → String × String
  | .configMap => ("", "configmaps")
  | .service => ("", "services")
  | .statefulSet => ("apps", "statefulsets")
  | .horizontalPodAutoscaler => ("autoscaling", "horizontalpodautoscalers")
  | .scaledObject => ("keda.sh", "scaledobjects")
  | .persistentVolumeClaim => ("", "persistentvolumeclaims")
  | .pod => ("", "pods")
  | .streamlineCluster => ("streamline.io", "streamlineclusters")
  | .streamlineTopic => ("streamline.io", "streamlinetopics")
  | .streamlineUser => ("streamline.io", "streamlineusers")

def access (verb : String) (kind : Kind) : Access := ⟨(resource kind).1, (resource kind).2, verb⟩

def statusAccess (kind : Kind) : Access :=
  ⟨(resource kind).1, (resource kind).2 ++ "/status", "patch"⟩

def finalizersAccess (kind : Kind) : Access :=
  ⟨(resource kind).1, (resource kind).2 ++ "/finalizers", "update"⟩

/-- An owner reference that blocks the deletion of its owner asks for its finalizers. -/
def ownerAccesses (reference : OwnerReference) : List Access :=
  if reference.blockOwnerDeletion = some true then
    ([.streamlineCluster, .streamlineTopic, .streamlineUser].filter fun kind =>
      typeMeta kind = (reference.apiVersion, reference.kind)).map finalizersAccess
  else []

def objectMeta : (kind : Kind) → kind.Object → ObjectMeta
  | .configMap, object => object.metadata
  | .service, object => object.metadata
  | .statefulSet, object => object.metadata
  | .horizontalPodAutoscaler, object => object.metadata
  | .scaledObject, object => object.metadata
  | .persistentVolumeClaim, object => object.metadata
  | .pod, object => object.metadata
  | .streamlineCluster, object => object.metadata
  | .streamlineTopic, object => object.metadata
  | .streamlineUser, _ => {}

def objectAccesses (kind : Kind) (object : kind.Object) : List Access :=
  ((objectMeta kind object).ownerReferences.getD []).flatMap ownerAccesses

/-- A patch is one of an object that exists; calls to brokers are not the API server's. -/
def requestAccesses : Request → List Access
  | .get kind _ _ => [access "get" kind]
  | .list kind _ _ => [access "list" kind]
  | .create kind _ object => access "create" kind :: objectAccesses kind object
  | .apply kind _ _ object => access "patch" kind :: objectAccesses kind object
  | .applyJson kind _ _ _ _ => [access "patch" kind]
  | .mergePatch kind _ _ _ => [access "patch" kind]
  | .patchStatus kind _ _ _ => [statusAccess kind]
  | .delete kind _ _ => [access "delete" kind]
  | .httpPost .. | .httpGet _ | .httpDelete _ | .clock | .metric _ => []

/-- The namespace of a call to the API server. -/
def requestNamespace : Request → Option String
  | .get _ namespaceName _ => some namespaceName
  | .list _ namespaceName _ => some namespaceName
  | .create _ namespaceName _ => some namespaceName
  | .apply _ namespaceName _ _ => some namespaceName
  | .applyJson _ namespaceName _ _ _ => some namespaceName
  | .mergePatch _ namespaceName _ _ => some namespaceName
  | .patchStatus _ namespaceName _ _ => some namespaceName
  | .delete _ namespaceName _ => some namespaceName
  | .httpPost .. | .httpGet _ | .httpDelete _ | .clock | .metric _ => none

def leaseAccesses : LeaseRequest → List Access
  | .get => [⟨"coordination.k8s.io", "leases", "get"⟩]
  | .create _ => [⟨"coordination.k8s.io", "leases", "create"⟩]
  | .replace _ => [⟨"coordination.k8s.io", "leases", "update"⟩]
  | .clock => []

/-- The call stays in the namespace and asks for nothing but the given accesses. -/
def Asks (namespaceName : String) (given : List Access) (e : ApiExchange) : Prop :=
  requestAccesses e.request = [] ∨ requestNamespace e.request = some namespaceName ∧
    ∀ access ∈ requestAccesses e.request, access ∈ given

end Accesses

/-! What the controllers ask for. -/

def clusterAccesses : List Access := [
  access "patch" .streamlineCluster, statusAccess .streamlineCluster,
  finalizersAccess .streamlineCluster,
  access "get" .configMap, access "create" .configMap, access "patch" .configMap,
  access "get" .service, access "create" .service, access "patch" .service,
  access "get" .statefulSet, access "create" .statefulSet, access "patch" .statefulSet,
  access "list" .pod, access "list" .persistentVolumeClaim,
  access "delete" .persistentVolumeClaim, access "delete" .horizontalPodAutoscaler]

def topicAccesses : List Access := [
  access "get" .streamlineCluster, access "patch" .streamlineTopic,
  statusAccess .streamlineTopic]

def userAccesses : List Access := [access "patch" .streamlineUser, statusAccess .streamlineUser]

section Asks

variable {namespaceName : String} {given : List Access}

theorem asks_of_none {e : ApiExchange} (h : requestAccesses e.request = []) :
    Asks namespaceName given e := .inl h

theorem asks_of_single {e : ApiExchange} {access : Access}
    (hspace : requestNamespace e.request = some namespaceName)
    (h : requestAccesses e.request = [access]) (hgiven : access ∈ given) :
    Asks namespaceName given e := by
  refine .inr ⟨hspace, ?_⟩
  rw [h, List.forall_mem_singleton]
  exact hgiven

theorem asks_getThenWrite {kind : Kind} {name : String} {object : kind.Object}
    (hget : access "get" kind ∈ given) (hcreate : access "create" kind ∈ given)
    (hpatch : access "patch" kind ∈ given)
    (howner : ∀ access ∈ objectAccesses kind object, access ∈ given) :
    Always (Asks namespaceName given) (getThenWrite kind namespaceName name object) := by
  apply always_getThenWrite
  · exact fun _ => asks_of_single rfl rfl hget
  · exact fun _ => .inr ⟨rfl, List.forall_mem_cons.mpr ⟨hpatch, howner⟩⟩
  · exact fun _ => .inr ⟨rfl, List.forall_mem_cons.mpr ⟨hcreate, howner⟩⟩

theorem objectAccesses_child {cluster : StreamlineCluster} {kind : Kind} {object : kind.Object}
    (h : (objectMeta kind object).ownerReferences =
      some [ClusterController.ownerReference cluster]) :
    objectAccesses kind object = [finalizersAccess .streamlineCluster] := by
  rw [objectAccesses, h]
  rfl

end Asks

/-! Every run of a reconcile. -/

section Reconciles

variable {namespaceName : String}

theorem asks_sendMetric {event : MetricEvent} {given : List Access} :
    Always (Asks namespaceName given) (sendMetric event) :=
  always_sendMetric (asks_of_none rfl)

theorem asks_publish {S R : Type} [PublishedStatus S] [DecidableEq S] {kind : Kind}
    {object : Crd.CustomResource R S} {given : List Access}
    {build : Conditions.Clock → Crd.CustomResource R S → S} (h : statusAccess kind ∈ given) :
    Always (Asks namespaceName given) (publish kind object namespaceName build) :=
  always_publish (fun _ => asks_of_none rfl) (fun _ _ => asks_of_single rfl rfl h)

theorem cluster_asks (cluster : StreamlineCluster) :
    Always (Asks cluster.namespaceOrDefault clusterAccesses)
      (ClusterController.reconcile cluster) := by
  have hchild : ∀ {kind : Kind} {name : String} {object : kind.Object},
      access "get" kind ∈ clusterAccesses → access "create" kind ∈ clusterAccesses →
      access "patch" kind ∈ clusterAccesses →
      (objectMeta kind object).ownerReferences =
        some [ClusterController.ownerReference cluster] →
      Always (Asks cluster.namespaceOrDefault clusterAccesses)
        (getThenWrite kind cluster.namespaceOrDefault name object) := by
    intro kind name object hget hcreate hpatch howner
    refine asks_getThenWrite hget hcreate hpatch ?_
    rw [objectAccesses_child howner, List.forall_mem_singleton]
    decide
  refine Program.always_bind asks_sendMetric fun _ => ?_
  split
  · apply ClusterController.always_handleDeletion
    · exact fun _ => asks_of_single rfl rfl (by decide)
    · exact fun _ _ => asks_of_single rfl rfl (by decide)
    · exact fun _ => asks_of_single rfl rfl (by decide)
  · rw [ClusterController.reconcileLive_eq]
    refine Program.always_bind
      (always_ensureFinalizer fun _ => asks_of_single rfl rfl (by decide)) fun _ => ?_
    refine Program.always_bind ?_ fun _ => ?_
    · intro tr res hruns
      obtain ⟨r, rfl, -⟩ := AutoScalingController.runs_deleteHpa hruns
      rw [List.forall_mem_singleton]
      exact asks_of_single rfl rfl (by decide)
    · apply ClusterController.afterCleanup_always
      · exact fun _ => asks_of_none rfl
      · exact fun _ => asks_of_none rfl
      · exact fun _ => asks_of_single rfl rfl (by decide)
      · exact fun _ _ => asks_of_single rfl rfl (by decide)
      · intro _
        refine ⟨?_, ?_, ?_, ?_⟩
        · exact hchild (by decide) (by decide) (by decide) rfl
        · exact hchild (by decide) (by decide) (by decide) rfl
        · exact hchild (by decide) (by decide) (by decide) rfl
        · exact hchild (by decide) (by decide) (by decide) rfl

theorem topic_creation_asks (topic : StreamlineTopic) (cluster : StreamlineCluster) :
    Always (Asks namespaceName topicAccesses)
      (TopicController.createOrUpdateTopic topic cluster) := by
  refine Program.always_send_bind (fun _ => asks_of_none rfl) fun answer => ?_
  cases answer with
  | error e => exact Program.always_err _
  | ok response =>
    dsimp only
    unfold TopicController.createdTopicState
    split
    · exact Program.always_err _
    · dsimp only
      split
      · refine Program.always_send_bind (fun _ => asks_of_none rfl) fun read => ?_
        cases read <;> exact Program.always_ok _
      · exact Program.always_ok _

theorem topic_applySpec_asks (topic : StreamlineTopic) :
    Always (Asks namespaceName topicAccesses) (TopicController.applySpec topic namespaceName) := by
  have hpublish : ∀ {build}, Always (Asks namespaceName topicAccesses)
      (publish .streamlineTopic topic namespaceName build) := asks_publish (by decide)
  refine Program.always_send_bind (fun _ => asks_of_single rfl rfl (by decide)) fun found => ?_
  cases found with
  | error e => exact Program.always_then hpublish
  | ok cluster =>
    dsimp only
    split
    · refine Program.always_bind (Program.always_attempt (topic_creation_asks topic cluster))
        fun outcome => ?_
      cases outcome with
      | error e => exact Program.always_then hpublish
      | ok state =>
        refine Program.always_bind ?_ fun _ => Program.always_then asks_sendMetric
        unfold TopicController.updateStatusFromServer
        split <;> exact hpublish
    · exact Program.always_then hpublish

theorem topic_asks (topic : StreamlineTopic) :
    Always (Asks topic.namespaceOrDefault topicAccesses) (TopicController.reconcile topic) := by
  refine Program.always_bind asks_sendMetric fun _ => ?_
  split
  · intro tr res hruns
    have hget : ∀ r, Asks topic.namespaceOrDefault topicAccesses
        ⟨.get .streamlineCluster topic.namespaceOrDefault topic.spec.clusterRef, r⟩ :=
      fun _ => asks_of_single rfl rfl (by decide)
    have hpatch : ∀ body r, Asks topic.namespaceOrDefault topicAccesses
        ⟨.mergePatch .streamlineTopic topic.namespaceOrDefault topic.nameAny body, r⟩ :=
      fun _ _ => asks_of_single rfl rfl (by decide)
    obtain ⟨patched, -, ⟨cluster, deleted, rfl⟩ | ⟨e, rfl⟩⟩ :=
      TopicController.runs_handleDeletion hruns
    · simp only [List.forall_mem_cons]
      exact ⟨hget _, asks_of_none rfl, hpatch _ _, by simp⟩
    · simp only [List.forall_mem_cons]
      exact ⟨hget _, hpatch _ _, by simp⟩
  · refine Program.always_bind
      (always_ensureFinalizer fun _ => asks_of_single rfl rfl (by decide)) fun _ => ?_
    dsimp only
    split
    · refine Program.always_bind (asks_publish (by decide)) fun _ => ?_
      exact Program.always_then asks_sendMetric
    · exact topic_applySpec_asks topic

theorem user_asks {Spec : Type} (user : StreamlineUser Spec) :
    Always (Asks user.namespaceOrDefault userAccesses) (UserController.reconcile user) := by
  refine Program.always_bind asks_sendMetric fun _ => ?_
  refine Program.always_bind ?_ fun _ => ?_
  · unfold UserController.removeFinalizerIfPresent
    split
    · exact Program.always_ok ()
    · exact always_removeFinalizer fun _ => asks_of_single rfl rfl (by decide)
  · split
    · exact Program.always_ok _
    · refine Program.always_bind (asks_publish (by decide)) fun _ => ?_
      exact Program.always_then asks_sendMetric

end Reconciles

/-! Where the controllers watch, and where the Lease lives. -/

/-- `str::trim`. -/
def trim (s : String) : String :=
  .ofList (((s.toList.dropWhile isWhiteSpace).reverse.dropWhile isWhiteSpace).reverse)

inductive WatchScope where
  | allNamespaces
  | named (name : String)
  deriving DecidableEq, Repr

namespace WatchScope

/-- An empty or blank flag means every namespace. -/
def fromFlag (flag : String) : WatchScope :=
  let trimmed := trim flag
  if trimmed.isEmpty then .allNamespaces else .named trimmed

/-- The namespace being watched, if it is one. -/
def namespaceName : WatchScope → Option String
  | allNamespaces => none
  | named name => some name

/-- The watch delivers the objects of this namespace. -/
def delivers (self : WatchScope) (objectNamespace : String) : Bool :=
  self.namespaceName.all (fun name => name = objectNamespace)

end WatchScope

/-- The kinds that have a controller. -/
def watchedKinds : List Kind := [.streamlineCluster, .streamlineTopic, .streamlineUser]

/-- `detect_namespace`: the flag, else the service account's file, else `default`. -/
def detectNamespace (explicit : String) (serviceAccountFile : Option String) : String :=
  if !explicit.isEmpty then explicit else (serviceAccountFile.map trim).getD "default"

/-- An installed operator: its bound roles, where it runs, and its flags. -/
structure Installation where
  roles : List BoundRole
  namespaceName : String
  namespaceFlag : String
  leaseNamespaceFlag : String

namespace Installation

def scope (self : Installation) : WatchScope := .fromFlag self.namespaceFlag

def leaseNamespace (self : Installation) : String :=
  detectNamespace self.leaseNamespaceFlag (some self.namespaceName)

end Installation

/-- The rules on everything but the Lease, which both roles have. -/
def reconcileRules : List PolicyRule := [
  ⟨["streamline.io"], ["streamlineclusters", "streamlinetopics", "streamlineusers"],
    ["get", "list", "watch", "patch"]⟩,
  ⟨["streamline.io"],
    ["streamlineclusters/status", "streamlinetopics/status", "streamlineusers/status"],
    ["patch"]⟩,
  ⟨["streamline.io"],
    ["streamlineclusters/finalizers", "streamlinetopics/finalizers",
      "streamlineusers/finalizers"], ["update"]⟩,
  ⟨["apps"], ["statefulsets"], ["get", "list", "watch", "create", "update", "patch"]⟩,
  ⟨[""], ["services"], ["get", "list", "watch", "create", "update", "patch"]⟩,
  ⟨[""], ["configmaps"], ["get", "list", "watch", "create", "update", "patch"]⟩,
  ⟨[""], ["persistentvolumeclaims"], ["get", "list", "watch", "delete"]⟩,
  ⟨[""], ["pods"], ["get", "list", "watch"]⟩,
  ⟨[""], ["events"], ["create", "patch"]⟩,
  ⟨["autoscaling"], ["horizontalpodautoscalers"],
    ["get", "list", "watch", "create", "update", "patch", "delete"]⟩]

def leaseRules : List PolicyRule := [
  ⟨["coordination.k8s.io"], ["leases"],
    ["get", "list", "watch", "create", "update", "patch", "delete"]⟩]

/-- The namespace the manifests install the operator in. -/
def systemNamespace : String := "streamline-system"

/-- `deploy/`: one namespaced role. Its Deployment passes the operator's own namespace. -/
def namespacedInstallation (namespaceFlag leaseNamespaceFlag : String) : Installation where
  roles := [⟨some systemNamespace, reconcileRules ++ leaseRules⟩]
  namespaceName := systemNamespace
  namespaceFlag
  leaseNamespaceFlag

/-- `overlays/cloud/`: a cluster role for the reconciles, and a role for the Lease. Its
Deployment passes an empty namespace. -/
def cloudInstallation (namespaceFlag leaseNamespaceFlag : String) : Installation where
  roles := [⟨none, reconcileRules⟩, ⟨some systemNamespace, leaseRules⟩]
  namespaceName := systemNamespace
  namespaceFlag
  leaseNamespaceFlag

/-- Whatever the call asks for is granted. -/
def Authorized (roles : List BoundRole) (e : ApiExchange) : Prop :=
  ∀ access ∈ requestAccesses e.request,
    authorizes roles (requestNamespace e.request) access = true

def LeaseAuthorized (roles : List BoundRole) (namespaceName : String) (e : LeaseExchange) : Prop :=
  ∀ access ∈ leaseAccesses e.request, authorizes roles (some namespaceName) access = true

/-- Every call of the operator is granted: those of its watches, those of every reconcile
of an object that a watch delivers, and those on the Lease, whatever they are answered. -/
structure Suffices (installation : Installation) : Prop where
  watches : ∀ kind ∈ watchedKinds, ∀ verb ∈ ["list", "watch"],
    authorizes installation.roles installation.scope.namespaceName (access verb kind) = true
  clusters : ∀ cluster : StreamlineCluster,
    installation.scope.delivers cluster.namespaceOrDefault = true →
      Always (Authorized installation.roles) (ClusterController.reconcile cluster)
  topics : ∀ topic : StreamlineTopic,
    installation.scope.delivers topic.namespaceOrDefault = true →
      Always (Authorized installation.roles) (TopicController.reconcile topic)
  users : ∀ {Spec : Type} (user : StreamlineUser Spec),
    installation.scope.delivers user.namespaceOrDefault = true →
      Always (Authorized installation.roles) (UserController.reconcile user)
  lease : ∀ (identity : String) (op : LeaseOp),
    Always (LeaseAuthorized installation.roles installation.leaseNamespace) (op.program identity)

section Installed

variable {roles : List BoundRole} {namespaceName : String} {given : List Access}

/-- Everything the controllers ask for is among the rules of both installations. -/
theorem reconcileRules_allow : ∀ access ∈ clusterAccesses ++ topicAccesses ++ userAccesses,
    reconcileRules.any (fun rule => rule.allows access) = true := by
  decide

theorem watches_allowed : ∀ kind ∈ watchedKinds, ∀ verb ∈ ["list", "watch"],
    reconcileRules.any (fun rule => rule.allows (access verb kind)) = true := by
  decide

theorem leaseRules_allow : ∀ verb ∈ ["get", "create", "update"],
    leaseRules.any (fun rule => rule.allows ⟨"coordination.k8s.io", "leases", verb⟩) = true := by
  decide

theorem Asks.authorized {e : ApiExchange} (h : Asks namespaceName given e)
    (hgiven : ∀ access ∈ given, authorizes roles (some namespaceName) access = true) :
    Authorized roles e := by
  intro access haccess
  rcases h with hnone | ⟨hspace, hasks⟩
  · rw [hnone] at haccess
    cases haccess
  · rw [hspace]
    exact hgiven access (hasks access haccess)

/-- An installation whose roles allow the reconciles wherever it watches suffices. -/
theorem suffices_of_rules {installation : Installation}
    (hwatch : ∀ access : Access, reconcileRules.any (fun rule => rule.allows access) = true →
      authorizes installation.roles installation.scope.namespaceName access = true)
    (hreconcile : ∀ name, installation.scope.delivers name = true → ∀ access : Access,
      reconcileRules.any (fun rule => rule.allows access) = true →
      authorizes installation.roles (some name) access = true)
    (hlease : ∀ access : Access, leaseRules.any (fun rule => rule.allows access) = true →
      authorizes installation.roles (some installation.leaseNamespace) access = true) :
    Suffices installation where
  watches kind hkind verb hverb := hwatch _ (watches_allowed kind hkind verb hverb)
  clusters cluster hdelivers tr res hruns e he :=
    (cluster_asks cluster tr res hruns e he).authorized fun access haccess =>
      hreconcile _ hdelivers access (reconcileRules_allow access (by simp [haccess]))
  topics topic hdelivers tr res hruns e he :=
    (topic_asks topic tr res hruns e he).authorized fun access haccess =>
      hreconcile _ hdelivers access (reconcileRules_allow access (by simp [haccess]))
  users user hdelivers tr res hruns e he :=
    (user_asks user tr res hruns e he).authorized fun access haccess =>
      hreconcile _ hdelivers access (reconcileRules_allow access (by simp [haccess]))
  lease identity op tr res _ e _ access haccess := by
    apply hlease
    obtain ⟨request, response⟩ := e
    cases request with
    | clock => cases haccess
    | get =>
      obtain rfl := List.mem_singleton.mp haccess
      exact leaseRules_allow "get" (by decide)
    | create lease =>
      obtain rfl := List.mem_singleton.mp haccess
      exact leaseRules_allow "create" (by decide)
    | replace lease =>
      obtain rfl := List.mem_singleton.mp haccess
      exact leaseRules_allow "update" (by decide)

theorem Suffices.readsLease {installation : Installation} (h : Suffices installation) :
    authorizes installation.roles (some installation.leaseNamespace)
      ⟨"coordination.k8s.io", "leases", "get"⟩ = true := by
  let answers : (request : LeaseRequest) → request.Response :=
    fun request => (request.answer 0 .empty).1
  have hread : ⟨.get, answers .get⟩ ∈ ((LeaseOp.tryAcquire.program "").answer answers).1 :=
    List.mem_cons_of_mem _ List.mem_cons_self
  exact h.lease "" .tryAcquire _ _ (Program.runs_answer answers _) _ hread _
    (List.mem_singleton_self _)

theorem leaseNamespace_iff (roles : List BoundRole) (namespaceFlag leaseNamespaceFlag : String) :
    (Installation.mk roles systemNamespace namespaceFlag leaseNamespaceFlag).leaseNamespace =
        systemNamespace ↔
      leaseNamespaceFlag = "" ∨ leaseNamespaceFlag = systemNamespace := by
  have hfile : trim systemNamespace = systemNamespace := by decide
  unfold Installation.leaseNamespace detectNamespace
  by_cases hempty : leaseNamespaceFlag = ""
  · subst hempty
    simpa using hfile
  · have hgiven : leaseNamespaceFlag.isEmpty = false := by simpa using hempty
    simp [hgiven, hempty]

theorem scope_eq_system {installation : Installation} :
    installation.scope.namespaceName = some systemNamespace ↔
      trim installation.namespaceFlag = systemNamespace := by
  unfold Installation.scope WatchScope.fromFlag
  by_cases hempty : (trim installation.namespaceFlag).isEmpty = true
  · have hblank : trim installation.namespaceFlag = "" := by simpa using hempty
    simp [hblank, WatchScope.namespaceName, systemNamespace]
  · simp [hempty, WatchScope.namespaceName]

theorem delivers_iff {scope : WatchScope} {name own : String}
    (hscope : scope.namespaceName = some own) : scope.delivers name = true ↔ own = name := by
  simp [WatchScope.delivers, hscope]

theorem authorizes_namespaced {rules : List PolicyRule} {own : String}
    {namespaceName : Option String} {access : Access}
    (h : authorizes [⟨some own, rules⟩] namespaceName access = true) :
    namespaceName = some own := by
  simp only [authorizes, List.any_cons, List.any_nil, Bool.or_false, Bool.and_eq_true] at h
  simpa [BoundRole.covers] using h.1

theorem namespaced_suffices_iff (namespaceFlag leaseNamespaceFlag : String) :
    Suffices (namespacedInstallation namespaceFlag leaseNamespaceFlag) ↔
      trim namespaceFlag = systemNamespace ∧
        (leaseNamespaceFlag = "" ∨ leaseNamespaceFlag = systemNamespace) := by
  have hscope := @scope_eq_system (namespacedInstallation namespaceFlag leaseNamespaceFlag)
  have hlease := leaseNamespace_iff
    (namespacedInstallation namespaceFlag leaseNamespaceFlag).roles namespaceFlag
    leaseNamespaceFlag
  constructor
  · intro h
    have hlist := h.watches .streamlineCluster (by decide) "list" (by decide)
    exact ⟨hscope.mp (authorizes_namespaced hlist),
      hlease.mp (Option.some.inj (authorizes_namespaced h.readsLease))⟩
  · rintro ⟨hwatched, hkept⟩
    have hgrants : ∀ access : Access,
        (reconcileRules ++ leaseRules).any (fun rule => rule.allows access) = true →
        authorizes (namespacedInstallation namespaceFlag leaseNamespaceFlag).roles
          (some systemNamespace) access = true :=
      fun access hallows =>
        authorizes_of_mem (List.mem_singleton_self _) (covers_namespace _) hallows
    refine suffices_of_rules ?_ ?_ ?_
    · intro access hallows
      rw [hscope.mpr hwatched]
      exact hgrants access (by rw [List.any_append, hallows, Bool.true_or])
    · intro name hdelivers access hallows
      obtain rfl := (delivers_iff (hscope.mpr hwatched)).mp hdelivers
      exact hgrants access (by rw [List.any_append, hallows, Bool.true_or])
    · intro access hallows
      have hspace : (namespacedInstallation namespaceFlag leaseNamespaceFlag).leaseNamespace =
          systemNamespace := hlease.mpr hkept
      rw [hspace]
      exact hgrants access (by rw [List.any_append, hallows, Bool.or_true])

theorem reconcileRules_no_lease :
    reconcileRules.any
      (fun rule => rule.allows ⟨"coordination.k8s.io", "leases", "get"⟩) = false := by
  decide

theorem authorizes_beside {rules own : List PolicyRule} {name : String}
    {namespaceName : Option String} {access : Access}
    (hnot : rules.any (fun rule => rule.allows access) = false)
    (h : authorizes [⟨none, rules⟩, ⟨some name, own⟩] namespaceName access = true) :
    namespaceName = some name := by
  simp only [authorizes, List.any_cons, hnot, Bool.and_false, Bool.false_or] at h
  have hown : authorizes [⟨some name, own⟩] namespaceName access = true := h
  exact authorizes_namespaced hown

theorem cloud_suffices_iff (namespaceFlag leaseNamespaceFlag : String) :
    Suffices (cloudInstallation namespaceFlag leaseNamespaceFlag) ↔
      leaseNamespaceFlag = "" ∨ leaseNamespaceFlag = systemNamespace := by
  have hlease := leaseNamespace_iff (cloudInstallation namespaceFlag leaseNamespaceFlag).roles
    namespaceFlag leaseNamespaceFlag
  constructor
  · intro h
    exact hlease.mp (Option.some.inj (authorizes_beside reconcileRules_no_lease h.readsLease))
  · intro hkept
    have hgrants : ∀ (name : Option String) (access : Access),
        reconcileRules.any (fun rule => rule.allows access) = true →
        authorizes (cloudInstallation namespaceFlag leaseNamespaceFlag).roles name access = true :=
      fun name access hallows =>
        authorizes_of_mem List.mem_cons_self (covers_cluster _ name) hallows
    refine suffices_of_rules (fun access => hgrants _ access)
      (fun name _ access => hgrants _ access) ?_
    intro access hallows
    have hspace : (cloudInstallation namespaceFlag leaseNamespaceFlag).leaseNamespace =
        systemNamespace := hlease.mpr hkept
    rw [hspace]
    exact authorizes_of_mem (List.mem_cons_of_mem _ (List.mem_singleton_self _))
      (covers_namespace _) hallows

/-- With the roles of `deploy/` the operator works exactly where it watches the namespace
it is installed in and keeps its Lease there; with those of `overlays/cloud/`, wherever it
watches, if it keeps its Lease there. -/
theorem installation_suffices_iff (namespaceFlag leaseNamespaceFlag : String) :
    (Suffices (namespacedInstallation namespaceFlag leaseNamespaceFlag) ↔
      trim namespaceFlag = systemNamespace ∧
        (leaseNamespaceFlag = "" ∨ leaseNamespaceFlag = systemNamespace)) ∧
    (Suffices (cloudInstallation namespaceFlag leaseNamespaceFlag) ↔
      leaseNamespaceFlag = "" ∨ leaseNamespaceFlag = systemNamespace) :=
  ⟨namespaced_suffices_iff namespaceFlag leaseNamespaceFlag,
    cloud_suffices_iff namespaceFlag leaseNamespaceFlag⟩

end Installed

/-! Which accesses are used. -/

/-- Some run of the operation, on some object, asks for the access. -/
def AskedBy {α β : Type} (operation : α → Operation β) (access : Access) : Prop :=
  ∃ object tr res, Runs (operation object) tr res ∧
    ∃ e ∈ tr, access ∈ requestAccesses e.request

def LeaseAskedBy (access : Access) : Prop :=
  ∃ (identity : String) (op : LeaseOp), ∃ tr res, Runs (op.program identity) tr res ∧
    ∃ e ∈ tr, access ∈ leaseAccesses e.request

/-- Everything a trace asks for. -/
def asked (tr : List ApiExchange) : List Access :=
  tr.flatMap fun e => requestAccesses e.request

theorem askedBy_of_answer {α β : Type} {operation : α → Operation β} {access : Access}
    (server : (request : Request) → request.Response) (object : α)
    (h : access ∈ asked ((operation object).answer server).1) : AskedBy operation access :=
  ⟨object, _, _, Program.runs_answer server _, List.mem_flatMap.mp h⟩

theorem Asks.mem {namespaceName : String} {given : List Access} {e : ApiExchange}
    (h : Asks namespaceName given e) {access : Access}
    (haccess : access ∈ requestAccesses e.request) : access ∈ given := by
  rcases h with hnone | ⟨-, hasks⟩
  · rw [hnone] at haccess
    cases haccess
  · exact hasks access haccess

/-- A server that holds every child object, and a claim to delete. -/
def fullServer : (request : Request) → request.Response
  | .get .configMap _ _ => .ok {}
  | .get .service _ _ => .ok {}
  | .get .statefulSet _ _ => .ok {}
  | .list .persistentVolumeClaim _ _ => .ok [{ metadata := { name := some "data-events-0" } }]
  | request => emptyServer request

def deletedCluster : StreamlineCluster where
  metadata := { name := some "events", deletionTimestamp := some "2026-01-01T00:00:00Z" }
  spec := {}
  status := none

/-- A user that carries the finalizer of earlier versions. -/
def guardedUser : StreamlineUser Unit where
  metadata := { name := some "alice", finalizers := some [Conditions.userFinalizer] }
  spec := ()
  status := none

/-- A Lease that the elector holds. -/
def heldLease (identity : String) : (request : LeaseRequest) → request.Response
  | .get => .ok { spec := some { holderIdentity := some identity } }
  | .create _ => .ok ()
  | .replace _ => .ok ()
  | .clock => (0 : Int)

/-- A reconcile of each kind, and an elector, ask for exactly these accesses. -/
theorem accesses_exact (access : Access) :
    (AskedBy ClusterController.reconcile access ↔ access ∈ clusterAccesses) ∧
    (AskedBy TopicController.reconcile access ↔ access ∈ topicAccesses) ∧
    (AskedBy (@UserController.reconcile Unit) access ↔ access ∈ userAccesses) ∧
    (LeaseAskedBy access ↔ access ∈ ["get", "create", "update"].map
      (Access.mk "coordination.k8s.io" "leases")) := by
  refine ⟨⟨?_, fun h => ?_⟩, ⟨?_, fun h => ?_⟩, ⟨?_, fun h => ?_⟩, ?_, fun h => ?_⟩
  · rintro ⟨cluster, tr, res, hruns, e, he, haccess⟩
    exact (cluster_asks cluster tr res hruns e he).mem haccess
  · have hall : ∀ access ∈ clusterAccesses,
        access ∈ asked ((ClusterController.reconcile deletedCluster).answer fullServer).1 ∨
        access ∈ asked ((ClusterController.reconcile
          (ClusterController.freshCluster "events")).answer fullServer).1 ∨
        access ∈ asked ((ClusterController.reconcile
          (ClusterController.freshCluster "events")).answer emptyServer).1 := by
      decide
    rcases hall access h with hasked | hasked | hasked
    · exact askedBy_of_answer _ _ hasked
    · exact askedBy_of_answer _ _ hasked
    · exact askedBy_of_answer _ _ hasked
  · rintro ⟨topic, tr, res, hruns, e, he, haccess⟩
    exact (topic_asks topic tr res hruns e he).mem haccess
  · have hall : ∀ access ∈ topicAccesses,
        access ∈ asked ((TopicController.reconcile newTopic).answer emptyServer).1 := by
      decide
    exact askedBy_of_answer _ _ (hall access h)
  · rintro ⟨user, tr, res, hruns, e, he, haccess⟩
    exact (user_asks user tr res hruns e he).mem haccess
  · have hall : ∀ access ∈ userAccesses,
        access ∈ asked ((UserController.reconcile guardedUser).answer emptyServer).1 := by
      decide
    exact askedBy_of_answer _ _ (hall access h)
  · rintro ⟨identity, op, tr, res, -, ⟨request, response⟩, -, haccess⟩
    cases request with
    | clock => cases haccess
    | get => exact List.mem_cons.mpr (.inl (List.mem_singleton.mp haccess))
    | create lease =>
      obtain rfl := List.mem_singleton.mp haccess
      decide
    | replace lease =>
      obtain rfl := List.mem_singleton.mp haccess
      decide
  · have hall : ∀ access ∈ ["get", "create", "update"].map
        (Access.mk "coordination.k8s.io" "leases"),
        (∃ e ∈ ((LeaseOp.tryAcquire.program "a").answer
          fun request => (request.answer 0 .empty).1).1, access ∈ leaseAccesses e.request) ∨
        ∃ e ∈ ((LeaseOp.renew.program "a").answer (heldLease "a")).1,
          access ∈ leaseAccesses e.request := by
      decide
    rcases hall access h with hasked | hasked
    · exact ⟨"a", .tryAcquire, _, _, Program.runs_answer _ _, hasked⟩
    · exact ⟨"a", .renew, _, _, Program.runs_answer _ _, hasked⟩

/-- The rules on events are not among them. -/
example : reconcileRules.any (fun rule => rule.allows ⟨"", "events", "create"⟩) = true ∧
    ⟨"", "events", "create"⟩ ∉ clusterAccesses ++ topicAccesses ++ userAccesses := by
  decide

end StreamlineOperator.Controllers.Authorization
