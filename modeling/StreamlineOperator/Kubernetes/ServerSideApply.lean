/- source: the create and apply calls of src/src/controllers/cluster.rs
   digest: The fields of the workload objects, and an API server that remembers their owners. -/

import StreamlineOperator.Foundation.Ownership
import StreamlineOperator.Foundation.ServedRuns
import StreamlineOperator.Kubernetes.Api

set_option autoImplicit false
set_option relaxedAutoImplicit false

namespace StreamlineOperator.Kubernetes

open Foundation

/-! The fields of an object are those its schema owns separately: the entries of a
map, the entries of a list under their merge key, and everything else as a whole. -/

/-- The entries of a list under one merge key. -/
def entriesAt {α κ : Type} [DecidableEq κ] (mergeKey : α → κ) (entries : Option (List α))
    (key : κ) : Option (List α) :=
  match (entries.getD []).filter (fun entry => mergeKey entry = key) with
  | [] => none
  | found => some found

theorem entriesAt_eq_some {α κ : Type} [DecidableEq κ] {mergeKey : α → κ}
    {entries : Option (List α)} {key : κ} {found : List α} :
    entriesAt mergeKey entries key = some found ↔
      (entries.getD []).filter (fun entry => mergeKey entry = key) = found ∧ found ≠ [] := by
  unfold entriesAt
  cases (entries.getD []).filter (fun entry => mergeKey entry = key) with
  | nil =>
    constructor
    · nofun
    · rintro ⟨rfl, hne⟩
      exact absurd rfl hne
  | cons entry rest =>
    constructor
    · intro h
      cases h
      exact ⟨rfl, List.cons_ne_nil _ _⟩
    · rintro ⟨rfl, -⟩
      rfl

theorem mem_of_entriesAt {α κ : Type} [DecidableEq κ] {mergeKey : α → κ}
    (first later : Option (List α)) {entry : α}
    (h : ∀ key found, entriesAt mergeKey first key = some found →
      entriesAt mergeKey later key = some found)
    (hentry : entry ∈ first.getD []) : entry ∈ later.getD [] := by
  have hmem : entry ∈ (first.getD []).filter (fun other => mergeKey other = mergeKey entry) :=
    List.mem_filter.mpr ⟨hentry, by simp⟩
  obtain ⟨hsame, -⟩ := entriesAt_eq_some.mp
    (h (mergeKey entry) _ (entriesAt_eq_some.mpr ⟨rfl, List.ne_nil_of_mem hmem⟩))
  rw [← hsame] at hmem
  exact (List.mem_filter.mp hmem).1

def valueAt (entries : Option StringMap) (key : String) : Option String :=
  entries.bind (fun values => values[key]?)

inductive MetaField where
  | label (key : String)
  | ownerReference (uid : String)

def MetaField.Value : MetaField → Type
  | label _ => String
  | ownerReference _ => List OwnerReference

def ObjectMeta.fields (self : ObjectMeta) : Configuration MetaField.Value
  | .label key => valueAt self.labels key
  | .ownerReference uid => entriesAt OwnerReference.uid self.ownerReferences uid

inductive ConfigMapField where
  | metadata (field : MetaField)
  | data (key : String)

def ConfigMapField.Value : ConfigMapField → Type
  | metadata field => field.Value
  | data _ => String

def ConfigMap.fields (self : ConfigMap) : Configuration ConfigMapField.Value
  | .metadata field => self.metadata.fields field
  | .data key => valueAt self.data key

inductive ServiceField where
  | metadata (field : MetaField)
  | clusterIp
  | selector
  | port (number : Int32)
  | publishNotReadyAddresses

def ServiceField.Value : ServiceField → Type
  | metadata field => field.Value
  | clusterIp => String
  | selector => StringMap
  | port _ => List ServicePort
  | publishNotReadyAddresses => Bool

def Service.fields (self : Service) : Configuration ServiceField.Value
  | .metadata field => self.metadata.fields field
  | .clusterIp => self.spec.bind ServiceSpec.clusterIp
  | .selector => self.spec.bind ServiceSpec.selector
  | .port number => entriesAt ServicePort.port (self.spec.bind ServiceSpec.ports) number
  | .publishNotReadyAddresses => self.spec.bind ServiceSpec.publishNotReadyAddresses

inductive ContainerField where
  | image
  | imagePullPolicy
  | port (number : Int32)
  | env (name : String)
  | limit (resource : String)
  | request (resource : String)
  | volumeMount (mountPath : String)
  | livenessProbe
  | readinessProbe
  | startupProbe

def ContainerField.Value : ContainerField → Type
  | image => String
  | imagePullPolicy => String
  | port _ => List ContainerPort
  | env _ => List EnvVar
  | limit _ => String
  | request _ => String
  | volumeMount _ => List VolumeMount
  | livenessProbe => Probe
  | readinessProbe => Probe
  | startupProbe => Probe

def Container.fields (self : Container) : Configuration ContainerField.Value
  | .image => self.image
  | .imagePullPolicy => self.imagePullPolicy
  | .port number => entriesAt ContainerPort.containerPort self.ports number
  | .env name => entriesAt EnvVar.name self.env name
  | .limit resource => valueAt (self.resources.bind ResourceRequirements.limits) resource
  | .request resource => valueAt (self.resources.bind ResourceRequirements.requests) resource
  | .volumeMount mountPath => entriesAt VolumeMount.mountPath self.volumeMounts mountPath
  | .livenessProbe => self.livenessProbe
  | .readinessProbe => self.readinessProbe
  | .startupProbe => self.startupProbe

inductive PodField where
  | serviceAccountName
  | container (name : String) (field : ContainerField)
  | fsGroup
  | runAsNonRoot
  | nodeSelector
  | volume (name : String)
  | affinity
  | tolerations
  | topologySpreadConstraints

def PodField.Value : PodField → Type
  | serviceAccountName => String
  | container _ field => field.Value
  | fsGroup => Int64
  | runAsNonRoot => Bool
  | nodeSelector => StringMap
  | volume _ => List Volume
  | affinity => Json
  | tolerations => List Toleration
  | topologySpreadConstraints => List Json

def PodSpec.fields (self : PodSpec) : Configuration PodField.Value
  | .serviceAccountName => self.serviceAccountName
  | .container name field =>
    (self.containers.find? (fun container => container.name = name)).bind
      (fun container => container.fields field)
  | .fsGroup => self.securityContext.bind PodSecurityContext.fsGroup
  | .runAsNonRoot => self.securityContext.bind PodSecurityContext.runAsNonRoot
  | .nodeSelector => self.nodeSelector
  | .volume name => entriesAt Volume.name self.volumes name
  | .affinity => self.affinity
  | .tolerations => self.tolerations
  | .topologySpreadConstraints => self.topologySpreadConstraints

inductive StatefulSetField where
  | metadata (field : MetaField)
  | replicas
  | selector
  | serviceName
  | templateMetadata (field : MetaField)
  | pod (field : PodField)
  | volumeClaimTemplates
  | podManagementPolicy
  | updateStrategyType
  | maxUnavailable

def StatefulSetField.Value : StatefulSetField → Type
  | metadata field => field.Value
  | replicas => Int32
  | selector => LabelSelector
  | serviceName => String
  | templateMetadata field => field.Value
  | pod field => field.Value
  | volumeClaimTemplates => List PersistentVolumeClaim
  | podManagementPolicy => String
  | updateStrategyType => String
  | maxUnavailable => IntOrString

def StatefulSet.fields (self : StatefulSet) : Configuration StatefulSetField.Value
  | .metadata field => self.metadata.fields field
  | .replicas => self.spec.bind StatefulSetSpec.replicas
  | .selector => self.spec.map StatefulSetSpec.selector
  | .serviceName => self.spec.map StatefulSetSpec.serviceName
  | .templateMetadata field =>
    (self.spec.bind (fun spec => spec.template.metadata)).bind (fun metadata => metadata.fields field)
  | .pod field => (self.spec.bind (fun spec => spec.template.spec)).bind (fun pod => pod.fields field)
  | .volumeClaimTemplates => self.spec.bind StatefulSetSpec.volumeClaimTemplates
  | .podManagementPolicy => self.spec.bind StatefulSetSpec.podManagementPolicy
  | .updateStrategyType =>
    (self.spec.bind StatefulSetSpec.updateStrategy).bind StatefulSetUpdateStrategy.type
  | .maxUnavailable =>
    ((self.spec.bind StatefulSetSpec.updateStrategy).bind
      StatefulSetUpdateStrategy.rollingUpdate).bind RollingUpdateStatefulSetStrategy.maxUnavailable

/-- The fields of a kind. Only the kinds of the workload are kept apart here. -/
def Kind.Field : Kind → Type
  | configMap => ConfigMapField
  | service => ServiceField
  | statefulSet => StatefulSetField
  | _ => Empty

def Kind.Value : (kind : Kind) → kind.Field → Type
  | configMap => ConfigMapField.Value
  | service => ServiceField.Value
  | statefulSet => StatefulSetField.Value
  | horizontalPodAutoscaler | scaledObject | persistentVolumeClaim | pod | streamlineCluster
  | streamlineTopic | streamlineUser => Empty.elim

def Kind.fields : (kind : Kind) → kind.Object → Configuration kind.Value
  | configMap, object => object.fields
  | service, object => object.fields
  | statefulSet, object => object.fields
  | horizontalPodAutoscaler, _ | scaledObject, _ | persistentVolumeClaim, _ | pod, _
  | streamlineCluster, _ | streamlineTopic, _ | streamlineUser, _ => nofun

/-! The API server. -/

/-- The stored objects, by kind, namespace and name. -/
abbrev ObjectStore : Type := (kind : Kind) → String → String → Option (Owned kind.Value)

namespace ObjectStore

def set (self : ObjectStore) (kind : Kind) (namespaceName name : String)
    (object : Owned kind.Value) : ObjectStore := fun other otherNamespace otherName =>
  if h : other = kind ∧ otherNamespace = namespaceName ∧ otherName = name then
    some (h.1 ▸ object)
  else self other otherNamespace otherName

variable {store : ObjectStore} {kind other : Kind}
variable {namespaceName name otherNamespace otherName : String}

@[simp] theorem set_same (object : Owned kind.Value) :
    store.set kind namespaceName name object kind namespaceName name = some object := by
  simp [set]

theorem set_other {object : Owned kind.Value}
    (h : ¬ (other = kind ∧ otherNamespace = namespaceName ∧ otherName = name)) :
    store.set kind namespaceName name object other otherNamespace otherName =
      store other otherNamespace otherName := by
  simp [set, h]

end ObjectStore

/-- The operator's applies, by field manager. -/
def operatorApply : Owner := ⟨"streamline-operator", .apply⟩

/-- What writing a configuration over what is stored leaves, when nothing conflicts. -/
inductive Writes (requester : String) {kind : Kind} (config : Configuration kind.Value) :
    Option (Owned kind.Value) → Owned kind.Value → Prop
  | created : Writes requester config none (Owned.create requester config)
  | applied {stored : Owned kind.Value} : ¬ stored.Conflicts operatorApply config →
      Writes requester config (some stored) (stored.applied operatorApply config)

/-- An API server that is asked by `requester` alone and lets every call succeed that
can. A create needs an absent object, an unforced apply one without a conflict, and
only these two write objects of the workload. -/
def serves (requester : String) :
    (request : Request) → ObjectStore → request.Response → ObjectStore → Prop
  | .get kind namespaceName name, store, r, after =>
    after = store ∧ ((∃ object, r = .ok object) ↔ (store kind namespaceName name).isSome = true)
  | .create kind namespaceName object, store, r, after =>
    match store kind namespaceName (kind.objectName object) with
    | none => r = .ok () ∧ after = store.set kind namespaceName (kind.objectName object)
        (Owned.create requester (kind.fields object))
    | some _ => (∃ e, r = .error e ∧ e.code = some 409) ∧ after = store
  | .apply kind namespaceName name object, store, r, after =>
    let stored := (store kind namespaceName name).getD .absent
    (stored.Conflicts operatorApply (kind.fields object) ∧
        (∃ e, r = .error e ∧ e.code = some 409) ∧ after = store) ∨
      (¬ stored.Conflicts operatorApply (kind.fields object) ∧ r = .ok () ∧
        after = store.set kind namespaceName name
          (stored.applied operatorApply (kind.fields object)))
  | .list .., store, r, after => (∃ objects, r = .ok objects) ∧ after = store
  | .applyJson .., store, r, after => r = .ok () ∧ after = store
  | .mergePatch .., store, r, after => r = .ok () ∧ after = store
  | .patchStatus .., store, r, after => r = .ok () ∧ after = store
  | .delete .., store, r, after => (∀ e, r = .error e → e.code = some 404) ∧ after = store
  | .httpPost .., store, _, after => after = store
  | .httpGet _, store, _, after => after = store
  | .httpDelete _, store, _, after => after = store
  | .clock, store, _, after => after = store
  | .metric _, store, _, after => after = store

section Rules

open Program

variable {requester : String}

theorem Kind.nonempty_object (kind : Kind) : Nonempty kind.Object := by
  cases kind with
  | configMap | service | statefulSet | horizontalPodAutoscaler | persistentVolumeClaim | pod =>
    exact ⟨{}⟩
  | scaledObject => exact ⟨⟨"", "", {}, ⟨⟨none, "", ""⟩, 0, 0, 0, 0, []⟩⟩⟩
  | streamlineCluster => exact ⟨⟨{}, {}, none⟩⟩
  | streamlineTopic => exact ⟨⟨{}, { clusterRef := "" }, none⟩⟩
  | streamlineUser => exact ⟨Json.null⟩

/-- The server has an answer to everything. -/
theorem serves_total (request : Request) (store : ObjectStore) :
    ∃ r after, serves requester request store r after := by
  cases request with
  | get kind namespaceName name =>
    obtain ⟨object⟩ := kind.nonempty_object
    cases hstored : store kind namespaceName name with
    | none => exact ⟨.error ⟨some 404, ""⟩, store, rfl, by simp [hstored]⟩
    | some stored => exact ⟨.ok object, store, rfl, by simp [hstored]⟩
  | create kind namespaceName object =>
    cases hstored : store kind namespaceName (kind.objectName object) with
    | none =>
      exact ⟨.ok (), store.set kind namespaceName (kind.objectName object)
        (Owned.create requester (kind.fields object)), by simp [serves, hstored]⟩
    | some stored => exact ⟨.error ⟨some 409, ""⟩, store, by simp [serves, hstored]⟩
  | apply kind namespaceName name object =>
    by_cases hconflict : ((store kind namespaceName name).getD .absent).Conflicts operatorApply
        (kind.fields object)
    · exact ⟨.error ⟨some 409, ""⟩, store, .inl ⟨hconflict, ⟨_, rfl, rfl⟩, rfl⟩⟩
    · exact ⟨.ok (), _, .inr ⟨hconflict, rfl, rfl⟩⟩
  | list => exact ⟨.ok [], store, ⟨_, rfl⟩, rfl⟩
  | applyJson | mergePatch | patchStatus => exact ⟨.ok (), store, rfl, rfl⟩
  | delete => exact ⟨.ok (), store, nofun, rfl⟩
  | httpPost | httpGet | httpDelete => exact ⟨.error "", store, rfl⟩
  | clock => exact ⟨fun _ => "", store, rfl⟩
  | metric => exact ⟨(), store, rfl⟩

/-- An object created with `base` stays one to which only the operator applies. -/
def CreatedAs (requester : String) (kind : Kind) (namespaceName name : String)
    (base : Configuration kind.Value) (store : ObjectStore) : Prop :=
  ∃ stored, store kind namespaceName name = some stored ∧
    stored.Since requester operatorApply base

variable {kind : Kind} {namespaceName name : String} {base : Configuration kind.Value}

theorem operatorApply_ne : operatorApply ≠ ⟨requester, .update⟩ := by
  simp [operatorApply]

theorem CreatedAs.set {store : ObjectStore} {other : Kind} {otherNamespace otherName : String}
    {object : Owned other.Value} (h : CreatedAs requester kind namespaceName name base store)
    (hwrites : ∀ stored, store other otherNamespace otherName = some stored →
      ∃ config, ¬ stored.Conflicts operatorApply config ∧
        object = stored.applied operatorApply config) :
    CreatedAs requester kind namespaceName name base
      (store.set other otherNamespace otherName object) := by
  obtain ⟨stored, hstored, hsince⟩ := h
  by_cases hkey : kind = other ∧ namespaceName = otherNamespace ∧ name = otherName
  · obtain ⟨rfl, rfl, rfl⟩ := hkey
    obtain ⟨config, hfree, rfl⟩ := hwrites stored hstored
    exact ⟨_, ObjectStore.set_same _, hsince.applied operatorApply_ne hfree⟩
  · exact ⟨stored, (ObjectStore.set_other hkey).trans hstored, hsince⟩

theorem CreatedAs.served {request : Request} {store after : ObjectStore}
    {r : request.Response} (hserves : serves requester request store r after)
    (h : CreatedAs requester kind namespaceName name base store) :
    CreatedAs requester kind namespaceName name base after := by
  cases request with
  | create other otherNamespace object =>
    simp only [serves] at hserves
    split at hserves
    · rename_i hnone
      obtain ⟨-, rfl⟩ := hserves
      refine h.set fun stored hstored => ?_
      rw [hnone] at hstored
      cases hstored
    · obtain ⟨-, rfl⟩ := hserves
      exact h
  | apply other otherNamespace otherName object =>
    rcases hserves with ⟨-, -, rfl⟩ | ⟨hfree, -, rfl⟩
    · exact h
    · refine h.set fun stored hstored => ?_
      rw [hstored, Option.getD_some] at hfree ⊢
      exact ⟨_, hfree, rfl⟩
  | get | list | applyJson | mergePatch | patchStatus | delete =>
    obtain rfl : after = store := by
      simp only [serves] at hserves
      tauto
    exact h
  | httpPost | httpGet | httpDelete | clock | metric =>
    obtain rfl : after = store := hserves
    exact h

/-- A child object is written unless what is stored conflicts with it. -/
theorem triple_getThenWrite {object : kind.Object} {pre post : ObjectStore → Prop}
    (hname : kind.objectName object = name)
    (hfree : ∀ store, pre store → ∀ stored, store kind namespaceName name = some stored →
      ¬ stored.Conflicts operatorApply (kind.fields object))
    (hpost : ∀ store stored, pre store →
      Writes requester (kind.fields object) (store kind namespaceName name) stored →
      post (store.set kind namespaceName name stored)) :
    Triple (serves requester) pre (getThenWrite kind namespaceName name object)
      (Returning fun _ => post) := by
  have hanswer : ∀ r : Except KubeError Unit, Triple (serves requester)
      (fun after => r = .ok () ∧ post after) (orKubeApi r) (Returning fun _ => post) := by
    intro r
    cases r with
    | ok u => exact triple_ok fun store h => ⟨u, rfl, h.2⟩
    | error e => exact fun store h => nomatch h.1
  refine triple_call (fun found store => pre store ∧
    ((∃ object, found = .ok object) ↔ (store kind namespaceName name).isSome = true)) ?_ ?_
  · rintro store found after hpre ⟨rfl, hfound⟩
    exact ⟨hpre, hfound⟩
  · intro found
    cases found with
    | ok existing =>
      refine triple_call _ ?_ hanswer
      rintro store r after ⟨hpre, hfound⟩ hserves
      obtain ⟨stored, hstored⟩ := Option.isSome_iff_exists.mp (hfound.mp ⟨existing, rfl⟩)
      have hwrites := hfree store hpre stored hstored
      rcases hserves with ⟨hconflict, -, -⟩ | ⟨-, rfl, rfl⟩
      · rw [hstored, Option.getD_some] at hconflict
        exact absurd hconflict hwrites
      · rw [hstored, Option.getD_some]
        refine ⟨rfl, hpost store _ hpre ?_⟩
        rw [hstored]
        exact .applied hwrites
    | error e =>
      refine triple_call _ ?_ hanswer
      rintro store r after ⟨hpre, hfound⟩ hserves
      have hstored : store kind namespaceName name = none := by
        rw [← Option.not_isSome_iff_eq_none, ← hfound]
        rintro ⟨object, hobject⟩
        cases hobject
      simp only [serves, hname, hstored] at hserves
      obtain ⟨rfl, rfl⟩ := hserves
      refine ⟨rfl, hpost store _ hpre ?_⟩
      rw [hstored]
      exact .created

end Rules

end StreamlineOperator.Kubernetes
