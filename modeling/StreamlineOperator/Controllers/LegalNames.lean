/- source: src/src/controllers/cluster.rs (reconcile_headless_service, reconcile_client_service,
     build_statefulset, common_labels, pod_selector); src/src/crd/cluster.rs (validate)
   digest: When all that is written for an accepted cluster is named as the API server admits it. -/

import StreamlineOperator.Controllers.ClusterOwnership
import StreamlineOperator.Controllers.Environment
import StreamlineOperator.Kubernetes.Names

set_option autoImplicit false
set_option relaxedAutoImplicit false

namespace StreamlineOperator.Controllers

open Foundation
open Kubernetes
open Crd (StreamlineCluster)

namespace ClusterController

/-- What the names of a cluster have to be beyond what is checked: the name begins with a
letter, has no dots and leaves room for the longest suffix of a Service's name, no variable
has an equals sign in its name, and the node selector consists of labels. -/
structure NamesFit (cluster : StreamlineCluster) : Prop where
  word : dns1035Shape.accepts cluster.nameAny.toList = true
  length : cluster.nameAny.length ≤ 54
  env : ∀ env ∈ cluster.spec.env, '=' ∉ env.name.toList
  nodeSelector : legalLabels cluster.spec.nodeSelector = true

variable {cluster : StreamlineCluster} {namespaceName : String}

theorem labelKeys_legal :
    isLabelKey "app.kubernetes.io/name" = true ∧ isLabelKey "app.kubernetes.io/instance" = true ∧
      isLabelKey "app.kubernetes.io/managed-by" = true := by
  decide

theorem podSelector_legal (h : isLabelValue cluster.nameAny = true) :
    legalLabels (podSelector cluster) = true := by
  obtain ⟨hname, hinstance, -⟩ := labelKeys_legal
  exact legalLabels_insert hinstance h (legalLabels_insert hname (by decide) legalLabels_empty)

theorem commonLabels_legal (h : isLabelValue cluster.nameAny = true) :
    legalLabels (commonLabels cluster) = true := by
  obtain ⟨hname, hinstance, hmanaged⟩ := labelKeys_legal
  refine legalLabels_insert hmanaged (by decide) ?_
  exact legalLabels_insert hinstance h (legalLabels_insert hname (by decide) legalLabels_empty)

theorem childMetadata_legal {isName : String → Bool} {name : String} (hname : isName name = true)
    (h : isLabelValue cluster.nameAny = true) :
    LegalMetadata isName (childMetadata cluster namespaceName name) where
  name := hname
  labels := by
    rintro labels ⟨rfl⟩
    exact commonLabels_legal h

theorem operatorEnvNames_legal : ∀ name ∈ operatorEnvNames, isEnvName name = true := by
  decide

theorem isEnvName_of_resolves {env : Crd.EnvVar} (h : ∃ source, env.resolveSource = .ok source) :
    isEnvName env.name = true ↔ '=' ∉ env.name.toList := by
  obtain ⟨source, hsource⟩ := h
  have hblank : isBlank env.name = false := by
    cases hblank : isBlank env.name with
    | false => rfl
    | true =>
      rw [Crd.EnvVar.resolveSource, hblank] at hsource
      cases hsource
  have hempty : env.name.toList.isEmpty = false := by
    rw [Bool.eq_false_iff]
    intro hnil
    rw [isBlank, List.isEmpty_iff.mp hnil] at hblank
    cases hblank
  simp [isEnvName, hempty]

theorem containerEnv_legal_iff (hvalid : cluster.spec.validate = .ok ()) :
    (∀ env ∈ containerEnv cluster, isEnvName env.name = true) ↔
      ∀ env ∈ cluster.spec.env, '=' ∉ env.name.toList := by
  have hresolves := (Crd.ClusterSpec.validate_eq_ok.mp hvalid).env
  have hnames : (∀ env ∈ containerEnv cluster, isEnvName env.name = true) ↔
      ∀ name ∈ (containerEnv cluster).map Kubernetes.EnvVar.name, isEnvName name = true := by
    rw [List.forall_mem_map]
  rw [hnames, containerEnv_names hresolves, List.forall_mem_append, List.forall_mem_map]
  constructor
  · rintro ⟨-, hspec⟩ env henv
    exact (isEnvName_of_resolves (hresolves env henv)).mp (hspec env henv)
  · intro hspec
    refine ⟨operatorEnvNames_legal, ?_⟩
    intro env henv
    exact (isEnvName_of_resolves (hresolves env henv)).mpr (hspec env henv)

theorem nodeSelector_legal_iff (selector : StringMap) :
    (∀ labels ∈ (if selector.isEmpty then none else some selector : Option StringMap),
      legalLabels labels = true) ↔ legalLabels selector = true := by
  split
  · rename_i hempty
    have hlegal : legalLabels selector = true := by
      rw [Std.ExtTreeMap.isEmpty_iff.mp hempty]
      exact legalLabels_empty
    exact iff_of_true (by simp) hlegal
  · simp

/-! What is written for names that fit. -/

section Fit

variable (hfit : NamesFit cluster)
include hfit

theorem NamesFit.serviceName : isServiceName cluster.nameAny = true := by
  rw [isServiceName_iff]
  exact ⟨by have hlength := hfit.length; omega, hfit.word⟩

theorem NamesFit.labelValue : isLabelValue cluster.nameAny = true :=
  isLabelValue_of_serviceName hfit.serviceName

theorem NamesFit.headlessName : isServiceName (cluster.nameAny ++ "-headless") = true := by
  have hlength := hfit.length
  have hsuffix : "-headless".length = 9 := by decide
  exact isServiceName_append hfit.word (by decide) (by omega)

theorem NamesFit.configName : isDns1123Subdomain (cluster.nameAny ++ "-config") = true := by
  have hlength := hfit.length
  have hsuffix : "-config".length = 7 := by decide
  apply isDns1123Subdomain_of_hostname
  exact isHostname_append (dns1123_of_dns1035 hfit.word) (by decide) (by omega)

theorem NamesFit.podName : isHostname (cluster.nameAny ++ "-0") = true := by
  have hlength := hfit.length
  have hsuffix : "-0".length = 2 := by decide
  exact isHostname_append (dns1123_of_dns1035 hfit.word) (by decide) (by omega)

theorem buildConfigmap_legal :
    LegalMetadata isDns1123Subdomain (buildConfigmap cluster namespaceName).metadata :=
  childMetadata_legal hfit.configName hfit.labelValue

theorem headlessService_legal : LegalService (headlessService cluster namespaceName) where
  metadata := childMetadata_legal hfit.headlessName hfit.labelValue
  selector := by
    rintro spec ⟨rfl⟩ labels ⟨rfl⟩
    exact podSelector_legal hfit.labelValue

theorem clientService_legal : LegalService (clientService cluster namespaceName) where
  metadata := childMetadata_legal hfit.serviceName hfit.labelValue
  selector := by
    rintro spec ⟨rfl⟩ labels ⟨rfl⟩
    exact podSelector_legal hfit.labelValue

theorem buildStatefulset_legal (hname : isDns1123Subdomain cluster.nameAny = true)
    (hvalid : cluster.spec.validate = .ok ()) :
    LegalStatefulSet (buildStatefulset cluster namespaceName) where
  metadata := childMetadata_legal hname hfit.labelValue
  spec := by
    rintro spec ⟨rfl⟩
    refine ⟨?_, hfit.headlessName, ?_, ?_⟩
    · rintro labels ⟨rfl⟩
      exact podSelector_legal hfit.labelValue
    · rintro metadata ⟨rfl⟩ labels ⟨rfl⟩
      exact podSelector_legal hfit.labelValue
    · rintro pod ⟨rfl⟩
      refine ⟨?_, ?_⟩
      · exact (nodeSelector_legal_iff cluster.spec.nodeSelector).mpr hfit.nodeSelector
      · intro container hcontainer
        obtain rfl := List.mem_singleton.mp hcontainer
        exact (containerEnv_legal_iff hvalid).mpr hfit.env
  podNames := by
    rintro spec ⟨rfl⟩ replicas ⟨rfl⟩ ordinal hordinal
    rw [(Crd.ClusterSpec.validate_eq_ok.mp hvalid).replicas] at hordinal
    have hzero : ordinal = 0 := by
      have hone : (1 : Int32).toInt = 1 := by decide
      omega
    subst hzero
    have hpod : Kubernetes.podName (buildStatefulset cluster namespaceName) 0 =
        cluster.nameAny ++ "-0" := String.append_assoc
    rw [hpod]
    exact hfit.podName

end Fit

/-! What the reconcile writes. -/

private theorem handleDeletion_legal :
    Program.Always (fun e => LegalWrite e.request) (handleDeletion cluster namespaceName) := by
  apply always_handleDeletion
  · exact fun _ => trivial
  · exact fun _ _ => trivial
  · exact fun _ => trivial

private theorem reconcileLive_legal (hlive : cluster.metadata.deletionTimestamp = none)
    (hname : isDns1123Subdomain cluster.nameAny = true) (hfit : NamesFit cluster) :
    Program.Always (fun e => LegalWrite e.request) (reconcile cluster) := by
  rw [reconcile_live_eq hlive]
  refine Program.always_bind (always_sendMetric trivial) fun _ => ?_
  refine Program.always_bind (always_ensureFinalizer fun _ => trivial) fun _ => ?_
  refine Program.always_bind ?_ fun _ => ?_
  · intro tr res hruns
    obtain ⟨r, rfl, -⟩ := AutoScalingController.runs_deleteHpa hruns
    rw [List.forall_mem_singleton]
    trivial
  refine afterCleanup_always (fun _ => trivial) (fun _ => trivial) (fun _ => trivial)
    (fun _ _ => trivial) fun hvalid => ⟨?_, ?_, ?_, ?_⟩
  · have hlegal := @buildConfigmap_legal cluster cluster.namespaceOrDefault hfit
    exact always_getThenWrite (fun _ => trivial) (fun _ => hlegal) (fun _ => hlegal)
  · have hlegal := @headlessService_legal cluster cluster.namespaceOrDefault hfit
    exact always_getThenWrite (fun _ => trivial) (fun _ => hlegal) (fun _ => hlegal)
  · have hlegal := @clientService_legal cluster cluster.namespaceOrDefault hfit
    exact always_getThenWrite (fun _ => trivial) (fun _ => hlegal) (fun _ => hlegal)
  · have hlegal := @buildStatefulset_legal cluster cluster.namespaceOrDefault hfit hname
      hvalid
    exact always_getThenWrite (fun _ => trivial) (fun _ => hlegal) (fun _ => hlegal)

theorem namesFit_of_legal (hvalid : cluster.spec.validate = .ok ())
    (hheadless : LegalService (headlessService cluster namespaceName))
    (hclient : LegalService (clientService cluster namespaceName))
    (hset : LegalStatefulSet (buildStatefulset cluster namespaceName)) : NamesFit cluster := by
  have hservice : isServiceName cluster.nameAny = true := hclient.metadata.name
  have hlong : isServiceName (cluster.nameAny ++ "-headless") = true := hheadless.metadata.name
  have hpod : LegalPodSpec _ := (hset.spec _ rfl).pod _ rfl
  rw [isServiceName_iff] at hservice hlong
  refine ⟨hservice.2, ?_, ?_, ?_⟩
  · have hsuffix : "-headless".length = 9 := by decide
    have hlength := hlong.1
    rw [String.length_append] at hlength
    omega
  · exact (containerEnv_legal_iff hvalid).mp (hpod.env _ (List.mem_singleton_self _))
  · exact (nodeSelector_legal_iff cluster.spec.nodeSelector).mp hpod.nodeSelector

private theorem mem_reconcile_of_afterCleanup
    (hlive : cluster.metadata.deletionTimestamp = none) {e : ApiExchange}
    (he : e ∈ ((afterCleanup cluster cluster.namespaceOrDefault).answer emptyServer).1) :
    e ∈ ((reconcile cluster).answer emptyServer).1 := by
  have hfinalizer : ((ensureFinalizer cluster cluster.namespaceOrDefault).answer emptyServer).2 =
      .ok () := by
    unfold ensureFinalizer Kubernetes.ensureFinalizer
    split <;> rfl
  rw [reconcile_live_eq hlive]
  exact Program.mem_answer_bind_right rfl (Program.mem_answer_bind_right hfinalizer
    (Program.mem_answer_bind_right rfl he))

private theorem namesFit_of_writes (hlive : cluster.metadata.deletionTimestamp = none)
    (hvalid : cluster.spec.validate = .ok ())
    (hlegal : Program.Always (fun e => LegalWrite e.request) (reconcile cluster)) :
    NamesFit cluster := by
  have hcreated : ∀ e ∈ ((afterCleanup cluster cluster.namespaceOrDefault).answer emptyServer).1,
      LegalWrite e.request := fun e he =>
    hlegal _ _ (Program.runs_answer emptyServer _) e (mem_reconcile_of_afterCleanup hlive he)
  exact namesFit_of_legal hvalid (hcreated _ (creates_of_accepted hvalid (.inr (.inl rfl))))
    (hcreated _ (creates_of_accepted hvalid (.inr (.inr (.inl rfl)))))
    (hcreated _ (creates_of_accepted hvalid (.inr (.inr (.inr rfl)))))

/-- For a stored cluster with an accepted spec, whatever is written is named and labelled as
the API server admits it exactly if the cluster is being deleted or its names fit. -/
theorem writes_legal_iff (cluster : StreamlineCluster)
    (hname : isDns1123Subdomain cluster.nameAny = true)
    (hvalid : cluster.spec.validate = .ok ()) :
    (∀ tr res, Program.Runs (reconcile cluster) tr res → ∀ e ∈ tr, LegalWrite e.request) ↔
      cluster.metadata.deletionTimestamp.isSome = true ∨ NamesFit cluster := by
  constructor
  · intro hlegal
    cases hdeleted : cluster.metadata.deletionTimestamp with
    | some time => exact .inl rfl
    | none => exact .inr (namesFit_of_writes hdeleted hvalid hlegal)
  · intro hfit
    cases hdeleted : cluster.metadata.deletionTimestamp with
    | some time =>
      have hdeletion : reconcile cluster = (sendMetric (.incReconcile "cluster")).bind fun _ =>
          handleDeletion cluster cluster.namespaceOrDefault := by
        simp only [reconcile, hdeleted, Option.isSome_some, if_true, Program.bind_eq]
      rw [hdeletion]
      exact Program.always_bind (always_sendMetric trivial) fun _ => handleDeletion_legal
    | none =>
      rw [hdeleted] at hfit
      rcases hfit with hfit | hfit
      · cases hfit
      · exact reconcileLive_legal hdeleted hname hfit

theorem writes_legal_fresh :
    (∀ tr res, Program.Runs (reconcile (freshCluster "demo")) tr res →
      ∀ e ∈ tr, LegalWrite e.request) ↔
      (freshCluster "demo").metadata.deletionTimestamp.isSome = true ∨
        NamesFit (freshCluster "demo") :=
  writes_legal_iff (freshCluster "demo") (by decide) (by decide)

/-- A cluster with a variable whose name has an equals sign. -/
def oddVariable : StreamlineCluster :=
  { freshCluster "demo" with spec := { env := [{ name := "A=B", value := some "" }] } }

/-- Whatever is written for the cluster is legal, if its name and its spec are accepted. -/
def WritesLegally (cluster : StreamlineCluster) : Prop :=
  isDns1123Subdomain cluster.nameAny = true → cluster.spec.validate = .ok () →
    ∀ tr res, Program.Runs (reconcile cluster) tr res → ∀ e ∈ tr, LegalWrite e.request

/-- Dots, a digit in front and an equals sign are accepted and then written. -/
theorem accepted_writes_illegal :
    ¬ WritesLegally (freshCluster "my.events") ∧ ¬ WritesLegally (freshCluster "1events") ∧
      ¬ WritesLegally oddVariable := by
  refine ⟨?_, ?_, ?_⟩ <;> intro hlegal
  · have hfit := namesFit_of_writes rfl (by decide) (hlegal (by decide) (by decide))
    exact absurd hfit.word (by decide)
  · have hfit := namesFit_of_writes rfl (by decide) (hlegal (by decide) (by decide))
    exact absurd hfit.word (by decide)
  · have hfit := namesFit_of_writes rfl (by decide) (hlegal (by decide) (by decide))
    exact absurd hfit.env (by decide)

end ClusterController

end StreamlineOperator.Controllers
