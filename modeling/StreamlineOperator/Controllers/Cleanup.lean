/- source: src/src/controllers/{cluster,topic}.rs (handle_deletion), scale_to_zero.rs and
     autoscaling.rs (the delete paths)
   digest: When a cleanup claims to be complete although something it deletes may still exist. -/

import StreamlineOperator.Controllers.Cluster
import StreamlineOperator.Controllers.ScaleToZero
import StreamlineOperator.Controllers.Topic

set_option autoImplicit false
set_option relaxedAutoImplicit false

namespace StreamlineOperator.Controllers

open Foundation
open Kubernetes
open Crd (StreamlineCluster StreamlineTopic)

/-- The four cleanups. The two autoscalers are cleaned up when they are switched off. -/
inductive CleanupPath where
  | hpa (cluster : StreamlineCluster) (namespaceName : String) (autoscaling : AutoScalingConfig)
      (disabled : autoscaling.enabled = false)
  | scaledObject (cluster : StreamlineCluster) (namespaceName : String)
      (config : ScaleToZeroConfig) (disabled : config.kedaEnabled = false)
  | clusterDeletion (cluster : StreamlineCluster) (namespaceName : String)
  | topicDeletion (topic : StreamlineTopic) (namespaceName : String)

namespace CleanupPath

def operation : CleanupPath → Operation Unit
  | hpa cluster namespaceName autoscaling _ =>
    AutoScalingController.reconcileHpa cluster namespaceName autoscaling
  | scaledObject cluster namespaceName config _ =>
    ScaleToZeroController.reconcileKedaScaledObject cluster namespaceName config
  | clusterDeletion cluster namespaceName => do
    let _ ← ClusterController.handleDeletion cluster namespaceName
  | topicDeletion topic namespaceName => do
    let _ ← TopicController.handleDeletion topic namespaceName

def isHpa : CleanupPath → Bool
  | hpa .. => true
  | _ => false

end CleanupPath

/-- A delete that was answered by neither success nor 404. -/
def failedDelete : ApiExchange → Bool
  | ⟨.delete .., .error e⟩ => e.code ≠ some 404
  | ⟨.httpDelete _, .error _⟩ => true
  | ⟨.httpDelete _, .ok response⟩ => !response.isSuccess && response.status ≠ 404
  | _ => false

/-- A patch of a resource's finalizers that the API server takes. -/
def removesFinalizer : ApiExchange → Bool
  | ⟨.mergePatch .., r⟩ => r.isOk
  | _ => false

/-- One that it refuses, so that the finalizer stays. -/
def keepsFinalizer : ApiExchange → Bool
  | ⟨.mergePatch .., r⟩ => !r.isOk
  | _ => false

/-- The cleanup is claimed to be complete: it returns `Ok` or has patched a finalizer away. -/
def ClaimsCompletion (tr : List ApiExchange) (res : Except OperatorError Unit) : Prop :=
  res = .ok () ∨ ∃ e ∈ tr, removesFinalizer e = true

/-- Completion is claimed only if no delete failed. -/
def CompletesWhenGone (tr : List ApiExchange) (res : Except OperatorError Unit) : Prop :=
  ClaimsCompletion tr res → ∀ e ∈ tr, failedDelete e = false

theorem deleteClaims_returns (namespaceName : String) (pvcs : List PersistentVolumeClaim) :
    Program.Returns (Program.forEach pvcs (ClusterController.deleteClaim namespaceName)) := by
  apply Program.returns_forEach
  intro pvc _
  unfold ClusterController.deleteClaim
  split
  · exact Program.returns_call fun _ => Program.returns_ok ()
  · exact Program.returns_ok ()

/-- The finalizers are patched once, at the end of the run, which returns exactly if the
patch is taken. -/
def PatchesLast (tr : List ApiExchange) (res : Except OperatorError Unit) : Prop :=
  ∃ before kind namespaceName name body, ∃ r : Except KubeError Unit,
    tr = before ++ [⟨.mergePatch kind namespaceName name body, r⟩] ∧
      (∀ e ∈ before, e.request.isMergePatch = false) ∧ (r.isOk = true ↔ res = .ok ())

theorem removesFinalizer_of_not_patch {e : ApiExchange} (h : e.request.isMergePatch = false) :
    removesFinalizer e = false ∧ keepsFinalizer e = false := by
  unfold removesFinalizer keepsFinalizer
  constructor <;> split
  · cases h
  · rfl
  · cases h
  · rfl

/-- Such a run claims completion exactly if its last call is answered by success. -/
theorem completesWhenGone_of_patchesLast {tr : List ApiExchange}
    {res : Except OperatorError Unit} (h : PatchesLast tr res) :
    CompletesWhenGone tr res ↔
      (∀ e ∈ tr, failedDelete e = false) ∨ ∃ e ∈ tr, keepsFinalizer e = true := by
  obtain ⟨before, kind, namespaceName, name, body, r, rfl, hbefore, hres⟩ := h
  cases r with
  | ok u =>
    have hkeeps : ¬ ∃ e ∈ before ++ [(⟨.mergePatch kind namespaceName name body, .ok u⟩ :
        ApiExchange)], keepsFinalizer e = true := by
      intro hkeeps
      obtain ⟨e, he, hkeeps⟩ := hkeeps
      rcases List.mem_append.mp he with he | he
      · rw [(removesFinalizer_of_not_patch (hbefore e he)).2] at hkeeps
        cases hkeeps
      · obtain rfl := List.mem_singleton.mp he
        cases hkeeps
    rw [or_iff_left hkeeps]
    refine ⟨fun hgone => hgone (.inl (hres.mp rfl)), fun hgone _ => hgone⟩
  | error error =>
    have hclaims : ¬ ClaimsCompletion (before ++ [⟨.mergePatch kind namespaceName name body,
        .error error⟩]) res := by
      intro hclaims
      rcases hclaims with hok | ⟨e, he, hremoves⟩
      · cases hres.mpr hok
      · rcases List.mem_append.mp he with he | he
        · rw [(removesFinalizer_of_not_patch (hbefore e he)).1] at hremoves
          cases hremoves
        · obtain rfl := List.mem_singleton.mp he
          cases hremoves
    refine iff_of_true (fun h => absurd h hclaims) (.inr ?_)
    exact ⟨_, List.mem_append_right _ (List.mem_singleton_self _), rfl⟩

theorem patchesLast_removeFinalizer {kind : Kind} {finalizer : String} {metadata : ObjectMeta}
    {namespaceName : String} {before after : List ApiExchange} {res : Except OperatorError Action}
    (hbefore : ∀ e ∈ before, e.request.isMergePatch = false)
    (h : Program.Runs ((removeFinalizer kind finalizer metadata namespaceName).bind
      fun _ => (.ok .awaitChange : Operation Action)) after res) :
    PatchesLast (before ++ after) (res.map fun _ => ()) := by
  rcases Program.runs_bind.mp h with ⟨e, hruns, rfl⟩ | ⟨u, first, last, rfl, hruns, hend⟩
  · obtain ⟨r, rfl, hok⟩ := runs_removeFinalizer hruns
    exact ⟨before, kind, namespaceName, _, _, r, rfl, hbefore, by simp [hok, Except.map]⟩
  · obtain ⟨r, rfl, hok⟩ := runs_removeFinalizer hruns
    obtain ⟨rfl, rfl⟩ := Program.runs_ok.mp hend
    exact ⟨before, kind, namespaceName, _, _, r, rfl, hbefore, by simp [hok, Except.map]⟩

theorem runs_discard {p : Operation Action} {tr : List ApiExchange}
    {res : Except OperatorError Unit}
    (h : Program.Runs (p.bind fun _ => (.ok () : Operation Unit)) tr res) :
    ∃ outcome, Program.Runs p tr outcome ∧ res = outcome.map fun _ => () := by
  rcases Program.runs_bind.mp h with ⟨e, hruns, rfl⟩ | ⟨action, first, last, rfl, hruns, hend⟩
  · exact ⟨.error e, hruns, rfl⟩
  · obtain ⟨rfl, rfl⟩ := Program.runs_ok.mp hend
    rw [List.append_nil]
    exact ⟨.ok action, hruns, rfl⟩

theorem clusterDeletion_runs {cluster : StreamlineCluster} {namespaceName : String}
    {tr : List ApiExchange} {res : Except OperatorError Unit}
    (h : Program.Runs (CleanupPath.clusterDeletion cluster namespaceName).operation tr res) :
    PatchesLast tr res ∨ ∀ e ∈ tr, failedDelete e = false := by
  obtain ⟨outcome, hruns, rfl⟩ := runs_discard h
  simp only [ClusterController.handleDeletion, send, Program.bind_eq, Program.send_bind,
    Program.runs_call] at hruns
  obtain ⟨listed, rest, rfl, hruns⟩ := hruns
  cases listed with
  | error e =>
    simp only [orKubeApi, Program.err_bind, Program.runs_err] at hruns
    obtain ⟨rfl, -⟩ := hruns
    exact .inr (by simp [failedDelete])
  | ok pvcs =>
    refine .inl ?_
    have hclaims : Program.Always (fun e : ApiExchange => e.request.isMergePatch = false)
        (Program.forEach pvcs (ClusterController.deleteClaim namespaceName)) :=
      Program.always_forEach fun _ _ => ClusterController.always_deleteClaim fun _ _ _ => rfl
    simp only [orKubeApi, Program.ok_bind] at hruns
    rcases Program.runs_bind.mp hruns with ⟨e, hfails, -⟩ | ⟨u, first, last, rfl, hfirst, hlast⟩
    · obtain ⟨u, hreturned⟩ := deleteClaims_returns namespaceName pvcs _ _ hfails
      cases hreturned
    · rw [← List.cons_append]
      refine patchesLast_removeFinalizer ?_ hlast
      exact List.forall_mem_cons.mpr ⟨rfl, hclaims _ _ hfirst⟩

theorem topicDeletion_runs {topic : StreamlineTopic} {namespaceName : String}
    {tr : List ApiExchange} {res : Except OperatorError Unit}
    (h : Program.Runs (CleanupPath.topicDeletion topic namespaceName).operation tr res) :
    PatchesLast tr res := by
  obtain ⟨outcome, hruns, rfl⟩ := runs_discard h
  simp only [TopicController.handleDeletion, send, Program.bind_eq, Program.send_bind,
    Program.runs_call] at hruns
  obtain ⟨found, rest, rfl, hruns⟩ := hruns
  cases found with
  | error e =>
    exact patchesLast_removeFinalizer (List.forall_mem_singleton.mpr rfl) hruns
  | ok cluster =>
    simp only [Program.runs_call] at hruns
    obtain ⟨deleted, last, rfl, hruns⟩ := hruns
    refine @patchesLast_removeFinalizer _ _ _ _ [_, _] _ _ ?_ hruns
    exact List.forall_mem_cons.mpr ⟨rfl, List.forall_mem_singleton.mpr rfl⟩

theorem scaledObject_runs {cluster : StreamlineCluster} {namespaceName : String}
    {config : ScaleToZeroConfig} {disabled : config.kedaEnabled = false} {tr : List ApiExchange}
    {res : Except OperatorError Unit}
    (h : Program.Runs (CleanupPath.scaledObject cluster namespaceName config disabled).operation
      tr res) : res = .ok () ∧ ∀ e ∈ tr, keepsFinalizer e = false := by
  simp only [CleanupPath.operation, ScaleToZeroController.reconcileKedaScaledObject, disabled,
    Bool.not_false, if_true] at h
  have hreturns : Program.Returns
      (ScaleToZeroController.deleteKedaScaledObject cluster namespaceName) :=
    Program.returns_call fun _ => Program.returns_ok ()
  have hdeletes : Program.Always (fun e => keepsFinalizer e = false)
      (ScaleToZeroController.deleteKedaScaledObject cluster namespaceName) :=
    Program.always_call (fun _ => rfl) fun _ => Program.always_ok ()
  obtain ⟨u, hu⟩ := hreturns tr res h
  exact ⟨hu, hdeletes tr res h⟩

theorem hpa_runs {cluster : StreamlineCluster} {namespaceName : String}
    {autoscaling : AutoScalingConfig} {disabled : autoscaling.enabled = false}
    {tr : List ApiExchange} {res : Except OperatorError Unit}
    (h : Program.Runs (CleanupPath.hpa cluster namespaceName autoscaling disabled).operation
      tr res) : CompletesWhenGone tr res := by
  simp only [CleanupPath.operation, AutoScalingController.reconcileHpa, hpaAction, disabled,
    Bool.false_eq_true, if_false, if_true] at h
  obtain ⟨r, rfl, hfails⟩ := AutoScalingController.runs_deleteHpa h
  intro hclaims e he
  obtain rfl := List.mem_singleton.mp he
  rcases hclaims with rfl | ⟨e, he, hremoves⟩
  · cases r with
    | ok u => rfl
    | error e =>
      by_contra hfailed
      obtain ⟨e', he'⟩ := hfails.mpr ⟨e, rfl, by simpa [failedDelete] using hfailed⟩
      cases he'
  · obtain rfl := List.mem_singleton.mp he
    cases hremoves

/-- A cleanup completes only when everything is gone exactly if it is that of the HPA, no
delete of the run failed, or the finalizer was not let go. -/
theorem completesWhenGone_iff (path : CleanupPath) (tr : List ApiExchange)
    (res : Except OperatorError Unit) (h : Program.Runs path.operation tr res) :
    CompletesWhenGone tr res ↔ path.isHpa = true ∨ (∀ e ∈ tr, failedDelete e = false) ∨
      ∃ e ∈ tr, keepsFinalizer e = true := by
  cases path with
  | hpa cluster namespaceName autoscaling disabled =>
    exact ⟨fun _ => .inl rfl, fun _ => hpa_runs h⟩
  | scaledObject cluster namespaceName config disabled =>
    obtain ⟨hok, hnone⟩ := scaledObject_runs h
    have hkeeps : ¬ ∃ e ∈ tr, keepsFinalizer e = true := by simpa using hnone
    simp only [CleanupPath.isHpa, Bool.false_eq_true, false_or, hkeeps, or_false]
    exact ⟨fun hgone => hgone (.inl hok), fun hgone _ => hgone⟩
  | clusterDeletion cluster namespaceName =>
    simp only [CleanupPath.isHpa, Bool.false_eq_true, false_or]
    rcases clusterDeletion_runs h with hpatched | hnone
    · exact completesWhenGone_of_patchesLast hpatched
    · exact iff_of_true (fun _ => hnone) (.inl hnone)
  | topicDeletion topic namespaceName =>
    simp only [CleanupPath.isHpa, Bool.false_eq_true, false_or]
    exact completesWhenGone_of_patchesLast (topicDeletion_runs h)

/-- A cluster and a topic of it, both waiting to be cleaned up. -/
def cleanupCluster : StreamlineCluster where
  metadata := { name := some "events", namespaceName := some "streamline" }
  spec := {}
  status := none

def cleanupTopic : StreamlineTopic where
  metadata := { name := some "orders", namespaceName := some "streamline" }
  spec := { clusterRef := "events" }
  status := none

/-- The run of a cleanup against a server completes only when everything is gone. -/
def CompletesWhenGoneOn (server : (request : Request) → request.Response) (path : CleanupPath) :
    Prop :=
  CompletesWhenGone (path.operation.answer server).1 (path.operation.answer server).2

theorem completesWhenGone_iff_emptyServer :
    CompletesWhenGoneOn emptyServer (.scaledObject cleanupCluster "streamline" {} rfl) ↔
      (CleanupPath.scaledObject cleanupCluster "streamline" {} rfl).isHpa = true ∨
        (∀ e ∈ ((CleanupPath.scaledObject cleanupCluster "streamline" {} rfl).operation.answer
          emptyServer).1, failedDelete e = false) ∨
        ∃ e ∈ ((CleanupPath.scaledObject cleanupCluster "streamline" {} rfl).operation.answer
          emptyServer).1, keepsFinalizer e = true :=
  completesWhenGone_iff _ _ _ (Program.runs_answer emptyServer _)

/-- A server that lists one claim, finds the cluster and refuses every delete. -/
def refusingServer : (request : Request) → request.Response
  | .list .persistentVolumeClaim .. => .ok [{ metadata := { name := some "data-events-0" } }]
  | .get .streamlineCluster .. => .ok cleanupCluster
  | .delete .. => .error ⟨some 403, "forbidden"⟩
  | .httpDelete _ => .ok ⟨503, "Service Unavailable", "", none⟩
  | request => emptyServer request

/-- Three of the four cleanups complete although their deletes are refused. -/
theorem completes_refused :
    ¬ CompletesWhenGoneOn refusingServer (.scaledObject cleanupCluster "streamline" {} rfl) ∧
      ¬ CompletesWhenGoneOn refusingServer (.clusterDeletion cleanupCluster "streamline") ∧
      ¬ CompletesWhenGoneOn refusingServer (.topicDeletion cleanupTopic "streamline") := by
  refine ⟨?_, ?_, ?_⟩ <;> intro hgone
  · exact absurd (hgone (.inl rfl) _ List.mem_cons_self) (by decide)
  · have hdelete := hgone (.inl rfl) _ (List.mem_cons_of_mem _ List.mem_cons_self)
    exact absurd hdelete (by decide)
  · have hdelete := hgone (.inl rfl) _ (List.mem_cons_of_mem _ List.mem_cons_self)
    exact absurd hdelete (by decide)

end StreamlineOperator.Controllers
