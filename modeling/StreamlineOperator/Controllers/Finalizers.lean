/- source: src/src/controllers/{cluster,topic,user}.rs (finalizer removal)
   digest: When removing the operator's finalizer leaves the other finalizers alone. -/

import StreamlineOperator.Controllers.ClusterReconcile
import StreamlineOperator.Controllers.Topic
import StreamlineOperator.Controllers.User

set_option autoImplicit false
set_option relaxedAutoImplicit false

namespace StreamlineOperator.Controllers

open Foundation
open Kubernetes
open Conditions (clusterFinalizer topicFinalizer userFinalizer)
open Crd (StreamlineCluster StreamlineTopic StreamlineUser)

/-! The finalizers of a stored object, and what may happen to them. -/

/-- The finalizers the API server stores, and whether the object is being deleted. -/
structure StoredFinalizers where
  finalizers : List String
  deleting : Bool
  deriving DecidableEq, Repr

/-- An atomic step of somebody else. An addition may go anywhere in the list. -/
inductive FinalizerEdit where
  | add (finalizer : String) (position : Nat)
  | remove (finalizer : String)
  | delete
  deriving DecidableEq, Repr

namespace StoredFinalizers

/-- The list without one finalizer. -/
def without (self : StoredFinalizers) (finalizer : String) : List String :=
  self.finalizers.filter (fun f => f ≠ finalizer)

/-- Nothing can be added to an object that is being deleted. -/
def edit (self : StoredFinalizers) : FinalizerEdit → StoredFinalizers
  | .add finalizer position =>
    if self.deleting || self.finalizers.contains finalizer then self
    else { self with finalizers := self.finalizers.insertIdx position finalizer }
  | .remove finalizer => { self with finalizers := self.without finalizer }
  | .delete => { self with deleting := true }

def edits (self : StoredFinalizers) (steps : List FinalizerEdit) : StoredFinalizers :=
  steps.foldl edit self

/-- A merge patch replaces the list, unless it adds to an object being deleted. -/
def replace (self : StoredFinalizers) (finalizers : List String) : Option StoredFinalizers :=
  if self.deleting && finalizers.any (fun f => !self.finalizers.contains f) then none
  else some { self with finalizers }

theorem edits_of_deleting {copy : StoredFinalizers} (h : copy.deleting = true)
    (steps : List FinalizerEdit) :
    ∃ keep : String → Bool, copy.edits steps = ⟨copy.finalizers.filter keep, true⟩ := by
  obtain ⟨finalizers, deleting⟩ := copy
  obtain rfl : deleting = true := h
  have hgeneral : ∀ (steps : List FinalizerEdit) (keep : String → Bool),
      ∃ keep' : String → Bool,
        (⟨finalizers.filter keep, true⟩ : StoredFinalizers).edits steps =
          ⟨finalizers.filter keep', true⟩ := by
    intro steps
    induction steps with
    | nil => exact fun keep => ⟨keep, rfl⟩
    | cons step steps ih =>
      intro keep
      cases step with
      | add finalizer position => exact ih keep
      | remove finalizer =>
        obtain ⟨keep', hkeep⟩ := ih (fun f => decide (f ≠ finalizer) && keep f)
        exact ⟨keep', by simpa [edits, edit, without, List.filter_filter] using hkeep⟩
      | delete => exact ih keep
  obtain ⟨keep, hkeep⟩ := hgeneral steps (fun _ => true)
  have hall : finalizers.filter (fun _ => true) = finalizers :=
    List.filter_eq_self.mpr fun _ _ => rfl
  rw [hall] at hkeep
  exact ⟨keep, hkeep⟩

theorem replace_finalizers {stored after : StoredFinalizers} {finalizers : List String}
    (h : stored.replace finalizers = some after) : after.finalizers = finalizers := by
  unfold replace at h
  split at h
  · cases h
  · obtain rfl := Option.some.inj h
    rfl

theorem replace_of_deleting {copy after : StoredFinalizers} {steps : List FinalizerEdit}
    {own : String} (h : copy.deleting = true)
    (hafter : (copy.edits steps).replace (copy.without own) = some after) :
    after.finalizers = (copy.edits steps).without own := by
  obtain ⟨keep, hnow⟩ := edits_of_deleting h steps
  rw [hnow] at hafter ⊢
  unfold replace at hafter
  split at hafter
  · cases hafter
  rename_i haccepted
  obtain rfl := Option.some.inj hafter
  simp only [Bool.true_and, Bool.not_eq_true, List.any_eq_false, Bool.not_eq_true',
    Bool.not_eq_false, List.contains_iff_mem, List.mem_filter] at haccepted
  simp only [without, List.filter_filter]
  apply List.filter_congr
  intro f hf
  by_cases hown : f = own
  · simp [hown]
  · have hkept := (haccepted f (by simp [without, hf, hown])).2
    simp [hown, hkept]

end StoredFinalizers

/-! The operator's removals. -/

/-- A reconcile that may remove a finalizer, with the object as it was read. -/
inductive FinalizerRemoval (Spec : Type) where
  | cluster (cluster : StreamlineCluster)
  | topic (topic : StreamlineTopic)
  | user (user : StreamlineUser Spec)

namespace FinalizerRemoval

variable {Spec : Type}

def reconcile : FinalizerRemoval Spec → Operation Action
  | cluster c => ClusterController.reconcile c
  | topic t => TopicController.reconcile t
  | user u => UserController.reconcile u

def metadata : FinalizerRemoval Spec → ObjectMeta
  | cluster c => c.metadata
  | topic t => t.metadata
  | user u => u.metadata

/-- The operator's own finalizer. -/
def own : FinalizerRemoval Spec → String
  | cluster _ => clusterFinalizer
  | topic _ => topicFinalizer
  | user _ => userFinalizer

def isUser : FinalizerRemoval Spec → Bool
  | user _ => true
  | _ => false

/-- What was stored when the object was read. -/
def copy (self : FinalizerRemoval Spec) : StoredFinalizers where
  finalizers := self.metadata.finalizerList
  deleting := self.metadata.deletionTimestamp.isSome

end FinalizerRemoval

/-- The list that a merge patch sets `metadata.finalizers` to. -/
def patchedFinalizers (body : Json) : Option (List String) :=
  (body.members.lookup "metadata").bind fun metadata =>
    (metadata.members.lookup "finalizers").bind (Decoder.list Decoder.string)

theorem patchedFinalizers_finalizersPatch (finalizers : List String) :
    patchedFinalizers (finalizersPatch finalizers) = some finalizers := by
  have hread := (Decoder.list_inverts (d := Decoder.string) Decoder.string_inverts.decode).decode
    finalizers
  simpa [patchedFinalizers, finalizersPatch, Json.members, Members.lookup_cons] using hread

/-- If the object was changed by `steps` since it was read and a finalizer patch
of the reconcile is accepted, then it took away the operator's own and no other. -/
def RemovesOnlyOwn {Spec : Type} (removal : FinalizerRemoval Spec) (steps : List FinalizerEdit) :
    Prop :=
  ∀ tr res, Program.Runs removal.reconcile tr res →
    ∀ e ∈ tr, ∀ kind namespaceName name body,
      e.request = .mergePatch kind namespaceName name body →
      ∀ finalizers, patchedFinalizers body = some finalizers →
      ∀ after, (removal.copy.edits steps).replace finalizers = some after →
        after.finalizers = (removal.copy.edits steps).without removal.own

/-- Nothing is lost: the object is no user, or it was being deleted when it was
read, or no patch is made, or the others' finalizers are as they were, or the
patch is refused. -/
def Undisturbed {Spec : Type} (removal : FinalizerRemoval Spec) (steps : List FinalizerEdit) :
    Prop :=
  removal.isUser = false ∨ removal.copy.deleting = true ∨
    removal.own ∉ removal.copy.finalizers ∨
    (removal.copy.edits steps).without removal.own = removal.copy.without removal.own ∨
    (removal.copy.edits steps).replace (removal.copy.without removal.own) = none

section Patches

variable {Spec : Type}

/-- The one merge patch there may be sets these finalizers, under a condition. -/
def PatchesOnly (condition : Prop) (finalizers : List String) (e : ApiExchange) : Prop :=
  ∀ kind namespaceName name body, e.request = .mergePatch kind namespaceName name body →
    condition ∧ body = finalizersPatch finalizers

/-- The condition under which a reconcile patches finalizers at all. -/
def FinalizerRemoval.Patches (removal : FinalizerRemoval Spec) : Prop :=
  match removal with
  | .cluster _ => removal.copy.deleting = true
  | .topic _ => removal.copy.deleting = true
  | .user _ => removal.own ∈ removal.copy.finalizers

section Rules

variable {condition : Prop} {finalizers : List String}

theorem patchesOnly_of_ne {e : ApiExchange}
    (h : ∀ kind namespaceName name body, e.request ≠ .mergePatch kind namespaceName name body) :
    PatchesOnly condition finalizers e := by
  intro kind namespaceName name body hbody
  exact absurd hbody (h kind namespaceName name body)

private theorem patchesOnly_sendMetric {event : MetricEvent} :
    Program.Always (PatchesOnly condition finalizers) (sendMetric event) :=
  always_sendMetric (patchesOnly_of_ne nofun)

private theorem patchesOnly_publish {S R : Type} [PublishedStatus S] [DecidableEq S] {kind : Kind}
    {object : Crd.CustomResource R S} {namespaceName : String}
    {build : Conditions.Clock → Crd.CustomResource R S → S} :
    Program.Always (PatchesOnly condition finalizers) (publish kind object namespaceName build) :=
  always_publish (fun _ => patchesOnly_of_ne nofun) (fun _ _ => patchesOnly_of_ne nofun)

private theorem patchesOnly_finalizers {kind : Kind} {namespaceName name : String}
    {r : Except KubeError Unit} (h : condition) :
    PatchesOnly condition finalizers
      ⟨.mergePatch kind namespaceName name (finalizersPatch finalizers), r⟩ := by
  intro kind' namespaceName' name' body hbody
  obtain ⟨-, -, -, rfl⟩ := Request.mergePatch.inj hbody
  exact ⟨h, rfl⟩

private theorem patchesOnly_getThenWrite {kind : Kind} {namespaceName name : String}
    {object : kind.Object} : Program.Always (PatchesOnly condition finalizers)
      (getThenWrite kind namespaceName name object) := by
  apply always_getThenWrite <;> exact fun _ => patchesOnly_of_ne nofun

end Rules

private theorem clusterDeletion_patches {condition : Prop} (h : condition)
    (cluster : StreamlineCluster) (namespaceName : String) :
    Program.Always (PatchesOnly condition
        (cluster.metadata.finalizerList.filter (fun f => f ≠ clusterFinalizer)))
      (ClusterController.handleDeletion cluster namespaceName) := by
  apply ClusterController.always_handleDeletion
  · exact fun _ => patchesOnly_of_ne nofun
  · exact fun _ _ => patchesOnly_of_ne nofun
  · exact fun _ => patchesOnly_finalizers h

private theorem clusterLive_patches {condition : Prop} {finalizers : List String}
    (cluster : StreamlineCluster) (namespaceName : String) :
    Program.Always (PatchesOnly condition finalizers)
      (ClusterController.reconcileLive cluster namespaceName) := by
  rw [ClusterController.reconcileLive_eq]
  refine Program.always_bind (always_ensureFinalizer fun _ => patchesOnly_of_ne nofun) ?_
  intro _
  refine Program.always_bind ?_ ?_
  · intro tr res h
    obtain ⟨r, rfl, -⟩ := AutoScalingController.runs_deleteHpa h
    rw [List.forall_mem_singleton]
    exact patchesOnly_of_ne nofun
  · intro _
    apply ClusterController.afterCleanup_always
    · exact fun _ => patchesOnly_of_ne nofun
    · exact fun _ => patchesOnly_of_ne nofun
    · exact fun _ => patchesOnly_of_ne nofun
    · exact fun _ _ => patchesOnly_of_ne nofun
    · exact fun _ => ⟨patchesOnly_getThenWrite, patchesOnly_getThenWrite, patchesOnly_getThenWrite,
        patchesOnly_getThenWrite⟩

private theorem topic_patches {topic : StreamlineTopic} {tr : List ApiExchange}
    {res : Except OperatorError Action}
    (h : Program.Runs (TopicController.reconcile topic) tr res) :
    ∀ e ∈ tr, PatchesOnly (topic.metadata.deletionTimestamp.isSome = true)
      (topic.metadata.finalizerList.filter (fun f => f ≠ topicFinalizer)) e := by
  have hquiet : ∀ {e : ApiExchange}, e.request.isMergePatch = false →
      PatchesOnly (topic.metadata.deletionTimestamp.isSome = true)
        (topic.metadata.finalizerList.filter (fun f => f ≠ topicFinalizer)) e := by
    intro e hmerge
    apply patchesOnly_of_ne
    intro kind namespaceName name body hbody
    rw [hbody] at hmerge
    cases hmerge
  obtain ⟨tr', rfl, hrun⟩ := TopicController.runs_reconcile h
  rw [List.forall_mem_cons]
  refine ⟨hquiet rfl, ?_⟩
  rcases hrun with ⟨hdeleting, hdeletion⟩ | ⟨-, hlive⟩
  · obtain ⟨patched, -, ⟨cluster, deleted, rfl⟩ | ⟨e, rfl⟩⟩ :=
      TopicController.runs_handleDeletion hdeletion
    · simp only [List.forall_mem_cons]
      exact ⟨hquiet rfl, hquiet rfl, patchesOnly_finalizers hdeleting, by simp⟩
    · simp only [List.forall_mem_cons]
      exact ⟨hquiet rfl, patchesOnly_finalizers hdeleting, by simp⟩
  · cases hlive with
    | silent hsilent => exact fun e he => hquiet (hsilent e he).2
    | synced accepted ready hsilent sync =>
      obtain ⟨answer, rest, rfl, hrest⟩ := TopicController.runs_syncTopic sync
      rw [List.forall_mem_append, List.forall_mem_cons, List.forall_mem_cons]
      refine ⟨fun e he => hquiet (hsilent e he).2, hquiet rfl, hquiet rfl, ?_⟩
      intro e he
      rcases hrest e he with hnone | hread
      · exact hquiet hnone.2
      · exact hquiet (by rw [hread]; rfl)

/-- What a reconcile patches finalizers to, and when. -/
theorem reconcile_patches (removal : FinalizerRemoval Spec) :
    Program.Always (PatchesOnly removal.Patches (removal.copy.without removal.own))
      removal.reconcile := by
  cases removal with
  | cluster c =>
    refine Program.always_bind patchesOnly_sendMetric ?_
    intro _
    split
    · rename_i hdeleting
      exact clusterDeletion_patches hdeleting c _
    · exact clusterLive_patches c _
  | topic t => exact fun tr res h => topic_patches h
  | user u =>
    refine Program.always_bind patchesOnly_sendMetric ?_
    intro _
    refine Program.always_bind ?_ ?_
    · unfold UserController.removeFinalizerIfPresent
      split
      · exact Program.always_ok ()
      · rename_i hpresent
        exact always_removeFinalizer fun _ => patchesOnly_finalizers (not_not.mp hpresent)
    · intro _
      split
      · exact Program.always_ok _
      · refine Program.always_bind patchesOnly_publish ?_
        intro _
        exact Program.always_then patchesOnly_sendMetric

end Patches

section Users

variable {Spec : Type}

theorem user_patch_mem {user : StreamlineUser Spec} (server : (request : Request) → request.Response)
    (h : userFinalizer ∈ user.metadata.finalizerList) :
    ∃ e ∈ ((UserController.reconcile user).answer server).1, e.request =
      .mergePatch .streamlineUser user.namespaceOrDefault user.nameAny
        (finalizersPatch (user.metadata.finalizerList.filter (fun f => f ≠ userFinalizer))) := by
  have hremove : UserController.removeFinalizerIfPresent user user.namespaceOrDefault =
      removeFinalizer .streamlineUser userFinalizer user.metadata user.namespaceOrDefault := by
    simp only [UserController.removeFinalizerIfPresent, h, not_true_eq_false, if_false]
  have hmem : (⟨.mergePatch .streamlineUser user.namespaceOrDefault user.nameAny (finalizersPatch
        (user.metadata.finalizerList.filter (fun f => f ≠ userFinalizer))), server _⟩ : ApiExchange) ∈
      ((UserController.removeFinalizerIfPresent user user.namespaceOrDefault).answer server).1 := by
    rw [hremove]
    exact List.mem_cons_self
  have hin : _ ∈ ((UserController.reconcile user).answer server).1 :=
    Program.mem_answer_bind_right rfl (Program.mem_answer_bind_left hmem)
  exact ⟨_, hin, rfl⟩

end Users

/-- A removal takes away the operator's own finalizer and no other exactly when
it is undisturbed. -/
theorem removesOnlyOwn_iff {Spec : Type} (removal : FinalizerRemoval Spec)
    (steps : List FinalizerEdit) : RemovesOnlyOwn removal steps ↔ Undisturbed removal steps := by
  constructor
  · intro hremoves
    cases removal with
    | cluster c => exact .inl rfl
    | topic t => exact .inl rfl
    | user u =>
      by_cases hown : userFinalizer ∈ u.metadata.finalizerList
      · obtain ⟨e, he, hpatch⟩ := user_patch_mem emptyServer hown
        refine .inr (.inr (.inr ?_))
        cases hreplace : ((FinalizerRemoval.user u).copy.edits steps).replace
            ((FinalizerRemoval.user u).copy.without (FinalizerRemoval.user u).own) with
        | none => exact .inr rfl
        | some after =>
          have hafter := hremoves _ _ (Program.runs_answer emptyServer _) e he _ _ _ _ hpatch _
            (patchedFinalizers_finalizersPatch _) after hreplace
          exact .inl (hafter.symm.trans (StoredFinalizers.replace_finalizers hreplace))
      · exact .inr (.inr (.inl hown))
  · intro hundisturbed tr res hrun e he kind namespaceName name body hbody finalizers hread after
      hafter
    obtain ⟨hpatches, rfl⟩ := reconcile_patches removal tr res hrun e he _ _ _ _ hbody
    rw [patchedFinalizers_finalizersPatch] at hread
    obtain rfl := Option.some.inj hread
    have hdeleting : removal.copy.deleting = true →
        after.finalizers = (removal.copy.edits steps).without removal.own :=
      fun hd => StoredFinalizers.replace_of_deleting hd hafter
    rcases hundisturbed with huser | hd | habsent | hsame | hrefused
    · cases removal with
      | cluster c => exact hdeleting hpatches
      | topic t => exact hdeleting hpatches
      | user u => cases huser
    · exact hdeleting hd
    · cases removal with
      | cluster c => exact hdeleting hpatches
      | topic t => exact hdeleting hpatches
      | user u => exact absurd hpatches habsent
    · rw [StoredFinalizers.replace_finalizers hafter, hsame]
    · rw [hrefused] at hafter
      cases hafter

/-- A user with the finalizer of an earlier version. -/
def upgradedUser : StreamlineUser Unit where
  metadata :=
    { name := some "alice", namespaceName := some "streamline"
      finalizers := some [userFinalizer] }
  spec := ()
  status := none

/-- Another controller adds its finalizer between the operator's read and its
patch, and the patch takes it away again. -/
theorem finalizer_lost :
    ¬ RemovesOnlyOwn (.user upgradedUser) [.add "example.com/backup" 1] := by
  intro hremoves
  obtain ⟨e, he, hpatch⟩ := user_patch_mem emptyServer
    (show userFinalizer ∈ upgradedUser.metadata.finalizerList by decide)
  have hafter := hremoves _ _ (Program.runs_answer emptyServer _) e he _ _ _ _ hpatch _
    (patchedFinalizers_finalizersPatch _) ⟨[], false⟩ (by decide)
  exact absurd hafter (by decide)

end StreamlineOperator.Controllers
