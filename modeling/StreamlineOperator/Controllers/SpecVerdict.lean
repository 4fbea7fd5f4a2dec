/- source: src/src/controllers/{cluster,topic}.rs (reconcile)
   digest: What the gates on a spec decide about every reconcile of every object that has it. -/

import StreamlineOperator.Controllers.FirstWrite
import StreamlineOperator.Controllers.Rescheduling

set_option autoImplicit false
set_option relaxedAutoImplicit false

namespace StreamlineOperator.Controllers

open Foundation
open Kubernetes
open Conditions
open Program (Always Runs)
open Crd (ClusterSpec TopicSpec StreamlineCluster StreamlineTopic CustomResource)

/-- If the request is a status patch, its body is one of these. -/
def PublishesOnly (allowed : Json → Prop) (e : ApiExchange) : Prop :=
  ∀ kind namespaceName name body, e.request = .patchStatus kind namespaceName name body →
    allowed body

theorem publishesOnly_patch {allowed : Json → Prop} {kind : Kind} {namespaceName name : String}
    {body : Json} (h : allowed body) (r) :
    PublishesOnly allowed ⟨.patchStatus kind namespaceName name body, r⟩ := by
  intro kind' namespaceName' name' body' heq
  obtain ⟨-, -, -, rfl⟩ := Request.patchStatus.inj heq
  exact h

theorem publishesOnly_of_not {allowed : Json → Prop} {e : ApiExchange}
    (h : e.request.isStatusPatch = false) : PublishesOnly allowed e := by
  intro kind namespaceName name body heq
  rw [heq] at h
  cases h

/-- `P` holds of every run of the reconcile of every object with this spec that is not
being deleted. -/
def EveryRun {Spec Status : Type} (reconcile : CustomResource Spec Status → Operation Action)
    (spec : Spec)
    (P : CustomResource Spec Status → List ApiExchange → Except OperatorError Action → Prop) :
    Prop :=
  ∀ object : CustomResource Spec Status, object.spec = spec →
    object.metadata.deletionTimestamp = none →
      ∀ tr res, Runs (reconcile object) tr res → P object tr res

section Server

variable {α : Type} {S : List ApiExchange → α → Prop} {p : Operation α}

theorem propagated_emptyServer (request : Request) :
    propagated ⟨request, emptyServer request⟩ = none := by
  cases request with
  | delete kind namespaceName name => cases kind <;> rfl
  | _ => rfl

theorem answer_emptyServer (hp : Program.FailsFast propagated S p) :
    ∃ a, Runs p (p.answer emptyServer).1 (.ok a) ∧ S (p.answer emptyServer).1 a := by
  have hruns := Program.runs_answer emptyServer p
  cases hres : (p.answer emptyServer).2 with
  | ok a =>
    rw [hres] at hruns
    exact ⟨a, hruns, (hp _ _ hruns).post⟩
  | error e =>
    rw [hres] at hruns
    have hfirst := (hp _ _ hruns).findSome_failure
    obtain ⟨d, hd, hfailed⟩ := List.exists_of_findSome?_eq_some hfirst
    rw [Program.response_of_mem_answer hd, propagated_emptyServer] at hfailed
    cases hfailed

end Server

namespace ClusterController

/-- A run for a spec the operator renders. -/
structure RolledOut (cluster : StreamlineCluster) (tr : List ApiExchange)
    (res : Except OperatorError Action) : Prop where
  publishes : ∀ e ∈ tr, PublishesOnly (fun body => ∃ clock readyCount, body =
    Crd.statusPatch (observedStatus clock cluster cluster.namespaceOrDefault readyCount)) e
  writes : ∀ action, res = .ok action → WritesChildren cluster tr res
  returns : ∀ action, res = .ok action → action = .requeue 60

/-- A run for a spec the operator refuses with this message. -/
structure Refused (message : String) (cluster : StreamlineCluster) (tr : List ApiExchange)
    (res : Except OperatorError Action) : Prop where
  publishes : ∀ e ∈ tr, PublishesOnly (fun body => ∃ clock, body =
    Crd.statusPatch (invalidStatus clock cluster message)) e
  writesNothing : ∀ e ∈ tr, e.request.isWorkloadWrite = false
  returns : ∀ action, res = .ok action → action = .requeue 300

variable {cluster : StreamlineCluster} {spec : ClusterSpec}

theorem always_reconcile {P : ApiExchange → Prop}
    (hlive : cluster.metadata.deletionTimestamp = none)
    (hmetric : ∀ event, P ⟨.metric event, ()⟩)
    (hfinalizer : ∀ body r, P ⟨.applyJson .streamlineCluster cluster.namespaceOrDefault
      cluster.metadata.nameAny true body, r⟩)
    (hdelete : ∀ name r, P ⟨.delete .horizontalPodAutoscaler cluster.namespaceOrDefault name, r⟩)
    (hrest : Always P (afterCleanup cluster cluster.namespaceOrDefault)) :
    Always P (reconcile cluster) := by
  rw [reconcile_live_eq hlive]
  refine Program.always_bind (always_sendMetric (hmetric _)) ?_
  intro _
  refine Program.always_bind (always_ensureFinalizer fun r => hfinalizer _ r) ?_
  intro _
  refine Program.always_bind ?_ fun _ => hrest
  intro tr res hruns
  obtain ⟨r, rfl, -⟩ := AutoScalingController.runs_deleteHpa hruns
  rw [List.forall_mem_singleton]
  exact hdelete _ r

theorem refused_of_validate {errors : List String} (hspec : spec.validate = .error errors) :
    EveryRun reconcile spec (Refused ("; ".intercalate errors)) := by
  intro cluster heq hlive tr res hruns
  subst heq
  have hcleanup : afterCleanup cluster cluster.namespaceOrDefault =
      rejectSpec cluster cluster.namespaceOrDefault errors := by
    rw [afterCleanup, hspec]
  have hquiet : ∀ {P : ApiExchange → Prop}, (∀ clock, P ⟨.clock, clock⟩) →
      (∀ clock r, P ⟨.patchStatus .streamlineCluster cluster.namespaceOrDefault cluster.nameAny
        (Crd.statusPatch (invalidStatus clock cluster ("; ".intercalate errors))), r⟩) →
      (∀ event, P ⟨.metric event, ()⟩) →
      Always P (afterCleanup cluster cluster.namespaceOrDefault) := by
    intro P hclock hpatch hmetric
    rw [hcleanup]
    refine Program.always_bind (always_publish hclock hpatch) ?_
    intro _
    exact Program.always_then (always_sendMetric (hmetric _))
  refine ⟨?_, ?_, ?_⟩
  · refine always_reconcile hlive (fun _ => publishesOnly_of_not rfl)
      (fun _ _ => publishesOnly_of_not rfl) (fun _ _ => publishesOnly_of_not rfl)
      (hquiet (fun _ => publishesOnly_of_not rfl) ?_ fun _ => publishesOnly_of_not rfl) tr res hruns
    intro clock r
    exact publishesOnly_patch ⟨clock, rfl⟩ r
  · exact always_reconcile hlive (fun _ => rfl) (fun _ _ => rfl) (fun _ _ => rfl)
      (hquiet (fun _ => rfl) (fun _ _ => rfl) fun _ => rfl) tr res hruns
  · intro action hres
    subst hres
    rw [(failsFast_reconcile tr _ hruns).post, due, hlive, liveDue, hspec]
    rfl

theorem afterCleanup_of_validate {namespaceName : String} (h : cluster.spec.validate = .ok ()) :
    afterCleanup cluster namespaceName =
      (reconcileConfigmap cluster namespaceName).bind fun _ =>
        (reconcileHeadlessService cluster namespaceName).bind fun _ =>
          (reconcileClientService cluster namespaceName).bind fun _ =>
            (reconcileStatefulset cluster namespaceName).bind fun _ =>
              (updateStatus cluster namespaceName).bind fun _ =>
                (sendMetric .incSuccess).bind fun _ => .ok (.requeue 60) := by
  rw [← renderSpec_eq, afterCleanup, h]

theorem leaves_behind_gate {E : ApiExchange → Prop}
    (hlive : cluster.metadata.deletionTimestamp = none)
    (h : Program.Leaves E (afterCleanup cluster cluster.namespaceOrDefault)) :
    Program.Leaves E (reconcile cluster) := by
  rw [reconcile_live_eq hlive]
  refine Program.leaves_bind_right ?_
  intro _
  refine Program.leaves_bind_right ?_
  intro _
  refine Program.leaves_bind_right ?_
  intro _
  exact h

theorem leaves_written {kind : Kind} {namespaceName name : String} {object : kind.Object}
    (hname : kind.objectName object = name) :
    Program.Leaves (hasWritten kind name) (getThenWrite kind namespaceName name object) := by
  refine leaves_getThenWrite ⟨rfl, rfl⟩ ?_
  exact ⟨congrArg (fun name => some (kind, name)) hname, rfl⟩

theorem writesChildren_of_validate (hvalid : cluster.spec.validate = .ok ())
    (hlive : cluster.metadata.deletionTimestamp = none) {tr : List ApiExchange} {action : Action}
    (hruns : Runs (reconcile cluster) tr (.ok action)) :
    WritesChildren cluster tr (.ok action) := by
  have hleaves : ∀ E : ApiExchange → Prop,
      Program.Leaves E (reconcileConfigmap cluster cluster.namespaceOrDefault) ∨
        Program.Leaves E (reconcileHeadlessService cluster cluster.namespaceOrDefault) ∨
        Program.Leaves E (reconcileClientService cluster cluster.namespaceOrDefault) ∨
        Program.Leaves E (reconcileStatefulset cluster cluster.namespaceOrDefault) →
      ∃ e ∈ tr, E e := by
    intro E h
    refine leaves_behind_gate hlive ?_ tr action hruns
    rw [afterCleanup_of_validate hvalid]
    rcases h with h | h | h | h
    · exact Program.leaves_bind_left h
    · refine Program.leaves_bind_right fun _ => ?_
      exact Program.leaves_bind_left h
    · refine Program.leaves_bind_right fun _ => Program.leaves_bind_right fun _ => ?_
      exact Program.leaves_bind_left h
    · refine Program.leaves_bind_right fun _ => Program.leaves_bind_right fun _ =>
        Program.leaves_bind_right fun _ => ?_
      exact Program.leaves_bind_left h
  refine ⟨⟨action, rfl⟩, ?_, ?_, ?_, ?_⟩
  · exact hleaves _ (.inl (leaves_written rfl))
  · exact hleaves _ (.inr (.inl (leaves_written rfl)))
  · exact hleaves _ (.inr (.inr (.inl (leaves_written rfl))))
  · exact hleaves _ (.inr (.inr (.inr (leaves_written rfl))))

theorem rolledOut_of_validate (hspec : spec.validate = .ok ()) :
    EveryRun reconcile spec RolledOut := by
  intro cluster heq hlive tr res hruns
  subst heq
  refine ⟨?_, ?_, ?_⟩
  · refine always_reconcile hlive (fun _ => publishesOnly_of_not rfl)
      (fun _ _ => publishesOnly_of_not rfl) (fun _ _ => publishesOnly_of_not rfl) ?_ tr res hruns
    rw [afterCleanup_of_validate hspec]
    have hwrite : ∀ {allowed : Json → Prop} {kind : Kind} {name : String} {object : kind.Object},
        Always (PublishesOnly allowed)
          (getThenWrite kind cluster.namespaceOrDefault name object) := by
      intro allowed kind name object
      exact always_getThenWrite (fun _ => publishesOnly_of_not rfl)
        (fun _ => publishesOnly_of_not rfl) (fun _ => publishesOnly_of_not rfl)
    refine Program.always_bind hwrite fun _ => Program.always_bind hwrite fun _ =>
      Program.always_bind hwrite fun _ => Program.always_bind hwrite fun _ =>
        Program.always_bind ?_ fun _ =>
          Program.always_then (always_sendMetric (publishesOnly_of_not rfl))
    refine Program.always_send_bind (fun _ => publishesOnly_of_not rfl) ?_
    intro listed
    refine Program.always_bind (always_orKubeApi listed) ?_
    intro items
    refine always_publish (fun _ => publishesOnly_of_not rfl) ?_
    intro clock r
    exact publishesOnly_patch ⟨clock, _, rfl⟩ r
  · intro action hres
    subst hres
    exact writesChildren_of_validate hspec hlive hruns
  · intro action hres
    subst hres
    rw [(failsFast_reconcile tr _ hruns).post, due, hlive, liveDue, hspec]
    rfl

/-- `validate` accepts exactly the specs that are rolled out. -/
theorem everyRun_rolledOut_iff :
    EveryRun reconcile spec RolledOut ↔ spec.validate = .ok () := by
  refine ⟨?_, rolledOut_of_validate⟩
  intro h
  cases hspec : spec.validate with
  | ok _ => rfl
  | error errors =>
    obtain ⟨action, hruns, -⟩ :=
      answer_emptyServer (@failsFast_reconcile { metadata := {}, spec, status := none })
    have hout := (h _ rfl rfl _ _ hruns).returns action rfl
    have hrefused := (refused_of_validate hspec _ rfl rfl _ _ hruns).returns action rfl
    rw [hout] at hrefused
    cases hrefused

end ClusterController

namespace TopicController

/-- A run for a spec the operator takes to the cluster. -/
structure Taken (topic : StreamlineTopic) (tr : List ApiExchange)
    (res : Except OperatorError Action) : Prop where
  publishes : ∀ e ∈ tr, PublishesOnly (fun body => ∃ (b : Build) (clock : Clock),
    (∀ message, b ≠ .unsupported message) ∧ body = Crd.statusPatch (b.build clock topic)) e
  posts : (∀ e ∈ tr, FindsReady topic e) → ∀ action, res = .ok action → ReachesPost topic tr
  returns : ∀ action, res = .ok action → action ≠ .requeue 300

/-- A run for a spec the operator refuses with this message. -/
structure Refused (message : String) (topic : StreamlineTopic) (tr : List ApiExchange)
    (res : Except OperatorError Action) : Prop where
  publishes : ∀ e ∈ tr, PublishesOnly (fun body => ∃ clock, body =
    Crd.statusPatch (unsupportedStatus clock topic message)) e
  asksNothing : ∀ e ∈ tr, e.request.url = none
  returns : ∀ action, res = .ok action → action = .requeue 300

variable {topic : StreamlineTopic} {spec : TopicSpec}

theorem always_reconcile {P : ApiExchange → Prop}
    (hlive : topic.metadata.deletionTimestamp = none) (hmetric : ∀ event, P ⟨.metric event, ()⟩)
    (hfinalizer : ∀ body r, P ⟨.applyJson .streamlineTopic topic.namespaceOrDefault
      topic.metadata.nameAny true body, r⟩)
    (hreject : ∀ unsupported, unsupportedFields topic.spec = unsupported → unsupported ≠ [] →
      Always P (rejectSpec topic topic.namespaceOrDefault unsupported))
    (happly : unsupportedFields topic.spec = [] →
      Always P (applySpec topic topic.namespaceOrDefault)) :
    Always P (reconcile topic) := by
  refine Program.always_bind (always_sendMetric (hmetric _)) ?_
  intro _
  rw [hlive]
  refine Program.always_bind (always_ensureFinalizer fun r => hfinalizer _ r) ?_
  intro _
  dsimp only
  split
  · rename_i hrefused
    exact hreject _ rfl (by simpa using hrefused)
  · rename_i haccepted
    exact happly (by simpa using haccepted)

theorem refused_of_unsupported (hspec : unsupportedFields spec ≠ []) :
    EveryRun reconcile spec (Refused ("; ".intercalate (unsupportedFields spec))) := by
  intro topic heq hlive tr res hruns
  subst heq
  have hgate : ∀ {P : ApiExchange → Prop}, (∀ clock, P ⟨.clock, clock⟩) →
      (∀ clock r, P ⟨.patchStatus .streamlineTopic topic.namespaceOrDefault topic.nameAny
        (Crd.statusPatch (unsupportedStatus clock topic
          ("; ".intercalate (unsupportedFields topic.spec)))), r⟩) →
      (∀ event, P ⟨.metric event, ()⟩) →
      (∀ body r, P ⟨.applyJson .streamlineTopic topic.namespaceOrDefault topic.metadata.nameAny
        true body, r⟩) → Always P (reconcile topic) := by
    intro P hclock hpatch hmetric hfinalizer
    refine always_reconcile hlive hmetric hfinalizer ?_ (fun haccepted => absurd haccepted hspec)
    intro unsupported hunsupported _
    subst hunsupported
    refine Program.always_bind (always_publish hclock hpatch) ?_
    intro _
    exact Program.always_then (always_sendMetric (hmetric _))
  refine ⟨?_, ?_, ?_⟩
  · refine hgate (fun _ => publishesOnly_of_not rfl) ?_ (fun _ => publishesOnly_of_not rfl)
      (fun _ _ => publishesOnly_of_not rfl) tr res hruns
    intro clock r
    exact publishesOnly_patch ⟨clock, rfl⟩ r
  · exact hgate (fun _ => rfl) (fun _ _ => rfl) (fun _ => rfl) (fun _ _ => rfl) tr res hruns
  · intro action hres
    subst hres
    have hgate : (unsupportedFields topic.spec).isEmpty = false := by simpa using hspec
    rw [(failsFast_reconcile tr _ hruns).post, due, hlive, hgate]
    rfl

/-- What a topic that is taken may say of itself. -/
abbrev SaysTaken (topic : StreamlineTopic) : ApiExchange → Prop :=
  PublishesOnly (fun body => ∃ (b : Build) (clock : Clock),
    (∀ message, b ≠ .unsupported message) ∧ body = Crd.statusPatch (b.build clock topic))

theorem publish_saysTaken {namespaceName : String} (b : Build)
    (hb : ∀ message, b ≠ .unsupported message) :
    Always (SaysTaken topic) (publish .streamlineTopic topic namespaceName
      (fun clock topic => b.build clock topic)) := by
  refine always_publish (fun _ => publishesOnly_of_not rfl) ?_
  intro clock r
  exact publishesOnly_patch ⟨b, clock, hb, rfl⟩ r

theorem applySpec_saysTaken {namespaceName : String} :
    Always (SaysTaken topic) (applySpec topic namespaceName) := by
  refine Program.always_send_bind (fun _ => publishesOnly_of_not rfl) ?_
  intro found
  cases found with
  | error e =>
    exact Program.always_then (publish_saysTaken (.error _) (fun _ heq => by cases heq))
  | ok cluster =>
    dsimp only
    split
    · refine Program.always_bind ?_ ?_
      · refine Program.always_attempt ?_
        intro tr outcome hruns
        obtain ⟨answer, rest, rfl, hrest, -⟩ := runs_create hruns
        rw [List.forall_mem_cons]
        refine ⟨publishesOnly_of_not rfl, ?_⟩
        intro e he
        obtain ⟨read, rfl⟩ := hrest e he
        exact publishesOnly_of_not rfl
      · intro outcome
        cases outcome with
        | error e =>
          exact Program.always_then (publish_saysTaken (.error _) (fun _ heq => by cases heq))
        | ok state =>
          dsimp only
          rw [updateStatusFromServer_eq]
          refine Program.always_bind (publish_saysTaken (serverBuild topic.spec state) ?_) ?_
          · intro message
            unfold serverBuild
            split <;> exact fun heq => by cases heq
          · intro _
            exact Program.always_then (always_sendMetric (publishesOnly_of_not rfl))
    · exact Program.always_then (publish_saysTaken (.pending _) (fun _ heq => by cases heq))

theorem applySpec_reachesPost {tr : List ApiExchange} {res : Except OperatorError Action}
    (hready : ∀ e ∈ tr, FindsReady topic e)
    (hruns : Runs (applySpec topic topic.namespaceOrDefault) tr res) : ReachesPost topic tr := by
  simp only [applySpec, send, Program.bind_eq, Program.send_bind, Program.runs_call] at hruns
  obtain ⟨found, rest, rfl, hruns⟩ := hruns
  obtain ⟨cluster, rfl, hcluster⟩ := hready _ List.mem_cons_self rfl rfl
  simp only [hcluster, if_true] at hruns
  obtain ⟨answer, after, rfl, -⟩ := runs_syncTopic hruns
  exact ⟨_, List.mem_cons_of_mem _ List.mem_cons_self, _, rfl⟩

theorem reconcile_reachesPost (hlive : topic.metadata.deletionTimestamp = none)
    (haccepted : unsupportedFields topic.spec = []) {tr : List ApiExchange} {action : Action}
    (hready : ∀ e ∈ tr, FindsReady topic e) (hruns : Runs (reconcile topic) tr (.ok action)) :
    ReachesPost topic tr := by
  have hpart : ∀ {before after : List ApiExchange}, ReachesPost topic after →
      ReachesPost topic (before ++ after) := by
    intro before after hpost
    obtain ⟨e, he, hurl⟩ := hpost
    exact ⟨e, List.mem_append_right _ he, hurl⟩
  rcases Program.runs_bind.mp hruns with ⟨_, -, heq⟩ | ⟨_, first, rest, rfl, -, hrest⟩
  · cases heq
  rw [hlive] at hrest
  rcases Program.runs_bind.mp hrest with ⟨_, -, heq⟩ | ⟨_, second, last, rfl, -, hlast⟩
  · cases heq
  simp only [haccepted, List.isEmpty_nil, Bool.not_true, Bool.false_eq_true, if_false] at hlast
  refine hpart (hpart (applySpec_reachesPost ?_ hlast))
  intro e he
  exact hready e (List.mem_append_right _ (List.mem_append_right _ he))

theorem appliedDue_ne (tr : List ApiExchange) : appliedDue tr ≠ .requeue 300 := by
  unfold appliedDue
  split <;> split <;> decide

theorem taken_of_supported (hspec : unsupportedFields spec = []) :
    EveryRun reconcile spec Taken := by
  intro topic heq hlive tr res hruns
  subst heq
  refine ⟨?_, ?_, ?_⟩
  · exact always_reconcile hlive (fun _ => publishesOnly_of_not rfl)
      (fun _ _ => publishesOnly_of_not rfl)
      (fun unsupported heq hne => absurd (heq.symm.trans hspec) hne)
      (fun _ => applySpec_saysTaken) tr res hruns
  · intro hready action hres
    subst hres
    exact reconcile_reachesPost hlive hspec hready hruns
  · intro action hres
    subst hres
    rw [(failsFast_reconcile tr _ hruns).post, due, hlive, hspec]
    exact appliedDue_ne tr

/-- `unsupported_fields` is empty for exactly the specs that are taken to the cluster. -/
theorem everyRun_taken_iff : EveryRun reconcile spec Taken ↔ unsupportedFields spec = [] := by
  refine ⟨?_, taken_of_supported⟩
  intro h
  by_contra hspec
  obtain ⟨action, hruns, -⟩ :=
    answer_emptyServer (@failsFast_reconcile { metadata := {}, spec, status := none })
  have htaken := (h _ rfl rfl _ _ hruns).returns action rfl
  exact htaken ((refused_of_unsupported hspec _ rfl rfl _ _ hruns).returns action rfl)

end TopicController

end StreamlineOperator.Controllers
