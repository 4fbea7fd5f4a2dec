/- source: src/src/bin/validate-cloud-fixture.rs
   digest: The fixture check accepts what the reconciles roll out, and names what they refuse first. -/

import StreamlineOperator.Controllers.SpecVerdict

set_option autoImplicit false
set_option relaxedAutoImplicit false

namespace StreamlineOperator.CloudFixture

open Foundation
open Crd (StreamlineCluster StreamlineTopic)
open Controllers (EveryRun)

/-- The resources of each plan. -/
abbrev Plans (α : Type) := Std.ExtTreeMap String α

theorem findSome_toList_eq_some {α β : Type} {plans : Plans α} {f : String × α → Option β} {b : β}
    (h : plans.toList.findSome? f = some b) :
    ∃ plan a, plans[plan]? = some a ∧ f (plan, a) = some b ∧
      ∀ plan' a', plans[plan']? = some a' → compare plan' plan = .lt → f (plan', a') = none := by
  obtain ⟨before, entry, after, hlist, hentry, hbefore⟩ := List.findSome?_eq_some_iff.mp h
  have hmem : entry ∈ plans.toList := by
    rw [hlist]
    simp
  refine ⟨entry.1, entry.2, Std.ExtTreeMap.mem_toList_iff_getElem?_eq_some.mp hmem, hentry, ?_⟩
  intro plan' a' hget hlt
  have hmem' := Std.ExtTreeMap.mem_toList_iff_getElem?_eq_some.mpr hget
  have hsorted := @Std.ExtTreeMap.ordered_keys_toList _ _ _ plans _
  rw [hlist] at hmem' hsorted
  obtain ⟨-, hafter, -⟩ := List.pairwise_append.mp hsorted
  have hlater := (List.pairwise_cons.mp hafter).1
  rcases List.mem_append.mp hmem' with hmem' | hmem'
  · exact hbefore _ hmem'
  rcases List.mem_cons.mp hmem' with heq | hmem'
  · subst heq
    simp at hlt
  · have hgt := hlater _ hmem'
    have hswap : compare plan' entry.1 = (compare entry.1 plan').swap := Std.OrientedCmp.eq_swap
    rw [hgt, hlt] at hswap
    cases hswap

theorem findSome_toList_eq_none {α β : Type} {plans : Plans α} {f : String × α → Option β} :
    plans.toList.findSome? f = none ↔
      ∀ plan a, plans[plan]? = some a → f (plan, a) = none := by
  rw [List.findSome?_eq_none_iff]
  constructor
  · intro h plan a hget
    exact h _ (Std.ExtTreeMap.mem_toList_iff_getElem?_eq_some.mpr hget)
  · intro h entry hmem
    exact h entry.1 entry.2 (Std.ExtTreeMap.mem_toList_iff_getElem?_eq_some.mp hmem)

structure CloudOperatorFixture where
  streamlineClusters : Plans StreamlineCluster
  streamlineTopics : Plans StreamlineTopic

def clusterRejection (plan message : String) : String :=
  "streamlineClusters." ++ plan ++ " is rejected by ClusterSpec::validate(): " ++ message

def topicRejection (plan message : String) : String :=
  "streamlineTopics." ++ plan ++ " is rejected by TopicController::unsupported_fields(): " ++
    message

/-- What is wrong with the cluster of a plan. -/
def checkCluster (entry : String × StreamlineCluster) : Option String :=
  match entry.2.spec.validate with
  | .error errors => some (clusterRejection entry.1 ("; ".intercalate errors))
  | .ok _ => none

/-- What is wrong with the topic of a plan. -/
def checkTopic (entry : String × StreamlineTopic) : Option String :=
  let unsupported := Controllers.TopicController.unsupportedFields entry.2.spec
  if unsupported.isEmpty then none
  else some (topicRejection entry.1 ("; ".intercalate unsupported))

/-- The numbers of clusters and topics, or the text of the first error. `fromStr` is
`serde_json::from_str`, which the repository takes from outside. -/
def validateFixtureContents (fromStr : String → Option CloudOperatorFixture)
    (contents source : String) : Except String (Nat × Nat) :=
  match fromStr contents with
  | none => .error ("failed to deserialize cloud fixture " ++ source)
  | some fixture =>
    if fixture.streamlineClusters.isEmpty then
      .error "cloud fixture contains no StreamlineCluster resources"
    else if fixture.streamlineTopics.isEmpty then
      .error "cloud fixture contains no StreamlineTopic resources"
    else
      match fixture.streamlineClusters.toList.findSome? checkCluster with
      | some text => .error text
      | none =>
        match fixture.streamlineTopics.toList.findSome? checkTopic with
        | some text => .error text
        | none => .ok (fixture.streamlineClusters.size, fixture.streamlineTopics.size)

/-! What the check decides about the operator. -/

/-- Every reconcile of a cluster with this spec rolls it out. -/
def RollsOut (cluster : StreamlineCluster) : Prop :=
  EveryRun Controllers.ClusterController.reconcile cluster.spec
    Controllers.ClusterController.RolledOut

/-- Every reconcile of a topic with this spec takes it to its cluster. -/
def Takes (topic : StreamlineTopic) : Prop :=
  EveryRun Controllers.TopicController.reconcile topic.spec Controllers.TopicController.Taken

theorem checkCluster_eq_none {plan : String} {cluster : StreamlineCluster} :
    checkCluster (plan, cluster) = none ↔ RollsOut cluster := by
  rw [RollsOut, Controllers.ClusterController.everyRun_rolledOut_iff, checkCluster]
  cases cluster.spec.validate <;> simp

theorem checkTopic_eq_none {plan : String} {topic : StreamlineTopic} :
    checkTopic (plan, topic) = none ↔ Takes topic := by
  rw [Takes, Controllers.TopicController.everyRun_taken_iff, checkTopic]
  cases Controllers.TopicController.unsupportedFields topic.spec <;> simp

/-- The same of every plan of a fixture. -/
def CloudOperatorFixture.RollsOut (self : CloudOperatorFixture) : Prop :=
  ∀ (plan : String) (cluster : StreamlineCluster),
    self.streamlineClusters[plan]? = some cluster → CloudFixture.RollsOut cluster

def CloudOperatorFixture.Takes (self : CloudOperatorFixture) : Prop :=
  ∀ (plan : String) (topic : StreamlineTopic),
    self.streamlineTopics[plan]? = some topic → CloudFixture.Takes topic

/-- The reasons a fixture is rejected for. The one that is named comes first in the order of
the plans, and its message is the one the operator publishes. -/
inductive Rejection (fromStr : String → Option CloudOperatorFixture) (contents source : String) :
    String → Prop
  | unread (unread : fromStr contents = none) :
      Rejection fromStr contents source ("failed to deserialize cloud fixture " ++ source)
  | noClusters {fixture : CloudOperatorFixture} (read : fromStr contents = some fixture)
      (empty : fixture.streamlineClusters = ∅) :
      Rejection fromStr contents source "cloud fixture contains no StreamlineCluster resources"
  | noTopics {fixture : CloudOperatorFixture} (read : fromStr contents = some fixture)
      (nonempty : fixture.streamlineClusters ≠ ∅) (empty : fixture.streamlineTopics = ∅) :
      Rejection fromStr contents source "cloud fixture contains no StreamlineTopic resources"
  | cluster {fixture : CloudOperatorFixture} {plan message : String} {cluster : StreamlineCluster}
      (read : fromStr contents = some fixture)
      (found : fixture.streamlineClusters[plan]? = some cluster)
      (refused : EveryRun Controllers.ClusterController.reconcile cluster.spec
        (Controllers.ClusterController.Refused message))
      (earlier : ∀ (plan' : String) (cluster' : StreamlineCluster),
        fixture.streamlineClusters[plan']? = some cluster' → compare plan' plan = .lt →
          RollsOut cluster') :
      Rejection fromStr contents source (clusterRejection plan message)
  | topic {fixture : CloudOperatorFixture} {plan message : String} {topic : StreamlineTopic}
      (read : fromStr contents = some fixture)
      (rollsOut : fixture.RollsOut)
      (found : fixture.streamlineTopics[plan]? = some topic)
      (refused : EveryRun Controllers.TopicController.reconcile topic.spec
        (Controllers.TopicController.Refused message))
      (earlier : ∀ (plan' : String) (topic' : StreamlineTopic),
        fixture.streamlineTopics[plan']? = some topic' → compare plan' plan = .lt →
          Takes topic') :
      Rejection fromStr contents source (topicRejection plan message)

theorem checkClusters_eq_none (fixture : CloudOperatorFixture) :
    fixture.streamlineClusters.toList.findSome? checkCluster = none ↔ fixture.RollsOut := by
  rw [findSome_toList_eq_none]
  simp only [checkCluster_eq_none, CloudOperatorFixture.RollsOut]

theorem checkTopics_eq_none (fixture : CloudOperatorFixture) :
    fixture.streamlineTopics.toList.findSome? checkTopic = none ↔ fixture.Takes := by
  rw [findSome_toList_eq_none]
  simp only [checkTopic_eq_none, CloudOperatorFixture.Takes]

section Rejections

variable {fromStr : String → Option CloudOperatorFixture}
variable {contents source text : String} {fixture : CloudOperatorFixture}

theorem rejection_of_checkClusters (hread : fromStr contents = some fixture)
    (h : fixture.streamlineClusters.toList.findSome? checkCluster = some text) :
    Rejection fromStr contents source text := by
  obtain ⟨plan, cluster, hfound, htext, hearlier⟩ := findSome_toList_eq_some h
  cases hspec : cluster.spec.validate with
  | ok _ => simp [checkCluster, hspec] at htext
  | error errors =>
    simp only [checkCluster, hspec, Option.some.injEq] at htext
    rw [← htext]
    refine .cluster hread hfound (Controllers.ClusterController.refused_of_validate hspec) ?_
    intro plan' cluster' hfound' hlt
    exact checkCluster_eq_none.mp (hearlier plan' cluster' hfound' hlt)

theorem rejection_of_checkTopics (hread : fromStr contents = some fixture)
    (hclusters : fixture.RollsOut)
    (h : fixture.streamlineTopics.toList.findSome? checkTopic = some text) :
    Rejection fromStr contents source text := by
  obtain ⟨plan, topic, hfound, htext, hearlier⟩ := findSome_toList_eq_some h
  dsimp only [checkTopic] at htext
  split at htext
  · cases htext
  · rename_i hunsupported
    have hspec : Controllers.TopicController.unsupportedFields topic.spec ≠ [] := by
      simpa using hunsupported
    rw [← Option.some.inj htext]
    refine .topic hread hclusters hfound
      (Controllers.TopicController.refused_of_unsupported hspec) ?_
    intro plan' topic' hfound' hlt
    exact checkTopic_eq_none.mp (hearlier plan' topic' hfound' hlt)

end Rejections

example : validateFixtureContents (fun _ => none) "[" "plans.json" =
    .error "failed to deserialize cloud fixture plans.json" := by
  rfl

end StreamlineOperator.CloudFixture
