/- source: src/src/controllers/topic.rs (reconcile, handle_deletion, create_or_update_topic)
   digest: Over the life of a topic resource: which topics its deletion deletes on the servers. -/

import StreamlineOperator.Controllers.TopicGate

set_option autoImplicit false
set_option relaxedAutoImplicit false

namespace StreamlineOperator.Controllers.TopicController

open Foundation
open Kubernetes
open Crd (StreamlineCluster StreamlineTopic)

/-- One reconcile of a topic: the resource as it was read, what was exchanged, and
the clusters there are in its namespace meanwhile. A cluster is found under its
own name. -/
structure TopicStep where
  topic : StreamlineTopic
  trace : List ApiExchange
  result : Except OperatorError Action
  clusters : String → Bool
  runs : Program.Runs (reconcile topic) trace result
  found : ∀ name cluster, (⟨.get .streamlineCluster topic.namespaceOrDefault name, .ok cluster⟩ :
    ApiExchange) ∈ trace → clusters name = true ∧ cluster.nameAny = name ∧
      cluster.namespaceOrDefault = topic.namespaceOrDefault
  missing : ∀ name error, (⟨.get .streamlineCluster topic.namespaceOrDefault name, .error error⟩ :
    ApiExchange) ∈ trace → error.code = some 404 → clusters name = false

/-- The reconciles of one resource, from its creation on: its spec may be edited
between them, its name may not, and a deletion is final. -/
structure TopicRun where
  name : String
  namespaceName : String
  steps : List TopicStep
  sameName : ∀ step ∈ steps, step.topic.nameAny = name
  sameNamespace : ∀ step ∈ steps, step.topic.namespaceOrDefault = namespaceName
  final : steps.Pairwise fun a b => a.topic.metadata.deletionTimestamp.isSome = true →
    b.topic.metadata.deletionTimestamp.isSome = true

/-- The server has the topic: it made it now or had it before. -/
def acknowledges (response : HttpResponse) : Bool :=
  response.isSuccess || response.status = 409

/-- The get of a cluster, in the namespace of a topic. -/
def finds (topic : StreamlineTopic) (name : String) (cluster : StreamlineCluster) : ApiExchange :=
  ⟨.get .streamlineCluster topic.namespaceOrDefault name, .ok cluster⟩

/-- The topic was posted to the cluster of this name, and the answer accepted. -/
def TopicStep.posts (self : TopicStep) (name : String) (accept : HttpResponse → Bool) : Prop :=
  ∃ cluster, finds self.topic name cluster ∈ self.trace ∧ ∃ body response,
    (⟨.httpPost (createUrl cluster) body, .ok response⟩ : ApiExchange) ∈ self.trace ∧
      accept response = true

/-- A DELETE of the topic is sent to the cluster of this name. -/
def deletesFrom (topic : StreamlineTopic) (trace : List ApiExchange) (name : String) : Prop :=
  ∃ cluster, finds topic name cluster ∈ trace ∧ ∃ deleted,
    (⟨.httpDelete (deleteUrl topic topic.namespaceOrDefault cluster), deleted⟩ : ApiExchange) ∈ trace

/-- A cluster acknowledged a post in one of these reconciles. -/
def Acknowledged (earlier : List TopicStep) (name : String) : Prop :=
  ∃ step ∈ earlier, step.posts name acknowledges

/-- A cluster answered a post with success in one of these reconciles. -/
def Created (earlier : List TopicStep) (name : String) : Prop :=
  ∃ step ∈ earlier, step.posts name HttpResponse.isSuccess

/-- A cluster was sent a DELETE in one of these reconciles. -/
def Deleted (earlier : List TopicStep) (name : String) : Prop :=
  ∃ step ∈ earlier, deletesFrom step.topic step.trace name

/-- The finalizer is taken out. -/
def releases (e : ApiExchange) : Bool := e.request.isMergePatch && succeeded e

/-- What a reconcile may delete after these, and when it may let go. -/
structure DeletesExactly (earlier : List TopicStep) (step : TopicStep) : Prop where
  acknowledged : ∀ name, deletesFrom step.topic step.trace name → Acknowledged earlier name
  complete : ∀ before patch after, step.trace = before ++ patch :: after → releases patch = true →
    ∀ name, Created earlier name → step.clusters name = true →
      Deleted earlier name ∨ deletesFrom step.topic before name

/-- In a reconcile of the deleted resource the cluster of the current spec, if it
is found, acknowledged the topic, and when the finalizer is taken out no other
cluster has it. -/
structure CleanDeletion (earlier : List TopicStep) (step : TopicStep) : Prop where
  owned : step.topic.metadata.deletionTimestamp.isSome = true →
    ∀ cluster, finds step.topic step.topic.spec.clusterRef cluster ∈ step.trace →
      Acknowledged earlier step.topic.spec.clusterRef
  complete : step.topic.metadata.deletionTimestamp.isSome = true →
    (∃ e ∈ step.trace, releases e = true) →
    ∀ name, Created earlier name → step.clusters name = true → ¬ Deleted earlier name →
      name = step.topic.spec.clusterRef ∧
        ∃ cluster, finds step.topic step.topic.spec.clusterRef cluster ∈ step.trace

/-- What a reconcile exchanges, as far as deletions go. -/
inductive StepShape (step : TopicStep) : Prop
  | live (live : step.topic.metadata.deletionTimestamp.isSome = false)
      (keeps : ∀ e ∈ step.trace, e.request.isMergePatch = false)
      (sends : ∀ e ∈ step.trace, ∀ url, e.request ≠ .httpDelete url)
  | deleting (deleting : step.topic.metadata.deletionTimestamp.isSome = true)
      (before : List ApiExchange) (patch : ApiExchange)
      (trace : step.trace = before ++ [patch]) (merges : patch.request.isMergePatch = true)
      (keeps : ∀ e ∈ before, e.request.isMergePatch = false)
      (sends : ∀ name, deletesFrom step.topic before name ↔
        name = step.topic.spec.clusterRef ∧
          ∃ cluster, finds step.topic step.topic.spec.clusterRef cluster ∈ step.trace)

/-- A live run takes out no finalizer and deletes nothing from a broker. -/
theorem LiveRun.keeps {topic : StreamlineTopic} {namespaceName : String} {tr : List ApiExchange}
    {res : Except OperatorError Action} (h : LiveRun topic namespaceName tr res) :
    ∀ e ∈ tr, e.request.isMergePatch = false ∧ ∀ url, e.request ≠ .httpDelete url := by
  have hquiet : ∀ {e : ApiExchange}, Silent e →
      e.request.isMergePatch = false ∧ ∀ url, e.request ≠ .httpDelete url := by
    intro e hsilent
    refine ⟨hsilent.2, fun url hdelete => ?_⟩
    rw [Silent, hdelete] at hsilent
    cases hsilent.1
  cases h with
  | silent hsilent => exact fun e he => hquiet (hsilent e he)
  | synced accepted ready hsilent sync =>
    obtain ⟨answer, rest, rfl, hrest⟩ := runs_syncTopic sync
    rw [List.forall_mem_append, List.forall_mem_cons, List.forall_mem_cons]
    refine ⟨fun e he => hquiet (hsilent e he), ⟨rfl, by simp⟩, ⟨rfl, by simp⟩, fun e he => ?_⟩
    rcases hrest e he with hnone | hread
    · exact hquiet hnone
    · rw [hread]
      exact ⟨rfl, by simp⟩

theorem TopicStep.shape (step : TopicStep) : StepShape step := by
  obtain ⟨tr, htrace, hrun⟩ := runs_reconcile step.runs
  rcases hrun with ⟨hdeleting, hdeletion⟩ | ⟨hlive, hrun⟩
  · obtain ⟨patched, -, ⟨cluster, deleted, rfl⟩ | ⟨error, rfl⟩⟩ := runs_handleDeletion hdeletion
    · refine .deleting hdeleting [_, _, _] _ htrace rfl ?_ ?_
      · simp only [List.forall_mem_cons]
        exact ⟨rfl, rfl, rfl, by simp⟩
      · intro name
        rw [htrace]
        constructor
        · rintro ⟨other, hfinds, -⟩
          obtain ⟨rfl, rfl⟩ : name = step.topic.spec.clusterRef ∧ other = cluster := by
            simpa [finds] using hfinds
          exact ⟨rfl, other, by simp [finds]⟩
        · rintro ⟨rfl, -⟩
          exact ⟨cluster, by simp [finds], deleted, by simp⟩
    · have hnone : ∀ name cluster, finds step.topic name cluster ∉ step.trace := by
        intro name cluster hfinds
        rw [htrace] at hfinds
        simp [finds] at hfinds
      refine .deleting hdeleting [_, _] _ htrace rfl ?_ ?_
      · simp only [List.forall_mem_cons]
        exact ⟨rfl, rfl, by simp⟩
      · intro name
        constructor
        · rintro ⟨other, hfinds, -⟩
          refine absurd ?_ (hnone name other)
          rw [htrace]
          exact List.mem_append_left [_] hfinds
        · rintro ⟨-, cluster, hfinds⟩
          exact absurd hfinds (hnone _ cluster)
  · have hkeeps := hrun.keeps
    refine .live hlive ?_ ?_
    all_goals
      rw [htrace, List.forall_mem_cons]
    · exact ⟨rfl, fun e he => (hkeeps e he).1⟩
    · exact ⟨nofun, fun e he => (hkeeps e he).2⟩

theorem split_at_last {α : Type} {p : α → Bool} {init before after : List α} {last x : α}
    (hinit : ∀ e ∈ init, p e = false) (hx : p x = true)
    (h : init ++ [last] = before ++ x :: after) : before = init ∧ x = last := by
  induction init generalizing before with
  | nil =>
    cases before with
    | nil =>
      cases h
      exact ⟨rfl, rfl⟩
    | cons b before => simp at h
  | cons a init ih =>
    rw [List.forall_mem_cons] at hinit
    cases before with
    | nil =>
      obtain ⟨rfl, -⟩ := List.cons.inj h
      rw [hinit.1] at hx
      cases hx
    | cons b before =>
      obtain ⟨rfl, htail⟩ := List.cons.inj h
      obtain ⟨rfl, rfl⟩ := ih hinit.2 htail
      exact ⟨rfl, rfl⟩

section Steps

variable {earlier : List TopicStep} {step : TopicStep}

private theorem deletesExactly_of_live (hkeeps : ∀ e ∈ step.trace, e.request.isMergePatch = false)
    (hsends : ∀ e ∈ step.trace, ∀ url, e.request ≠ .httpDelete url) :
    DeletesExactly earlier step where
  acknowledged := by
    rintro name ⟨cluster, -, deleted, hdelete⟩
    exact absurd rfl (hsends _ hdelete _)
  complete := by
    intro before patch after hsplit hreleases
    have hmem : patch ∈ step.trace := by
      rw [hsplit]
      exact List.mem_append_right _ List.mem_cons_self
    rw [releases, hkeeps patch hmem] at hreleases
    cases hreleases

private theorem cleanDeletion_of_live
    (hlive : step.topic.metadata.deletionTimestamp.isSome = false) :
    CleanDeletion earlier step := by
  have hnot : ¬ step.topic.metadata.deletionTimestamp.isSome = true := by simp [hlive]
  exact ⟨fun hdeleting => absurd hdeleting hnot, fun hdeleting => absurd hdeleting hnot⟩

private theorem deletesFrom_before {before : List ApiExchange} {patch : ApiExchange}
    (htrace : step.trace = before ++ [patch]) (hmerges : patch.request.isMergePatch = true)
    (name : String) :
    deletesFrom step.topic step.trace name ↔ deletesFrom step.topic before name := by
  have hbefore : ∀ e ∈ step.trace, e.request.isMergePatch = false → e ∈ before := by
    intro e he hkept
    rw [htrace, List.mem_append, List.mem_singleton] at he
    rcases he with he | rfl
    · exact he
    · rw [hmerges] at hkept
      cases hkept
  constructor
  · rintro ⟨cluster, hfinds, deleted, hdelete⟩
    exact ⟨cluster, hbefore _ hfinds rfl, deleted, hbefore _ hdelete rfl⟩
  · rintro ⟨cluster, hfinds, deleted, hdelete⟩
    rw [htrace]
    exact ⟨cluster, List.mem_append_left _ hfinds, deleted, List.mem_append_left _ hdelete⟩

theorem deletesExactly_iff (earlier : List TopicStep) (step : TopicStep) :
    DeletesExactly earlier step ↔ CleanDeletion earlier step := by
  cases step.shape with
  | live hlive hkeeps hsends =>
    exact ⟨fun _ => cleanDeletion_of_live hlive, fun _ => deletesExactly_of_live hkeeps hsends⟩
  | deleting hdeleting before patch htrace hmerges hkeeps hsends =>
    have hquiet : ∀ e ∈ before, releases e = false := by
      intro e he
      rw [releases, hkeeps e he, Bool.false_and]
    have hall := deletesFrom_before htrace hmerges
    constructor
    · intro h
      refine ⟨fun _ cluster hfinds => ?_, ?_⟩
      · have hdelete := (hall _).mpr ((hsends _).mpr ⟨rfl, cluster, hfinds⟩)
        exact h.acknowledged _ hdelete
      · rintro - ⟨e, he, hreleases⟩ name hcreated hexists hkept
        have hpatch : releases patch = true := by
          rw [htrace, List.mem_append, List.mem_singleton] at he
          rcases he with he | rfl
          · rw [hquiet e he] at hreleases
            cases hreleases
          · exact hreleases
        rcases h.complete before patch [] htrace hpatch name hcreated hexists with hdeleted | hdelete
        · exact absurd hdeleted hkept
        · exact (hsends name).mp hdelete
    · intro h
      refine ⟨?_, ?_⟩
      · intro name hdelete
        obtain ⟨rfl, cluster, hfinds⟩ := (hsends name).mp ((hall name).mp hdelete)
        exact h.owned hdeleting cluster hfinds
      · intro before' patch' after hsplit hreleases name hcreated hexists
        rw [htrace] at hsplit
        obtain ⟨rfl, rfl⟩ := split_at_last hquiet hreleases hsplit
        by_cases hdeleted : Deleted earlier name
        · exact .inl hdeleted
        · have hlast : patch' ∈ step.trace := by
            rw [htrace]
            exact List.mem_append_right _ List.mem_cons_self
          have hcurrent := h.complete hdeleting ⟨patch', hlast, hreleases⟩ name hcreated hexists
            hdeleted
          exact .inr ((hsends name).mpr hcurrent)

end Steps

/-- Over the life of a topic its deletion deletes exactly the acknowledged topics if
and only if every reconcile of the deleted resource is clean. -/
theorem deletes_acknowledged_iff (run : TopicRun) :
    (∀ earlier step later, run.steps = earlier ++ step :: later → DeletesExactly earlier step) ↔
      ∀ earlier step later, run.steps = earlier ++ step :: later → CleanDeletion earlier step := by
  constructor
  · intro h earlier step later hsplit
    exact (deletesExactly_iff earlier step).mp (h earlier step later hsplit)
  · intro h earlier step later hsplit
    exact (deletesExactly_iff earlier step).mpr (h earlier step later hsplit)

theorem TopicStep.not_posts {step : TopicStep} (h : unsupportedFields step.topic.spec ≠ [])
    (name : String) (accept : HttpResponse → Bool) : ¬ step.posts name accept := by
  rintro ⟨cluster, -, body, response, hpost, -⟩
  exact h (posts_reconcile step.trace step.result step.runs _ hpost _ _ rfl).1

/-- A server with one cluster and no broker behind it. -/
def oneCluster (cluster : StreamlineCluster) : (request : Request) → request.Response
  | .get .streamlineCluster namespaceName name =>
    if namespaceName = cluster.namespaceOrDefault ∧ name = cluster.nameAny then .ok cluster
    else .error ⟨some 404, "not found"⟩
  | request => emptyServer request

theorem oneCluster_answers {cluster : StreamlineCluster} {α : Type} {p : Operation α}
    {namespaceName name : String} {response : Except KubeError StreamlineCluster}
    (h : (⟨.get .streamlineCluster namespaceName name, response⟩ : ApiExchange) ∈
      (p.answer (oneCluster cluster)).1) :
    (namespaceName = cluster.namespaceOrDefault ∧ name = cluster.nameAny ∧
        response = .ok cluster) ∨
      ¬ (namespaceName = cluster.namespaceOrDefault ∧ name = cluster.nameAny) ∧
        ∃ error, response = .error error := by
  have hanswer := Program.response_of_mem_answer h
  simp only [Exchange.mk.injEq, heq_eq_eq, true_and, oneCluster] at hanswer
  split at hanswer
  · rename_i hthere
    exact .inl ⟨hthere.1, hthere.2, hanswer⟩
  · rename_i hthere
    exact .inr ⟨hthere, _, hanswer⟩

/-- The reconcile of a topic against that server. -/
def stepAgainst (cluster : StreamlineCluster) (topic : StreamlineTopic) : TopicStep where
  topic := topic
  trace := ((reconcile topic).answer (oneCluster cluster)).1
  result := ((reconcile topic).answer (oneCluster cluster)).2
  clusters name := topic.namespaceOrDefault = cluster.namespaceOrDefault ∧ name = cluster.nameAny
  runs := Program.runs_answer (oneCluster cluster) (reconcile topic)
  found name other hmem := by
    rcases oneCluster_answers hmem with ⟨hnamespace, rfl, hother⟩ | ⟨-, error, herror⟩
    · cases hother
      exact ⟨by simp [hnamespace], rfl, hnamespace.symm⟩
    · cases herror
  missing name error hmem _ := by
    rcases oneCluster_answers hmem with ⟨-, -, hfound⟩ | ⟨hmissing, -⟩
    · cases hfound
    · exact decide_eq_false hmissing

/-- A topic with a replica more than the operator accepts, while it is live and when
it is deleted. -/
def refusedTopic (deletionTimestamp : Option String) : StreamlineTopic where
  metadata := { name := some "orders", namespaceName := some "streamline", deletionTimestamp,
                finalizers := some [Conditions.topicFinalizer] }
  spec := { clusterRef := "events", replicationFactor := 2 }
  status := none

def ownCluster : StreamlineCluster where
  metadata := { name := some "events", namespaceName := some "streamline" }
  spec := {}
  status := some { readyReplicas := 1, brokerEndpoints := ["events-0"] }

/-- The topic is refused, and then deleted. -/
def refusedRun : TopicRun where
  name := "orders"
  namespaceName := "streamline"
  steps := [stepAgainst ownCluster (refusedTopic none),
    stepAgainst ownCluster (refusedTopic (some "2026-01-01T00:00:00Z"))]
  sameName := by simp [stepAgainst]; decide
  sameNamespace := by simp [stepAgainst]; decide
  final := by simp [stepAgainst]; decide

/-- The deletion of the refused topic is sent to a server that never acknowledged it. -/
theorem refused_topic_deleted :
    ¬ ∀ run : TopicRun, ∀ earlier step later, run.steps = earlier ++ step :: later →
      DeletesExactly earlier step := by
  intro h
  have hexact := h refusedRun [stepAgainst ownCluster (refusedTopic none)] _ [] rfl
  obtain ⟨step, hstep, hposts⟩ := hexact.acknowledged "events"
    ⟨ownCluster, List.mem_cons_of_mem _ List.mem_cons_self, _,
      List.mem_cons_of_mem _ (List.mem_cons_of_mem _ List.mem_cons_self)⟩
  obtain rfl := List.mem_singleton.mp hstep
  exact TopicStep.not_posts (by decide) _ _ hposts

end StreamlineOperator.Controllers.TopicController
