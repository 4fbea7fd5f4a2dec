/- source: src/src/controllers/topic.rs (reconcile, update_status_from_server)
   digest: What a topic reconcile records, against the trouble it met on the way. -/

import StreamlineOperator.Controllers.ReconcileAccount

set_option autoImplicit false
set_option relaxedAutoImplicit false

namespace StreamlineOperator.Controllers

open Foundation
open Kubernetes
open Conditions
open Crd (StreamlineCluster StreamlineTopic TopicSpec TopicStatus)

theorem differs_iff (spec : TopicSpec) (state : TopicServerState) :
    differs spec state = true ↔ DiffersFromSpec spec state := by
  rw [differs, Bool.or_eq_true, Option.any_eq_true, Option.any_eq_true, DiffersFromSpec]
  simp only [decide_eq_true_eq]

namespace TopicController

variable {topic : StreamlineTopic} {namespaceName : String} {cluster : StreamlineCluster}

theorem runs_create {tr : List ApiExchange} {outcome : Except OperatorError TopicServerState}
    (h : Program.Runs (createOrUpdateTopic topic cluster) tr outcome) :
    ∃ answer rest, tr = ⟨.httpPost (createUrl cluster) (topicConfig topic), answer⟩ :: rest ∧
      (∀ e ∈ rest, ∃ read, e = ⟨.httpGet (readUrl topic cluster), read⟩) ∧
      ((refused answer = true ∧ ∃ e, outcome = .error e) ∨
        (refused answer = false ∧ ∃ response, answer = .ok response ∧
          outcome = .ok (reportedState response (rest.findSome? readAnswer?)))) := by
  simp only [createOrUpdateTopic, send, Program.bind_eq, Program.send_bind, Program.runs_call] at h
  obtain ⟨answer, rest, rfl, h⟩ := h
  refine ⟨answer, rest, rfl, ?_⟩
  cases answer with
  | error e =>
    obtain ⟨rfl, rfl⟩ := Program.runs_err.mp h
    exact ⟨by simp, .inl ⟨rfl, _, rfl⟩⟩
  | ok response =>
    dsimp only [createdTopicState] at h
    split at h
    · rename_i hrefused
      obtain ⟨rfl, rfl⟩ := Program.runs_err.mp h
      exact ⟨by simp, .inl ⟨hrefused, _, rfl⟩⟩
    · rename_i htaken
      have hanswer : refused (.ok response) = false := Bool.eq_false_iff.mpr htaken
      split at h
      · rename_i hempty
        obtain ⟨read, rfl, rfl⟩ := runs_fetchTopicState.mp h
        refine ⟨by simp [readUrl], .inr ⟨hanswer, response, rfl, ?_⟩⟩
        rw [reportedState, if_pos hempty]
        rfl
      · rename_i hreported
        obtain ⟨rfl, rfl⟩ := Program.runs_ok.mp h
        refine ⟨by simp, .inr ⟨hanswer, response, rfl, ?_⟩⟩
        rw [reportedState, if_neg hreported]

/-! Publishing the status of a topic. -/

section Publishing

variable {build : Clock → StreamlineTopic → TopicStatus}

private theorem publishes_build {phase : String}
    (hphase : ∀ clock, (build clock topic).phase.text = phase) {tr : List ApiExchange}
    {res : Except OperatorError Unit}
    (h : Program.Runs (publish .streamlineTopic topic namespaceName build) tr res) :
    Publishes (topic.status.map fun status => status.phase.text) phase tr res :=
  runs_publish_publishes (fun _ _ _ _ => rfl) hphase h

private theorem publish_unrelated :
    Program.Always Unrelated (publish .streamlineTopic topic namespaceName build) :=
  always_publish (fun _ => ⟨rfl, rfl, rfl⟩) (fun _ _ => ⟨rfl, rfl, rfl⟩)

end Publishing

private theorem serverBuild_phase (spec : TopicSpec) (state : TopicServerState) :
    ∃ phase, (∀ clock, ((serverBuild spec state).build clock topic).phase.text = phase) ∧
      (phase = "Failed" ↔ differs spec state = true) := by
  rw [differs_iff]
  rcases evaluateSync_cases spec state with
    ⟨hdiffers, message, hsync⟩ | ⟨-, hdiffers, hsync⟩ | ⟨-, hdiffers, hsync⟩
  · rw [serverBuild, hsync]
    exact ⟨"Failed", fun _ => rfl, iff_of_true rfl hdiffers⟩
  · rw [serverBuild, hsync]
    exact ⟨"Ready", fun _ => rfl, iff_of_false (by simp) hdiffers⟩
  · rw [serverBuild, hsync]
    exact ⟨"Ready", fun _ => rfl, iff_of_false (by simp) hdiffers⟩

/-- What a run for an accepted spec shows: the status it ends with is a failure exactly if
there was trouble, and the failure is never counted. -/
inductive Applied (topic : StreamlineTopic) :
    List ApiExchange → Except OperatorError Action → Prop
  | intro {before after : List ApiExchange} {phase : String} {events : List MetricEvent}
      {res : Except OperatorError Action} (quiet : ∀ e ∈ before, Quiet e)
      (concludes : Concludes (topic.status.map fun status => status.phase.text) phase events
        after res)
      (uncounted : events = [] ∨ events = [.incSuccess])
      (tells : phase = "Failed" ↔ trouble topic.spec (before ++ after) = true) :
      Applied topic (before ++ after) res

private theorem syncTopic_ends {outcome : Except OperatorError TopicServerState}
    {after : List ApiExchange} {res : Except OperatorError Action}
    {answer : Except String HttpResponse} {read : Option (Except String HttpResponse)}
    (houtcome : (refused answer = true ∧ ∃ e, outcome = .error e) ∨
      (refused answer = false ∧ ∃ response, answer = .ok response ∧
        outcome = .ok (reportedState response read)))
    (h : Program.Runs (match outcome with
      | .ok state => (updateStatusFromServer topic namespaceName state).bind fun _ =>
          (sendMetric .incSuccess).bind fun _ => .ok (.requeue 60)
      | .error e => (updateStatusError topic namespaceName e.text).bind fun _ =>
          .ok (.requeue 30)) after res) :
    (∀ e ∈ after, Unrelated e) ∧ ∃ phase events,
      Concludes (topic.status.map fun status => status.phase.text) phase events after res ∧
        (events = [] ∨ events = [.incSuccess]) ∧
        (phase = "Failed" ↔ createTrouble topic.spec answer read = true) := by
  rcases houtcome with ⟨hrefused, e, rfl⟩ | ⟨htaken, response, rfl, rfl⟩
  · refine ⟨Program.always_then publish_unrelated after res h, "Failed", [], ?_, .inl rfl, ?_⟩
    · exact concludes_then (fun _ _ hrun => publishes_build (fun _ => rfl) hrun) h
    · exact iff_of_true rfl (by simp [createTrouble, hrefused])
  · dsimp only at h
    rw [updateStatusFromServer_eq] at h
    obtain ⟨phase, hphase, hdiffers⟩ :=
      @serverBuild_phase topic topic.spec (reportedState response read)
    have hunrelated := Program.always_bind publish_unrelated (fun _ =>
      Program.always_then (always_sendMetric ⟨rfl, rfl, rfl⟩)) after res h
    refine ⟨hunrelated, phase, [.incSuccess], ?_, .inr rfl, ?_⟩
    · exact concludes_record (fun _ _ hrun => publishes_build hphase hrun) h
    · rw [createTrouble, htaken, Bool.false_or]
      exact hdiffers

private theorem runs_syncTopic_applied {tr : List ApiExchange}
    {res : Except OperatorError Action}
    (h : Program.Runs (syncTopic topic namespaceName cluster) tr res) :
    Applied topic
      (⟨.get .streamlineCluster namespaceName topic.spec.clusterRef, .ok cluster⟩ :: tr) res := by
  rw [syncTopic, Program.bind_eq, Program.runs_bind] at h
  rcases h with ⟨e, h, -⟩ | ⟨outcome, created, after, rfl, h, hafter⟩
  · obtain ⟨outcome, -, hres⟩ := Program.runs_attempt.mp h
    cases hres
  obtain ⟨outcome', h, houtcome⟩ := Program.runs_attempt.mp h
  obtain rfl := Except.ok.inj houtcome
  obtain ⟨answer, rest, rfl, hrest, hanswered⟩ := runs_create h
  have hends := @syncTopic_ends topic namespaceName outcome after res answer
    (rest.findSome? readAnswer?) hanswered
  obtain ⟨hunrelated, phase, events, hconcludes, huncounted, htells⟩ := hends (by
    cases outcome <;> exact hafter)
  have hlookup : rest.any lookupFailed = false := by
    rw [List.any_eq_false]
    intro e he
    obtain ⟨read, rfl⟩ := hrest e he
    simp [lookupFailed]
  have htrouble : trouble topic.spec
      (⟨.get .streamlineCluster namespaceName topic.spec.clusterRef, .ok cluster⟩ ::
        ⟨.httpPost (createUrl cluster) (topicConfig topic), answer⟩ :: rest) =
      (rest.any lookupFailed || createTrouble topic.spec answer (rest.findSome? readAnswer?)) := rfl
  have hbefore : ∀ e ∈ rest, Quiet e := by
    intro e he
    obtain ⟨read, rfl⟩ := hrest e he
    exact ⟨rfl, rfl, rfl, rfl⟩
  rw [← List.cons_append]
  refine .intro ?_ hconcludes huncounted ?_
  · rw [List.forall_mem_cons, List.forall_mem_cons]
    exact ⟨⟨rfl, rfl, rfl, rfl⟩, ⟨rfl, rfl, rfl, rfl⟩, hbefore⟩
  · rw [trouble_append_right topic.spec hunrelated, htrouble, hlookup, Bool.false_or]
    exact htells

private theorem runs_applySpec_applied {tr : List ApiExchange}
    {res : Except OperatorError Action}
    (h : Program.Runs (applySpec topic namespaceName) tr res) : Applied topic tr res := by
  simp only [applySpec, send, Program.bind_eq, Program.send_bind, Program.runs_call] at h
  obtain ⟨found, tr', rfl, h⟩ := h
  have hget : ∀ e ∈ [(⟨.get .streamlineCluster namespaceName topic.spec.clusterRef, found⟩ :
      ApiExchange)], Quiet e := by
    rw [List.forall_mem_singleton]
    exact ⟨rfl, rfl, rfl, rfl⟩
  cases found with
  | error e =>
    have hunrelated := Program.always_then publish_unrelated tr' res h
    have hconcludes := concludes_then (fun _ _ hrun => publishes_build (fun _ => rfl) hrun) h
    refine @Applied.intro topic _ tr' "Failed" [] res hget hconcludes (.inl rfl) ?_
    rw [trouble_append_right topic.spec hunrelated]
    exact iff_of_true rfl rfl
  | ok cluster =>
    by_cases hready : clusterReady cluster = true
    · simp only [hready, if_true] at h
      exact runs_syncTopic_applied h
    · simp only [hready, if_false, Bool.false_eq_true] at h
      have hunrelated := Program.always_then publish_unrelated tr' res h
      have hconcludes := concludes_then (fun _ _ hrun => publishes_build (fun _ => rfl) hrun) h
      refine @Applied.intro topic _ tr' "Pending" [] res hget hconcludes (.inl rfl) ?_
      rw [trouble_append_right topic.spec hunrelated]
      exact iff_of_false (by simp) Bool.false_ne_true

private theorem rejectSpec_concludes {unsupported : List String} {tr : List ApiExchange}
    {res : Except OperatorError Action}
    (h : Program.Runs (rejectSpec topic namespaceName unsupported) tr res) :
    Concludes (topic.status.map fun status => status.phase.text) "Failed" [.incError "topic"]
      tr res := by
  have hpublishes : ∀ tr res, Program.Runs
      (updateStatusUnsupported topic namespaceName ("; ".intercalate unsupported)) tr res →
        Publishes (topic.status.map fun status => status.phase.text) "Failed" tr res :=
    fun _ _ hrun => publishes_build (fun _ => rfl) hrun
  exact concludes_record hpublishes h

private theorem overlooked_live (hlive : topic.metadata.deletionTimestamp.isSome = false)
    {fin tr : List ApiExchange} (hquiet : ∀ e ∈ fin, Quiet e)
    (hunrelated : ∀ e ∈ fin, Unrelated e) :
    overlooked topic (⟨.metric (.incReconcile "topic"), ()⟩ :: (fin ++ tr)) =
      ((unsupportedFields topic.spec).isEmpty && trouble topic.spec tr &&
        !tr.any patchRefused) := by
  have hnone : topic.metadata.deletionTimestamp.isNone = true := by
    rw [← Option.not_isSome, hlive]
    rfl
  have htrouble : trouble topic.spec (⟨.metric (.incReconcile "topic"), ()⟩ :: (fin ++ tr)) =
      trouble topic.spec tr := by
    rw [← List.cons_append]
    refine trouble_append_left topic.spec ?_ tr
    rw [List.forall_mem_cons]
    exact ⟨⟨rfl, rfl, rfl⟩, hunrelated⟩
  have hrefused : (⟨.metric (.incReconcile "topic"), ()⟩ :: (fin ++ tr)).any patchRefused =
      tr.any patchRefused := by
    rw [List.any_cons, List.any_append, patchRefused_quiet hquiet]
    rfl
  rw [overlooked, hnone, htrouble, hrefused, Bool.true_and]

private theorem account_reconcileLive (hlive : topic.metadata.deletionTimestamp.isSome = false)
    {tr : List ApiExchange} {res : Except OperatorError Action}
    (h : Program.Runs (reconcileLive topic namespaceName) tr res) :
    Account "topic" (recorded "topic" (⟨.metric (.incReconcile "topic"), ()⟩ :: tr) res)
      (failed (topic.status.map fun status => status.phase.text)
        (⟨.metric (.incReconcile "topic"), ()⟩ :: tr) res)
      (overlooked topic (⟨.metric (.incReconcile "topic"), ()⟩ :: tr)) := by
  have hquiet : Program.Always Quiet (ensureFinalizer topic namespaceName) :=
    always_ensureFinalizer fun _ => ⟨rfl, rfl, rfl, rfl⟩
  have hunrelated : Program.Always Unrelated (ensureFinalizer topic namespaceName) :=
    always_ensureFinalizer fun _ => ⟨rfl, rfl, rfl⟩
  rw [reconcileLive, Program.bind_eq, Program.runs_bind] at h
  rcases h with ⟨e, hrun, rfl⟩ | ⟨u, fin, after, rfl, hrun, hafter⟩
  · have hseen : overlooked topic (⟨.metric (.incReconcile "topic"), ()⟩ :: tr) = false := by
      have hlater := @overlooked_live topic hlive tr [] (hquiet tr _ hrun) (hunrelated tr _ hrun)
      rw [List.append_nil] at hlater
      simp [hlater, trouble]
    rw [hseen]
    exact account_of_idle fun e he =>
      ⟨(hquiet tr _ hrun e he).metric, (hquiet tr _ hrun e he).clock⟩
  have hoverlooked := @overlooked_live topic hlive fin after (hquiet fin _ hrun)
    (hunrelated fin _ hrun)
  dsimp only at hafter
  split at hafter
  · rename_i hunsupported
    rw [Bool.not_eq_true', Bool.eq_false_iff, ne_eq] at hunsupported
    have hseen : overlooked topic (⟨.metric (.incReconcile "topic"), ()⟩ :: (fin ++ after)) =
        false := by
      simp [hoverlooked, hunsupported]
    rw [hseen]
    exact account_of_concludes (hquiet fin _ hrun) (rejectSpec_concludes hafter) (fun _ => rfl)
      fun _ => .inl ⟨rfl, rfl, rfl⟩
  · rename_i haccepted
    rw [Bool.not_eq_true', Bool.not_eq_false] at haccepted
    obtain ⟨hbefore, hconcludes, huncounted, htells⟩ := runs_applySpec_applied hafter
    rename_i before after phase events
    rw [List.any_append, patchRefused_quiet hbefore, haccepted, Bool.true_and, Bool.false_or]
      at hoverlooked
    rw [hoverlooked, ← List.append_assoc]
    refine account_of_concludes ?_ hconcludes ?_ ?_
    · exact List.forall_mem_append.mpr ⟨hquiet fin _ hrun, hbefore⟩
    · intro hrefusal
      rw [hrefusal, Bool.not_true, Bool.and_false]
    · intro hpatched
      rw [hpatched, Bool.not_false, Bool.and_true]
      exact .inr ⟨huncounted, htells⟩

end TopicController

/-- A topic reconcile keeps the account but for what it overlooks. -/
theorem account_topic (topic : StreamlineTopic) {tr : List ApiExchange}
    {res : Except OperatorError Action}
    (h : Program.Runs (TopicController.reconcile topic) tr res) :
    Account "topic" (recorded "topic" tr res)
      (failed (topic.status.map fun status => status.phase.text) tr res)
      (overlooked topic tr) := by
  simp only [TopicController.reconcile, sendMetric, send, Program.bind_eq, Program.send_bind,
    Program.runs_call] at h
  obtain ⟨_, tr', rfl, h⟩ := h
  split at h
  · rename_i hdeleted
    have hseen : overlooked topic (⟨.metric (.incReconcile "topic"), ()⟩ :: tr') = false := by
      rw [overlooked, ← Option.not_isSome, hdeleted]
      rfl
    rw [hseen]
    apply account_of_idle
    obtain ⟨patched, -, ⟨cluster, deleted, rfl⟩ | ⟨e, rfl⟩⟩ :=
      TopicController.runs_handleDeletion h
    · simp [metricEvent?, readsClock]
    · simp [metricEvent?, readsClock]
  · rename_i hlive
    exact TopicController.account_reconcileLive (Bool.eq_false_iff.mpr hlive) h

end StreamlineOperator.Controllers
