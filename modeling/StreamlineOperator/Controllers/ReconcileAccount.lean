/- source: src/src/controllers/{cluster,topic,user}.rs (reconcile, the error policies of run); src/src/metrics.rs
   digest: What one reconcile records in the metrics, against what became of it. -/

import StreamlineOperator.Controllers.ClusterReconcile
import StreamlineOperator.Controllers.TopicReport
import StreamlineOperator.Controllers.TopicVerdict
import StreamlineOperator.Controllers.User

set_option autoImplicit false
set_option relaxedAutoImplicit false

namespace StreamlineOperator.Controllers

open Foundation
open Kubernetes
open Conditions
open Crd (StreamlineCluster StreamlineTopic StreamlineUser TopicSpec CustomResource)

/-! What a trace shows. -/

def metricEvent? : ApiExchange → Option MetricEvent
  | ⟨.metric event, _⟩ => some event
  | _ => none

/-- What was recorded, in order. -/
def metricEvents (tr : List ApiExchange) : List MetricEvent := tr.filterMap metricEvent?

def readsClock : ApiExchange → Bool
  | ⟨.clock, _⟩ => true
  | _ => false

/-- The phase of the status a reconcile built: the one it patched, or the stored one when
there was nothing to patch. Only the build of a status reads the clock. -/
def builtPhase (stored : Option String) (tr : List ApiExchange) : Option String :=
  if tr.any readsClock then (tr.findSome? fun e => e.request.publishedPhase).or stored else none

/-- The cluster a topic refers to could not be read. -/
def lookupFailed : ApiExchange → Bool
  | ⟨.get .streamlineCluster _ _, found⟩ => !found.isOk
  | _ => false

def createAnswer? : ApiExchange → Option (Except String HttpResponse)
  | ⟨.httpPost _ _, answer⟩ => some answer
  | _ => none

def readAnswer? : ApiExchange → Option (Except String HttpResponse)
  | ⟨.httpGet _, answer⟩ => some answer
  | _ => none

/-- A status patch was refused. -/
def patchRefused : ApiExchange → Bool
  | ⟨.patchStatus .., answer⟩ => !answer.isOk
  | _ => false

/-- The server did not take the topic: no answer, or a failure other than a conflict. -/
def refused : Except String HttpResponse → Bool
  | .ok response => !response.isSuccess && response.status ≠ 409
  | .error _ => true

/-- The topic state that an answer to the create request stands for, with the answer to a
read if it says nothing. -/
def reportedState (response : HttpResponse) (read : Option (Except String HttpResponse)) :
    TopicServerState :=
  let state := TopicController.parseTopicState response.json
  if state.isEmpty then (read.map TopicController.readBackState).getD {} else state

/-- A reported number is not that of the spec. -/
def differs (spec : TopicSpec) (state : TopicServerState) : Bool :=
  state.partitions.any (· ≠ spec.partitions) ||
    state.replicationFactor.any (· ≠ spec.replicationFactor)

/-- What the create request led to. -/
def createTrouble (spec : TopicSpec) (answer : Except String HttpResponse)
    (read : Option (Except String HttpResponse)) : Bool :=
  refused answer ||
    match answer with
    | .ok response => differs spec (reportedState response read)
    | .error _ => false

/-- Something kept the topic from being as the spec has it: its cluster could not be read,
the server refused it, or the server reports other numbers. -/
def trouble (spec : TopicSpec) (tr : List ApiExchange) : Bool :=
  tr.any lookupFailed ||
    (tr.findSome? createAnswer?).any
      (fun answer => createTrouble spec answer (tr.findSome? readAnswer?))

/-- Trouble with an accepted topic that is published and then left alone. -/
def overlooked (topic : StreamlineTopic) (tr : List ApiExchange) : Bool :=
  topic.metadata.deletionTimestamp.isNone && (TopicController.unsupportedFields topic.spec).isEmpty &&
    trouble topic.spec tr && !tr.any patchRefused

/-! Exchanges that show nothing of this. -/

/-- Nothing is recorded, built or published. -/
structure Quiet (e : ApiExchange) : Prop where
  metric : metricEvent? e = none
  clock : readsClock e = false
  phase : e.request.publishedPhase = none
  patch : patchRefused e = false

/-- Nothing is learned about a topic. -/
structure Unrelated (e : ApiExchange) : Prop where
  lookup : lookupFailed e = false
  create : createAnswer? e = none
  read : readAnswer? e = none

section Views

variable {before tr : List ApiExchange}

theorem metricEvents_append (tr tr' : List ApiExchange) :
    metricEvents (tr ++ tr') = metricEvents tr ++ metricEvents tr' :=
  List.filterMap_append

theorem metricEvents_quiet (h : ∀ e ∈ tr, Quiet e) : metricEvents tr = [] :=
  List.filterMap_eq_nil_iff.mpr fun e he => (h e he).metric

theorem patchRefused_quiet (h : ∀ e ∈ tr, Quiet e) : tr.any patchRefused = false := by
  rw [List.any_eq_false]
  intro e he
  simp [(h e he).patch]

private theorem readsClock_quiet (h : ∀ e ∈ tr, Quiet e) : tr.any readsClock = false := by
  rw [List.any_eq_false]
  intro e he
  simp [(h e he).clock]

theorem builtPhase_append (stored : Option String) (h : ∀ e ∈ before, Quiet e)
    (tr : List ApiExchange) : builtPhase stored (before ++ tr) = builtPhase stored tr := by
  have hphase : before.findSome? (fun e => e.request.publishedPhase) = none :=
    List.findSome?_eq_none_iff.mpr fun e he => (h e he).phase
  rw [builtPhase, builtPhase, List.any_append, readsClock_quiet h, List.findSome?_append, hphase]
  rfl

theorem builtPhase_cons_metric (stored : Option String) (event : MetricEvent)
    (tr : List ApiExchange) : builtPhase stored (⟨.metric event, ()⟩ :: tr) = builtPhase stored tr := by
  simp [builtPhase, readsClock, Request.publishedPhase]

theorem builtPhase_metric (stored : Option String) (tr : List ApiExchange) (event : MetricEvent) :
    builtPhase stored (tr ++ [⟨.metric event, ()⟩]) = builtPhase stored tr := by
  simp [builtPhase, List.any_append, List.findSome?_append, readsClock, Request.publishedPhase]

private theorem unrelated_views (h : ∀ e ∈ tr, Unrelated e) :
    tr.any lookupFailed = false ∧ tr.findSome? createAnswer? = none ∧
      tr.findSome? readAnswer? = none := by
  refine ⟨?_, ?_, ?_⟩
  · rw [List.any_eq_false]
    intro e he
    simp [(h e he).lookup]
  · exact List.findSome?_eq_none_iff.mpr fun e he => (h e he).create
  · exact List.findSome?_eq_none_iff.mpr fun e he => (h e he).read

theorem trouble_append_left (spec : TopicSpec) (h : ∀ e ∈ before, Unrelated e)
    (tr : List ApiExchange) : trouble spec (before ++ tr) = trouble spec tr := by
  obtain ⟨hlookup, hcreate, hread⟩ := unrelated_views h
  simp [trouble, List.findSome?_append, hlookup, hcreate, hread]

theorem trouble_append_right (spec : TopicSpec) (h : ∀ e ∈ before, Unrelated e)
    (tr : List ApiExchange) : trouble spec (tr ++ before) = trouble spec tr := by
  obtain ⟨hlookup, hcreate, hread⟩ := unrelated_views h
  simp [trouble, List.findSome?_append, hlookup, hcreate, hread]

end Views

/-! Publishing a status. -/

/-- What publishing a status with this phase shows. -/
structure Publishes (stored : Option String) (phase : String) (tr : List ApiExchange)
    (res : Except OperatorError Unit) : Prop where
  events : metricEvents tr = []
  built : builtPhase stored tr = some phase
  refused : tr.any patchRefused = true ↔ ∃ e, res = .error e

theorem runs_publish_publishes {Spec S : Type} [PublishedStatus S] [DecidableEq S]
    {phaseText : S → String}
    (htext : ∀ kind namespaceName name status,
      (Request.patchStatus kind namespaceName name (Crd.statusPatch status)).publishedPhase =
        some (phaseText status))
    {kind : Kind} {object : CustomResource Spec S} {namespaceName : String}
    {build : Clock → CustomResource Spec S → S} {phase : String}
    (hphase : ∀ clock, phaseText (build clock object) = phase)
    {tr : List ApiExchange} {res : Except OperatorError Unit}
    (h : Program.Runs (publish kind object namespaceName build) tr res) :
    Publishes (object.status.map phaseText) phase tr res := by
  obtain ⟨clock, tr', rfl, hpatch⟩ := runs_publish h
  unfold patchStatusIfChanged at hpatch
  split at hpatch
  · rename_i hstored
    obtain ⟨rfl, rfl⟩ := Program.runs_ok.mp hpatch
    refine ⟨rfl, ?_, by simp [patchRefused]⟩
    simp [builtPhase, readsClock, Request.publishedPhase, hstored, hphase]
  · simp only [send, Program.bind_eq, Program.send_bind, Program.runs_call] at hpatch
    obtain ⟨answer, tr'', rfl, hend⟩ := hpatch
    have hbuilt : ∀ answer, builtPhase (object.status.map phaseText)
        [⟨.clock, clock⟩, ⟨.patchStatus kind namespaceName object.nameAny
          (Crd.statusPatch (build clock object)), answer⟩] = some phase := by
      intro answer
      have hnone : Request.clock.publishedPhase = none := rfl
      simp [builtPhase, readsClock, hnone, htext, hphase]
    cases answer with
    | ok u =>
      obtain ⟨rfl, rfl⟩ := Program.runs_ok.mp hend
      refine ⟨rfl, hbuilt _, ?_⟩
      simp [patchRefused, Except.isOk, Except.toBool]
    | error e =>
      obtain ⟨rfl, rfl⟩ := Program.runs_err.mp hend
      refine ⟨rfl, hbuilt _, ?_⟩
      simp [patchRefused, Except.isOk, Except.toBool]

/-- What a reconcile that ends with publishing a status shows: it returns after recording
`events`, or the patch was refused and it recorded nothing. -/
structure Concludes (stored : Option String) (phase : String) (events : List MetricEvent)
    (tr : List ApiExchange) (res : Except OperatorError Action) : Prop where
  built : builtPhase stored tr = some phase
  ends : ((∃ action, res = .ok action) ∧ metricEvents tr = events ∧ tr.any patchRefused = false) ∨
    ((∃ e, res = .error e) ∧ metricEvents tr = [] ∧ tr.any patchRefused = true)

section Concludes

variable {stored : Option String} {phase : String} {p : Operation Unit} {action : Action}
variable {tr : List ApiExchange} {res : Except OperatorError Action}

private theorem not_refused (h : Publishes stored phase tr (.ok ())) :
    tr.any patchRefused = false := by
  rw [Bool.eq_false_iff, ne_eq, h.refused]
  rintro ⟨e, he⟩
  cases he

theorem concludes_error {e : OperatorError} {events : List MetricEvent}
    (h : Publishes stored phase tr (.error e)) :
    Concludes stored phase events tr (.error e) where
  built := h.built
  ends := .inr ⟨⟨e, rfl⟩, h.events, h.refused.mpr ⟨e, rfl⟩⟩

theorem concludes_then (hp : ∀ tr res, Program.Runs p tr res → Publishes stored phase tr res)
    (h : Program.Runs (p.bind fun _ => .ok action) tr res) :
    Concludes stored phase [] tr res := by
  rw [Program.runs_bind] at h
  rcases h with ⟨e, hrun, rfl⟩ | ⟨u, before, after, rfl, hrun, hafter⟩
  · exact concludes_error (hp tr _ hrun)
  · obtain ⟨rfl, rfl⟩ := Program.runs_ok.mp hafter
    have hpublished := hp before _ hrun
    rw [List.append_nil]
    exact ⟨hpublished.built, .inl ⟨⟨action, rfl⟩, hpublished.events, not_refused hpublished⟩⟩

theorem concludes_record {event : MetricEvent}
    (hp : ∀ tr res, Program.Runs p tr res → Publishes stored phase tr res)
    (h : Program.Runs (p.bind fun _ => (sendMetric event).bind fun _ => .ok action) tr res) :
    Concludes stored phase [event] tr res := by
  rw [Program.runs_bind] at h
  rcases h with ⟨e, hrun, rfl⟩ | ⟨u, before, after, rfl, hrun, hafter⟩
  · exact concludes_error (hp tr _ hrun)
  · simp only [sendMetric, send, Program.send_bind, Program.runs_call] at hafter
    obtain ⟨answer, after', rfl, hend⟩ := hafter
    obtain ⟨rfl, rfl⟩ := Program.runs_ok.mp hend
    have hpublished := hp before _ hrun
    refine ⟨?_, .inl ⟨⟨action, rfl⟩, ?_, ?_⟩⟩
    · rw [builtPhase_metric]
      exact hpublished.built
    · rw [metricEvents_append, hpublished.events]
      rfl
    · rw [List.any_append, not_refused hpublished]
      rfl

end Concludes

/-! One reconcile. -/

/-- The counters move once for a reconcile, and by its own kind. -/
def Account (resource : String) (events : List MetricEvent) (failed overlooked : Bool) : Prop :=
  (events = [.incReconcile resource, .incError resource] ∧ failed = true ∧ overlooked = false) ∨
    ((events = [.incReconcile resource] ∨ events = [.incReconcile resource, .incSuccess]) ∧
      failed = overlooked)

/-- The error policies: an error is counted by kind. -/
def errorPolicy {α : Type} (resource : String) : Except OperatorError α → List MetricEvent
  | .ok _ => []
  | .error _ => [.incError resource]

/-- All that a reconcile and the error policy after it record. -/
def recorded {α : Type} (resource : String) (tr : List ApiExchange)
    (res : Except OperatorError α) : List MetricEvent :=
  metricEvents tr ++ errorPolicy resource res

/-- It returned an error, or it built a status with phase `Failed`. -/
def failed {α : Type} (stored : Option String) (tr : List ApiExchange)
    (res : Except OperatorError α) : Bool :=
  !res.isOk || builtPhase stored tr = some "Failed"

section Accounts

variable {resource : String} {stored : Option String} {tr : List ApiExchange}
variable {res : Except OperatorError Action}

theorem account_error (hevents : metricEvents tr = [.incReconcile resource])
    (hres : ∃ e, res = .error e) {seen : Bool} (hseen : seen = false) :
    Account resource (recorded resource tr res) (failed stored tr res) seen := by
  obtain ⟨e, rfl⟩ := hres
  refine .inl ⟨?_, rfl, hseen⟩
  rw [recorded, hevents]
  rfl

theorem account_ok (hres : ∃ action, res = .ok action) {events : List MetricEvent}
    (hevents : metricEvents tr = .incReconcile resource :: events) {seen : Bool}
    (h : (events = [.incError resource] ∧ builtPhase stored tr = some "Failed" ∧ seen = false) ∨
      ((events = [] ∨ events = [.incSuccess]) ∧
        decide (builtPhase stored tr = some "Failed") = seen)) :
    Account resource (recorded resource tr res) (failed stored tr res) seen := by
  obtain ⟨action, rfl⟩ := hres
  have hrecorded : recorded resource tr (.ok action : Except OperatorError Action) =
      .incReconcile resource :: events := by
    rw [recorded, hevents]
    exact List.append_nil _
  have hfailed : failed stored tr (.ok action : Except OperatorError Action) =
      decide (builtPhase stored tr = some "Failed") := rfl
  rw [hrecorded, hfailed]
  rcases h with ⟨rfl, hbuilt, hseen⟩ | ⟨rfl | rfl, hseen⟩
  · exact .inl ⟨rfl, decide_eq_true hbuilt, hseen⟩
  · exact .inr ⟨.inl rfl, hseen⟩
  · exact .inr ⟨.inr rfl, hseen⟩

/-- Publishing a status after what is quiet, for a reconcile whose own recordings tell
what it built as far as it is seen. -/
theorem account_of_concludes {phase : String} {events : List MetricEvent}
    {before after : List ApiExchange} {seen : Bool} (hbefore : ∀ e ∈ before, Quiet e)
    (hafter : Concludes stored phase events after res)
    (hrefused : after.any patchRefused = true → seen = false)
    (htell : after.any patchRefused = false →
      (events = [.incError resource] ∧ phase = "Failed" ∧ seen = false) ∨
        ((events = [] ∨ events = [.incSuccess]) ∧ (phase = "Failed" ↔ seen = true))) :
    Account resource
      (recorded resource (⟨.metric (.incReconcile resource), ()⟩ :: (before ++ after)) res)
      (failed stored (⟨.metric (.incReconcile resource), ()⟩ :: (before ++ after)) res) seen := by
  have hevents : metricEvents (⟨.metric (.incReconcile resource), ()⟩ :: (before ++ after)) =
      .incReconcile resource :: metricEvents after := by
    have hquiet : metricEvents (before ++ after) = metricEvents after := by
      rw [metricEvents_append, metricEvents_quiet hbefore, List.nil_append]
    exact congrArg (List.cons _) hquiet
  have hbuilt : builtPhase stored (⟨.metric (.incReconcile resource), ()⟩ :: (before ++ after)) =
      some "Failed" ↔ phase = "Failed" := by
    rw [builtPhase_cons_metric, builtPhase_append stored hbefore, hafter.built, Option.some_inj]
  rcases hafter.ends with ⟨hok, hrecorded, haccepted⟩ | ⟨herror, hrecorded, hrefusal⟩
  · refine account_ok hok (hevents.trans (congrArg _ hrecorded)) ?_
    rcases htell haccepted with ⟨herror, hphase, hseen⟩ | ⟨hquiet, hphase⟩
    · exact .inl ⟨herror, hbuilt.mpr hphase, hseen⟩
    · refine .inr ⟨hquiet, ?_⟩
      rw [Bool.eq_iff_iff, decide_eq_true_iff, hbuilt, hphase]
  · exact account_error (hevents.trans (congrArg _ hrecorded)) herror (hrefused hrefusal)

theorem account_of_idle {rest : List ApiExchange}
    (hrest : ∀ e ∈ rest, metricEvent? e = none ∧ readsClock e = false) :
    Account resource (recorded resource (⟨.metric (.incReconcile resource), ()⟩ :: rest) res)
      (failed stored (⟨.metric (.incReconcile resource), ()⟩ :: rest) res) false := by
  have hevents : metricEvents (⟨.metric (.incReconcile resource), ()⟩ :: rest) =
      [.incReconcile resource] := by
    have hquiet : metricEvents rest = [] :=
      List.filterMap_eq_nil_iff.mpr fun e he => (hrest e he).1
    exact congrArg (List.cons _) hquiet
  have hbuilt : builtPhase stored (⟨.metric (.incReconcile resource), ()⟩ :: rest) = none := by
    have hclock : rest.any readsClock = false := by
      rw [List.any_eq_false]
      intro e he
      simp [(hrest e he).2]
    rw [builtPhase_cons_metric, builtPhase, hclock]
    rfl
  cases res with
  | error e => exact account_error hevents ⟨e, rfl⟩ rfl
  | ok action =>
    refine account_ok ⟨action, rfl⟩ hevents (.inr ⟨.inl rfl, ?_⟩)
    rw [hbuilt]
    rfl

end Accounts

/-- The rest of a reconcile keeps the account, whatever quiet came before it. -/
def Accounts (resource : String) (stored : Option String) (p : Operation Action) : Prop :=
  ∀ before tr res, (∀ e ∈ before, Quiet e) → Program.Runs p tr res →
    Account resource
      (recorded resource (⟨.metric (.incReconcile resource), ()⟩ :: (before ++ tr)) res)
      (failed stored (⟨.metric (.incReconcile resource), ()⟩ :: (before ++ tr)) res) false

section Rules

variable {resource : String} {stored : Option String} {p : Operation Action}

theorem accounts_quiet (hp : Program.Always Quiet p) : Accounts resource stored p := by
  intro before tr res hbefore h
  have hquiet : ∀ e ∈ before ++ tr, Quiet e :=
    List.forall_mem_append.mpr ⟨hbefore, hp tr res h⟩
  exact account_of_idle fun e he => ⟨(hquiet e he).metric, (hquiet e he).clock⟩

theorem accounts_bind {α : Type} {q : Operation α} {f : α → Operation Action}
    (hq : Program.Always Quiet q) (hf : ∀ a, Accounts resource stored (f a)) :
    Accounts resource stored (q.bind f) := by
  intro before tr res hbefore h
  rw [Program.runs_bind] at h
  rcases h with ⟨e, hrun, rfl⟩ | ⟨a, during, after, rfl, hrun, hafter⟩
  · have hquiet : ∀ e ∈ before ++ tr, Quiet e :=
      List.forall_mem_append.mpr ⟨hbefore, hq tr _ hrun⟩
    exact account_of_idle fun e he => ⟨(hquiet e he).metric, (hquiet e he).clock⟩
  · rw [← List.append_assoc]
    exact hf a (before ++ during) after res
      (List.forall_mem_append.mpr ⟨hbefore, hq during _ hrun⟩) hafter

theorem accounts_of_concludes {phase : String} {events : List MetricEvent}
    (hp : ∀ tr res, Program.Runs p tr res → Concludes stored phase events tr res)
    (htell : (events = [.incError resource] ∧ phase = "Failed") ∨
      ((events = [] ∨ events = [.incSuccess]) ∧ phase ≠ "Failed")) :
    Accounts resource stored p := by
  intro before tr res hbefore h
  refine account_of_concludes hbefore (hp tr res h) (fun _ => rfl) fun _ => ?_
  rcases htell with ⟨herror, hphase⟩ | ⟨hquiet, hphase⟩
  · exact .inl ⟨herror, hphase, rfl⟩
  · exact .inr ⟨hquiet, by simp [hphase]⟩

theorem account_of_accounts (hp : Accounts resource stored p) {tr : List ApiExchange}
    {res : Except OperatorError Action}
    (h : Program.Runs ((sendMetric (.incReconcile resource)).bind fun _ => p) tr res) :
    Account resource (recorded resource tr res) (failed stored tr res) false := by
  simp only [sendMetric, send, Program.send_bind, Program.runs_call] at h
  obtain ⟨answer, tr', rfl, h⟩ := h
  exact hp [] tr' res (by simp) h

end Rules

/-! Users. -/

theorem account_user {Spec : Type} (user : StreamlineUser Spec) {tr : List ApiExchange}
    {res : Except OperatorError Action} (h : Program.Runs (UserController.reconcile user) tr res) :
    Account "user" (recorded "user" tr res)
      (failed (user.status.map fun status => status.phase.text) tr res) false := by
  refine account_of_accounts ?_ h
  have hremove : Program.Always Quiet
      (UserController.removeFinalizerIfPresent user user.namespaceOrDefault) := by
    unfold UserController.removeFinalizerIfPresent
    split
    · exact Program.always_ok ()
    · exact always_removeFinalizer fun _ => ⟨rfl, rfl, rfl, rfl⟩
  refine accounts_bind hremove fun _ => ?_
  split
  · exact accounts_quiet (Program.always_ok _)
  · have hpublishes : ∀ tr res, Program.Runs
        (UserController.updateStatusUnsupported user user.namespaceOrDefault) tr res →
          Publishes (user.status.map fun status => status.phase.text) "Unsupported" tr res :=
      fun tr res hrun => runs_publish_publishes (fun _ _ _ _ => rfl) (fun _ => rfl) hrun
    refine accounts_of_concludes (fun tr res hrun => concludes_record hpublishes hrun)
      (.inr ⟨.inr rfl, ?_⟩)
    simp

/-! Clusters. -/

namespace ClusterController

variable {cluster : StreamlineCluster} {namespaceName : String}

private theorem observedPhase_ne_failed (readyCount desired : Int32) :
    (observedPhase readyCount desired).text ≠ "Failed" := by
  unfold observedPhase
  split
  · simp [Crd.ClusterPhase.text]
  · split <;> simp [Crd.ClusterPhase.text]

private theorem publishes_build {build : Clock → StreamlineCluster → Crd.ClusterStatus}
    {phase : String} (hphase : ∀ clock, (build clock cluster).phase.text = phase)
    {tr : List ApiExchange} {res : Except OperatorError Unit}
    (h : Program.Runs (publish .streamlineCluster cluster namespaceName build) tr res) :
    Publishes (cluster.status.map fun status => status.phase.text) phase tr res :=
  runs_publish_publishes (fun _ _ _ _ => rfl) hphase h

private theorem accounts_rejectSpec (errors : List String) :
    Accounts "cluster" (cluster.status.map fun status => status.phase.text)
      (rejectSpec cluster namespaceName errors) := by
  have hpublishes : ∀ tr res, Program.Runs
      (updateStatusInvalid cluster namespaceName ("; ".intercalate errors)) tr res →
        Publishes (cluster.status.map fun status => status.phase.text) "Failed" tr res :=
    fun _ _ hrun => publishes_build (fun _ => rfl) hrun
  exact accounts_of_concludes (fun tr res hrun => concludes_record hpublishes hrun)
    (.inl ⟨rfl, rfl⟩)

private theorem accounts_updateStatus :
    Accounts "cluster" (cluster.status.map fun status => status.phase.text)
      ((updateStatus cluster namespaceName).bind fun _ =>
        (sendMetric .incSuccess).bind fun _ => .ok (.requeue 60)) := by
  have hlist : Program.Always Quiet
      (send (.list .pod namespaceName (instanceSelector cluster))) :=
    Program.always_call (fun _ => ⟨rfl, rfl, rfl, rfl⟩) Program.always_ok
  simp only [updateStatus, Program.bind_eq, send, Program.send_bind, Program.call_bind]
  refine accounts_bind hlist fun listed => ?_
  cases listed with
  | error e => exact accounts_quiet (Program.always_err _)
  | ok podList =>
    have hpublishes : ∀ tr res, Program.Runs (publish .streamlineCluster cluster namespaceName
        fun clock cluster => observedStatus clock cluster namespaceName
          (Int32.ofNat (readyPods podList).length)) tr res →
        Publishes (cluster.status.map fun status => status.phase.text)
          (observedPhase (Int32.ofNat (readyPods podList).length) cluster.spec.replicas).text
          tr res :=
      fun _ _ hrun => publishes_build (fun _ => rfl) hrun
    exact accounts_of_concludes (fun tr res hrun => concludes_record hpublishes hrun)
      (.inr ⟨.inr rfl, observedPhase_ne_failed _ _⟩)

private theorem quiet_getThenWrite {kind : Kind} {name : String} {object : kind.Object} :
    Program.Always Quiet (getThenWrite kind namespaceName name object) := by
  apply always_getThenWrite <;> exact fun _ => ⟨rfl, rfl, rfl, rfl⟩

private theorem accounts_afterCleanup :
    Accounts "cluster" (cluster.status.map fun status => status.phase.text)
      (afterCleanup cluster namespaceName) := by
  rw [afterCleanup]
  cases hvalid : cluster.spec.validate with
  | error errors => exact accounts_rejectSpec errors
  | ok u =>
    have heq := renderSpec_eq cluster namespaceName
    rw [hvalid] at heq
    simp only [heq]
    refine accounts_bind quiet_getThenWrite fun _ => ?_
    refine accounts_bind quiet_getThenWrite fun _ => ?_
    refine accounts_bind quiet_getThenWrite fun _ => ?_
    refine accounts_bind quiet_getThenWrite fun _ => ?_
    exact accounts_updateStatus

end ClusterController

theorem account_cluster (cluster : StreamlineCluster) {tr : List ApiExchange}
    {res : Except OperatorError Action}
    (h : Program.Runs (ClusterController.reconcile cluster) tr res) :
    Account "cluster" (recorded "cluster" tr res)
      (failed (cluster.status.map fun status => status.phase.text) tr res) false := by
  refine account_of_accounts ?_ h
  split
  · refine accounts_quiet (ClusterController.always_handleDeletion ?_ ?_ ?_)
    · exact fun _ => ⟨rfl, rfl, rfl, rfl⟩
    · exact fun _ _ => ⟨rfl, rfl, rfl, rfl⟩
    · exact fun _ => ⟨rfl, rfl, rfl, rfl⟩
  · rw [ClusterController.reconcileLive_eq]
    have hfinalizer : Program.Always Quiet
        (ClusterController.ensureFinalizer cluster cluster.namespaceOrDefault) :=
      always_ensureFinalizer fun _ => ⟨rfl, rfl, rfl, rfl⟩
    have hdelete : Program.Always Quiet
        (AutoScalingController.deleteHpa cluster cluster.namespaceOrDefault) := by
      intro tr res hrun
      obtain ⟨r, rfl, -⟩ := AutoScalingController.runs_deleteHpa hrun
      rw [List.forall_mem_singleton]
      exact ⟨rfl, rfl, rfl, rfl⟩
    refine accounts_bind hfinalizer fun _ => ?_
    refine accounts_bind hdelete fun _ => ?_
    exact ClusterController.accounts_afterCleanup

end StreamlineOperator.Controllers
