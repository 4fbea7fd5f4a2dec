/- source: src/src/controllers/{cluster,topic,user}.rs (patch_status_if_changed and its callers)
   digest: Publishing a status: it reads back, a second pass patches nothing, its history is faithful. -/

import StreamlineOperator.Controllers.ClusterStatus
import StreamlineOperator.Controllers.TopicStatus
import StreamlineOperator.Controllers.UserStatus
import StreamlineOperator.Kubernetes.Api

set_option autoImplicit false
set_option relaxedAutoImplicit false

namespace StreamlineOperator.Controllers

open Foundation
open Kubernetes
open Conditions
open Crd

section Generic

variable {Spec S : Type} [PublishedStatus S] [DecidableEq S]

/-- Patch the status, but only when it differs from what is already published. -/
def patchStatusIfChanged (kind : Kind) (object : CustomResource Spec S) (namespaceName : String)
    (status : S) : Operation Unit := do
  if object.status = some status then return ()
  orKubeApi (← send (.patchStatus kind namespaceName object.nameAny (statusPatch status)))

/-- Build a status, which reads the clock, and publish it. -/
def publish (kind : Kind) (object : CustomResource Spec S) (namespaceName : String)
    (build : Clock → CustomResource Spec S → S) : Operation Unit := do
  let clock ← send .clock
  patchStatusIfChanged kind object namespaceName (build clock object)

theorem runs_patchStatusIfChanged {kind : Kind} {object : CustomResource Spec S}
    {namespaceName : String} {status : S} {tr : List ApiExchange} {res : Except OperatorError Unit}
    (h : Program.Runs (patchStatusIfChanged kind object namespaceName status) tr res) :
    (tr = [] ∧ object.status = some status) ∨
      ∃ r, tr = [⟨.patchStatus kind namespaceName object.nameAny (statusPatch status), r⟩] := by
  unfold patchStatusIfChanged at h
  split at h
  · rename_i hstatus
    simp only [Program.pure_eq, Program.runs_ok] at h
    exact .inl ⟨h.1, hstatus⟩
  · simp only [send, Program.bind_eq, Program.send_bind, Program.runs_call] at h
    obtain ⟨r, tr', rfl, h⟩ := h
    refine .inr ⟨r, ?_⟩
    cases r <;> simp_all [orKubeApi]

theorem runs_publish {kind : Kind} {object : CustomResource Spec S} {namespaceName : String}
    {build : Clock → CustomResource Spec S → S} {tr : List ApiExchange}
    {res : Except OperatorError Unit}
    (h : Program.Runs (publish kind object namespaceName build) tr res) :
    ∃ clock tr', tr = ⟨.clock, clock⟩ :: tr' ∧
      Program.Runs (patchStatusIfChanged kind object namespaceName (build clock object)) tr' res := by
  simpa only [publish, send, Program.bind_eq, Program.send_bind, Program.runs_call] using h

theorem always_publish {kind : Kind} {object : CustomResource Spec S} {namespaceName : String}
    {build : Clock → CustomResource Spec S → S} {P : ApiExchange → Prop}
    (hclock : ∀ clock, P ⟨.clock, clock⟩)
    (hpatch : ∀ clock r, P ⟨.patchStatus kind namespaceName object.nameAny
      (statusPatch (build clock object)), r⟩) :
    Program.Always P (publish kind object namespaceName build) := by
  intro tr res h
  obtain ⟨clock, tr', rfl, h'⟩ := runs_publish h
  rw [List.forall_mem_cons]
  refine ⟨hclock clock, ?_⟩
  rcases runs_patchStatusIfChanged h' with ⟨rfl, -⟩ | ⟨r, rfl⟩
  · simp
  · simpa using hpatch clock r

/-- Publishing with a builder settles: the patched object reads back with the
built status, and another pass over it builds the same status and patches
nothing. -/
structure PublicationSettles (kind : Kind) (decodeSpec : Decoder Spec)
    (build : Clock → CustomResource Spec S → S) : Prop where
  readsBack : ∀ (stored : Json) (object : CustomResource Spec S) (clock : Clock),
    decodeResource decodeSpec stored = some object →
      decodeResource decodeSpec (stored.mergePatch (statusPatch (build clock object))) =
        some { object with status := some (build clock object) }
  repeats : ∀ (object : CustomResource Spec S) (clock clock' : Clock),
    build clock' { object with status := some (build clock object) } = build clock object
  patchesNothing : ∀ (object : CustomResource Spec S) (namespaceName : String) (clock : Clock)
    (tr : List ApiExchange) (res : Except OperatorError Unit),
    Program.Runs
        (publish kind { object with status := some (build clock object) } namespaceName build)
        tr res →
      ∀ e ∈ tr, e.request = .clock

theorem publicationSettles {kind : Kind} {decodeSpec : Decoder Spec}
    {build : Clock → CustomResource Spec S → S}
    (statusBuild : CustomResource Spec S → StatusBuild S)
    (hrun : ∀ clock object, build clock object = (statusBuild object).run clock object.status)
    (hsame : ∀ object status, statusBuild { object with status } = statusBuild object) :
    PublicationSettles kind decodeSpec build := by
  have hrepeats : ∀ (object : CustomResource Spec S) (clock clock' : Clock),
      build clock' { object with status := some (build clock object) } = build clock object := by
    intro object clock clock'
    rw [hrun clock', hsame, hrun clock object]
    exact (statusBuild object).run_run clock clock' object.status
  refine ⟨fun stored object clock h => decodeResource_statusPatch h _, hrepeats, ?_⟩
  intro object namespaceName clock tr res h
  obtain ⟨clock', tr', rfl, hpatch⟩ := runs_publish h
  rw [hrepeats] at hpatch
  simp only [patchStatusIfChanged, if_true, Program.pure_eq, Program.runs_ok] at hpatch
  obtain ⟨rfl, -⟩ := hpatch
  simp

/-- The statuses of an object that starts without one: each build works on the
object with the status of the build before. -/
def statusSequence (build : Nat → Clock → CustomResource Spec S → S)
    (objects : Nat → CustomResource Spec S) (clocks : Nat → Clock) : Nat → S
  | 0 => build 0 (clocks 0) { objects 0 with status := none }
  | n + 1 => build (n + 1) (clocks (n + 1))
      { objects (n + 1) with status := some (statusSequence build objects clocks n) }

/-- What a sequence of statuses has to say, given what each build reports. Build
`n` reads its clock for the condition at position `j` for the `j`-th time, and
for `lastUpdated` after all conditions. -/
structure FaithfulHistory (types : List String) (reports : Nat → List Report)
    (clocks : Nat → Clock) (statuses : Nat → S) : Prop where
  nodup : types.Nodup
  conditionTypes : ∀ n,
    (PublishedStatus.conditions (statuses n)).map ConditionFields.conditionType = types
  condition : ∀ j type, types[j]? = some type → ∃ c : Nat → ConditionFields,
    (∀ n, findCondition (PublishedStatus.conditions (statuses n)) type = some (c n)) ∧
    (∀ n, ∃ r, (reports n)[j]? = some r ∧ r.conditionType = type ∧ (c n).status = r.status ∧
      (c n).reason = some r.reason ∧ (c n).message = some r.message) ∧
    ∀ n, ∃ m, LastChange (fun k => (c k).status) n m ∧
      (c n).lastTransitionTime = some (clocks m j)
  lastUpdated : ∀ n, ∃ m, LastChange (fun k => setLastUpdated (statuses k) none) n m ∧
    PublishedStatus.lastUpdated (statuses n) = some (clocks m types.length)

theorem faithfulHistory {types : List String} {builds : Nat → StatusBuild S}
    (clocks : Nat → Clock) (managed : ∀ n, (builds n).types = types) :
    FaithfulHistory types (fun n => (builds n).reports) clocks (history builds clocks) where
  nodup := managed 0 ▸ (builds 0).types_nodup
  conditionTypes := history_types managed
  condition j type h := by
    obtain ⟨c, hc⟩ := history_condition clocks managed h
    refine ⟨c, hc.found, fun n => ?_, hc.transition⟩
    obtain ⟨r, hr, hsame⟩ := hc.reported n
    have htype : r.conditionType = type :=
      hsame.conditionType.symm.trans (findCondition_conditionType (hc.found n))
    exact ⟨r, hr, htype, hsame.status, hsame.reason, hsame.message⟩
  lastUpdated n := by
    obtain ⟨m, hm, htime⟩ := history_lastUpdated builds clocks n
    have hlength : (builds m).reports.length = types.length := by
      rw [← managed m, StatusBuild.types, List.length_map]
    exact ⟨m, hm, hlength ▸ htime⟩

theorem statusSequence_eq_history {build : Nat → Clock → CustomResource Spec S → S}
    {objects : Nat → CustomResource Spec S} {clocks : Nat → Clock}
    (statusBuild : Nat → CustomResource Spec S → StatusBuild S)
    (hrun : ∀ n clock object,
      build n clock object = (statusBuild n object).run clock object.status)
    (hsame : ∀ n object status, statusBuild n { object with status } = statusBuild n object) :
    statusSequence build objects clocks = history (fun n => statusBuild n (objects n)) clocks := by
  funext n
  induction n with
  | zero => rw [statusSequence, hrun, hsame, history]
  | succ n ih => rw [statusSequence, hrun, hsame, history, ih]

end Generic

namespace ClusterController

def patchStatusIfChanged (cluster : StreamlineCluster) (namespaceName : String)
    (status : ClusterStatus) : Operation Unit :=
  Controllers.patchStatusIfChanged .streamlineCluster cluster namespaceName status

end ClusterController

namespace TopicController

def patchStatusIfChanged (topic : StreamlineTopic) (namespaceName : String)
    (status : TopicStatus) : Operation Unit :=
  Controllers.patchStatusIfChanged .streamlineTopic topic namespaceName status

end TopicController

namespace UserController

variable {Spec : Type}

/-- Publish the `Unsupported` status for a user. -/
def updateStatusUnsupported (user : StreamlineUser Spec) (namespaceName : String) :
    Operation Unit :=
  publish .streamlineUser user namespaceName unsupportedStatus

end UserController

/-- Status publication settles for every builder of every kind. -/
theorem status_publication_settles :
    (∀ (decodeSpec : Decoder ClusterSpec) (b : ClusterController.Build),
      PublicationSettles .streamlineCluster decodeSpec b.build) ∧
    (∀ (decodeSpec : Decoder TopicSpec) (b : TopicController.Build),
      PublicationSettles .streamlineTopic decodeSpec b.build) ∧
    ∀ (Spec : Type) (decodeSpec : Decoder Spec),
      PublicationSettles .streamlineUser decodeSpec UserController.unsupportedStatus := by
  refine ⟨fun decodeSpec b => ?_, fun decodeSpec b => ?_, fun Spec decodeSpec => ?_⟩
  · exact publicationSettles (fun cluster => b.statusBuild cluster) b.build_eq_run
      (fun _ _ => by cases b <;> rfl)
  · exact publicationSettles (fun topic => b.statusBuild topic) b.build_eq_run
      (fun _ _ => by cases b <;> rfl)
  · exact publicationSettles UserController.statusBuild UserController.unsupportedStatus_eq_run
      (fun _ _ => rfl)

/-- Every sequence of builds of one kind leaves a faithful history. -/
theorem status_history_faithful :
    (∀ (builds : Nat → ClusterController.Build) (clusters : Nat → StreamlineCluster)
        (clocks : Nat → Clock),
      FaithfulHistory ClusterController.managedTypes
        (fun n => (builds n).reports (clusters n)) clocks
        (statusSequence (fun n => (builds n).build) clusters clocks)) ∧
    (∀ (builds : Nat → TopicController.Build) (topics : Nat → StreamlineTopic)
        (clocks : Nat → Clock),
      FaithfulHistory TopicController.managedTypes (fun n => (builds n).reports) clocks
        (statusSequence (fun n => (builds n).build) topics clocks)) ∧
    ∀ (Spec : Type) (users : Nat → StreamlineUser Spec) (clocks : Nat → Clock),
      FaithfulHistory UserController.managedTypes
        (fun n => (UserController.statusBuild (users n)).reports) clocks
        (statusSequence (fun _ => UserController.unsupportedStatus) users clocks) := by
  refine ⟨fun builds clusters clocks => ?_, fun builds topics clocks => ?_,
    fun Spec users clocks => ?_⟩
  · rw [statusSequence_eq_history (fun n cluster => (builds n).statusBuild cluster)
      (fun n => (builds n).build_eq_run) (fun n _ _ => by cases builds n <;> rfl)]
    exact faithfulHistory clocks (fun n => (builds n).statusBuild_types (clusters n))
  · rw [statusSequence_eq_history (fun n topic => (builds n).statusBuild topic)
      (fun n => (builds n).build_eq_run) (fun n _ _ => by cases builds n <;> rfl)]
    exact faithfulHistory clocks (fun n => (builds n).statusBuild_types (topics n))
  · rw [statusSequence_eq_history (fun _ => UserController.statusBuild)
      (fun _ => UserController.unsupportedStatus_eq_run) (fun _ _ _ => rfl)]
    exact faithfulHistory clocks (fun n => UserController.statusBuild_types (users n))

end StreamlineOperator.Controllers
