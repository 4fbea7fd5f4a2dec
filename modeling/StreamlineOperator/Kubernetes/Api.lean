/- source: the kube, reqwest and metrics calls of src/src/controllers/*.rs; src/src/error.rs
   digest: The requests a controller makes of its environment, and what may come back. -/

import StreamlineOperator.Crd.Resource
import StreamlineOperator.Foundation.TraceLogic

set_option autoImplicit false
set_option relaxedAutoImplicit false

namespace StreamlineOperator.Kubernetes

open Foundation
open Conditions (Clock)
open Crd (StreamlineCluster StreamlineTopic)

inductive Kind where
  | configMap
  | service
  | statefulSet
  | horizontalPodAutoscaler
  | scaledObject
  | persistentVolumeClaim
  | pod
  | streamlineCluster
  | streamlineTopic
  | streamlineUser
  deriving DecidableEq, Repr

/-- What the API server stores and returns under a kind. Users are never read. -/
abbrev Kind.Object : Kind → Type
  | configMap => ConfigMap
  | service => Service
  | statefulSet => StatefulSet
  | horizontalPodAutoscaler => HorizontalPodAutoscaler
  | scaledObject => ScaledObject
  | persistentVolumeClaim => PersistentVolumeClaim
  | pod => Pod
  | streamlineCluster => StreamlineCluster
  | streamlineTopic => StreamlineTopic
  | streamlineUser => Json

/-- A failed Kubernetes call: `code` is that of the API server's error response,
absent when the failure is of another kind. -/
structure KubeError where
  code : Option Nat
  text : String
  deriving DecidableEq, Repr

/-- An HTTP response: the code, its canonical reason, the text (empty if it
cannot be read) and what the text parses to. -/
structure HttpResponse where
  status : Nat
  reason : String
  text : String
  json : Option Json

def HttpResponse.isSuccess (self : HttpResponse) : Bool :=
  200 ≤ self.status && self.status < 300

inductive OperatorError where
  | kubeApi (message : String)
  | configuration (message : String)
  | reconciliation (message : String)
  | http (message : String)
  | serialization (message : String)
  | notFound (message : String)
  | invalidState (message : String)
  | internal (message : String)
  deriving DecidableEq, Repr

/-- `impl Display for OperatorError`. -/
def OperatorError.text : OperatorError → String
  | kubeApi message => "Kubernetes API error: " ++ message
  | configuration message => "Configuration error: " ++ message
  | reconciliation message => "Reconciliation error: " ++ message
  | http message => "HTTP error: " ++ message
  | serialization message => "Serialization error: " ++ message
  | notFound message => "Resource not found: " ++ message
  | invalidState message => "Invalid state: " ++ message
  | internal message => "Internal error: " ++ message

inductive MetricEvent where
  | incReconcile (resource : String)
  | incSuccess
  | incError (resource : String)
  deriving DecidableEq, Repr

/-- A controller's requests. `apply` is a server-side apply of a rendered
object, `applyJson` one of a JSON document, and `clock` asks for the readings
of one status build. -/
inductive Request where
  | get (kind : Kind) (namespaceName name : String)
  | list (kind : Kind) (namespaceName labelSelector : String)
  | create (kind : Kind) (namespaceName : String) (object : kind.Object)
  | apply (kind : Kind) (namespaceName name : String) (object : kind.Object)
  | applyJson (kind : Kind) (namespaceName name : String) (force : Bool) (body : Json)
  | mergePatch (kind : Kind) (namespaceName name : String) (body : Json)
  | patchStatus (kind : Kind) (namespaceName name : String) (body : Json)
  | delete (kind : Kind) (namespaceName name : String)
  | httpPost (url : String) (body : Json)
  | httpGet (url : String)
  | httpDelete (url : String)
  | clock
  | metric (event : MetricEvent)

abbrev Request.Response : Request → Type
  | get kind _ _ => Except KubeError kind.Object
  | list kind _ _ => Except KubeError (List kind.Object)
  | create .. => Except KubeError Unit
  | apply .. => Except KubeError Unit
  | applyJson .. => Except KubeError Unit
  | mergePatch .. => Except KubeError Unit
  | patchStatus .. => Except KubeError Unit
  | delete .. => Except KubeError Unit
  | httpPost .. => Except String HttpResponse
  | httpGet _ => Except String HttpResponse
  | httpDelete _ => Except String HttpResponse
  | clock => Clock
  | metric _ => Unit

abbrev ApiExchange := Exchange Request Request.Response

/-- A controller operation. -/
abbrev Operation := Program Request Request.Response OperatorError

/-- What a reconcile asks the runtime to do next. -/
inductive Action where
  | requeue (seconds : Nat)
  | awaitChange
  deriving DecidableEq, Repr

/-- Issue one request and return its response. -/
def send (request : Request) : Operation request.Response := Program.send request

/-- `.map_err(|e| OperatorError::KubeApi(e.to_string()))?`. -/
def orKubeApi {α : Type} : Except KubeError α → Operation α
  | .ok a => .ok a
  | .error e => .err (.kubeApi e.text)

def sendMetric (event : MetricEvent) : Operation Unit := send (.metric event)

/-- `get`, then a server-side apply of the object if it is there and a create if
the `get` failed for whatever reason. -/
def getThenWrite (kind : Kind) (namespaceName name : String) (object : kind.Object) :
    Operation Unit := do
  match ← send (.get kind namespaceName name) with
  | .ok _ => orKubeApi (← send (.apply kind namespaceName name object))
  | .error _ => orKubeApi (← send (.create kind namespaceName object))

/-- `{ "metadata": { "finalizers": [..] } }`. -/
def finalizersPatch (finalizers : List String) : Json :=
  .obj [("metadata", .obj [("finalizers", .arr (finalizers.map Json.str))])]

/-- The `ensure_finalizer` of a kind: a forced apply, unless the finalizer is
there already. -/
def ensureFinalizer (kind : Kind) (finalizer : String) (metadata : ObjectMeta)
    (namespaceName : String) : Operation Unit := do
  if finalizer ∈ metadata.finalizerList then return ()
  orKubeApi (← send
    (.applyJson kind namespaceName metadata.nameAny true (finalizersPatch [finalizer])))

/-- The merge patch that takes a finalizer out of the list the object was read
with. -/
def removeFinalizer (kind : Kind) (finalizer : String) (metadata : ObjectMeta)
    (namespaceName : String) : Operation Unit := do
  let finalizers := metadata.finalizerList.filter (fun f => f ≠ finalizer)
  orKubeApi (← send
    (.mergePatch kind namespaceName metadata.nameAny (finalizersPatch finalizers)))

/-- The kinds a cluster's workload consists of. -/
def Kind.isWorkload : Kind → Bool
  | configMap | service | statefulSet => true
  | _ => false

/-- The name in an object a controller renders. -/
def Kind.objectName : (kind : Kind) → kind.Object → String
  | configMap, object => object.metadata.nameAny
  | service, object => object.metadata.nameAny
  | statefulSet, object => object.metadata.nameAny
  | horizontalPodAutoscaler, object => object.metadata.nameAny
  | scaledObject, object => object.metadata.nameAny
  | _, _ => ""

namespace Request

/-- The object a request creates or patches in whatever way, by kind and name. -/
def writtenObject : Request → Option (Kind × String)
  | create kind _ object => some (kind, kind.objectName object)
  | apply kind _ name _ => some (kind, name)
  | applyJson kind _ name _ _ => some (kind, name)
  | mergePatch kind _ name _ => some (kind, name)
  | patchStatus kind _ name _ => some (kind, name)
  | _ => none

def deletedObject : Request → Option (Kind × String)
  | delete kind _ name => some (kind, name)
  | _ => none

/-- The URL of a request to a broker's HTTP interface. -/
def url : Request → Option String
  | httpPost url _ => some url
  | httpGet url => some url
  | httpDelete url => some url
  | _ => none

def writtenStatefulSet : Request → Option StatefulSet
  | create .statefulSet _ object => some object
  | apply .statefulSet _ _ object => some object
  | _ => none

def isWorkloadWrite (self : Request) : Bool :=
  self.writtenObject.any (fun object => object.1.isWorkload)

def isStatusPatch : Request → Bool
  | patchStatus .. => true
  | _ => false

/-- A merge patch of a whole object, as finalizers are taken out with. -/
def isMergePatch : Request → Bool
  | mergePatch .. => true
  | _ => false

/-- The phase a status patch publishes. -/
def publishedPhase : Request → Option String
  | patchStatus _ _ _ body =>
    (body.members.lookup "status").bind fun status =>
      (status.members.lookup "phase").bind Decoder.string
  | _ => none

end Request

/-- The call succeeded. -/
def succeeded : ApiExchange → Bool
  | ⟨.get .., r⟩ => r.isOk
  | ⟨.list .., r⟩ => r.isOk
  | ⟨.create .., r⟩ => r.isOk
  | ⟨.apply .., r⟩ => r.isOk
  | ⟨.applyJson .., r⟩ => r.isOk
  | ⟨.mergePatch .., r⟩ => r.isOk
  | ⟨.patchStatus .., r⟩ => r.isOk
  | ⟨.delete .., r⟩ => r.isOk
  | ⟨.httpPost .., r⟩ => r.isOk
  | ⟨.httpGet .., r⟩ => r.isOk
  | ⟨.httpDelete .., r⟩ => r.isOk
  | ⟨.clock, _⟩ => true
  | ⟨.metric _, _⟩ => true

/-- A server that holds no child object and accepts every write. -/
def emptyServer : (request : Request) → request.Response
  | .get .. => .error ⟨some 404, "not found"⟩
  | .list .. => .ok []
  | .create .. => .ok ()
  | .apply .. => .ok ()
  | .applyJson .. => .ok ()
  | .mergePatch .. => .ok ()
  | .patchStatus .. => .ok ()
  | .delete .. => .error ⟨some 404, "not found"⟩
  | .httpPost .. => .error "no route to host"
  | .httpGet .. => .error "no route to host"
  | .httpDelete .. => .error "no route to host"
  | .clock => fun _ => "2026-01-01T00:00:00+00:00"
  | .metric _ => ()

section Rules

open Program

variable {α : Type} {P : ApiExchange → Prop}

theorem always_orKubeApi (r : Except KubeError α) : Always P (orKubeApi r) := by
  cases r with
  | ok a => exact always_ok a
  | error e => exact always_err _

theorem always_sendMetric {event : MetricEvent} (h : P ⟨.metric event, ()⟩) :
    Always P (sendMetric event) :=
  always_call (fun _ => h) always_ok

theorem always_getThenWrite {kind : Kind} {namespaceName name : String} {object : kind.Object}
    (hget : ∀ r, P ⟨.get kind namespaceName name, r⟩)
    (happly : ∀ r, P ⟨.apply kind namespaceName name object, r⟩)
    (hcreate : ∀ r, P ⟨.create kind namespaceName object, r⟩) :
    Always P (getThenWrite kind namespaceName name object) := by
  apply always_call hget
  intro r
  cases r with
  | ok _ => exact always_call happly (fun r => always_orKubeApi r)
  | error _ => exact always_call hcreate (fun r => always_orKubeApi r)

/-- `getThenWrite` returns only after it has written the object. -/
theorem leaves_getThenWrite {kind : Kind} {namespaceName name : String} {object : kind.Object}
    {E : ApiExchange → Prop} (happly : E ⟨.apply kind namespaceName name object, .ok ()⟩)
    (hcreate : E ⟨.create kind namespaceName object, .ok ()⟩) :
    Leaves E (getThenWrite kind namespaceName name object) := by
  intro tr a h
  simp only [getThenWrite, send, bind_eq, send_bind, runs_call] at h
  obtain ⟨found, tr', rfl, h⟩ := h
  cases found with
  | ok _ =>
    simp only [runs_call] at h
    obtain ⟨wrote, tr'', rfl, h⟩ := h
    cases wrote with
    | ok _ => exact ⟨_, by simp, happly⟩
    | error _ => simp [orKubeApi] at h
  | error _ =>
    simp only [runs_call] at h
    obtain ⟨wrote, tr'', rfl, h⟩ := h
    cases wrote with
    | ok _ => exact ⟨_, by simp, hcreate⟩
    | error _ => simp [orKubeApi] at h

theorem always_ensureFinalizer {kind : Kind} {finalizer : String} {metadata : ObjectMeta}
    {namespaceName : String}
    (h : ∀ r, P ⟨.applyJson kind namespaceName metadata.nameAny true
      (finalizersPatch [finalizer]), r⟩) :
    Always P (ensureFinalizer kind finalizer metadata namespaceName) := by
  unfold ensureFinalizer
  split
  · exact always_ok ()
  · exact always_call h (fun r => always_orKubeApi r)

theorem always_removeFinalizer {kind : Kind} {finalizer : String} {metadata : ObjectMeta}
    {namespaceName : String}
    (h : ∀ r, P ⟨.mergePatch kind namespaceName metadata.nameAny
      (finalizersPatch (metadata.finalizerList.filter (fun f => f ≠ finalizer))), r⟩) :
    Always P (removeFinalizer kind finalizer metadata namespaceName) :=
  always_call h (fun r => always_orKubeApi r)

theorem runs_ensureFinalizer {kind : Kind} {finalizer : String} {metadata : ObjectMeta}
    {namespaceName : String} {tr : List ApiExchange} {res : Except OperatorError Unit}
    (h : Runs (ensureFinalizer kind finalizer metadata namespaceName) tr res) :
    (finalizer ∈ metadata.finalizerList ∧ tr = [] ∧ res = .ok ()) ∨
      (finalizer ∉ metadata.finalizerList ∧ ∃ r, tr = [⟨.applyJson kind namespaceName
          metadata.nameAny true (finalizersPatch [finalizer]), r⟩] ∧
        (r.isOk = true ↔ res = .ok ())) := by
  unfold ensureFinalizer at h
  split at h
  · rename_i hmem
    simp only [pure_eq, runs_ok] at h
    exact .inl ⟨hmem, h⟩
  · rename_i hmem
    refine .inr ⟨hmem, ?_⟩
    simp only [send, bind_eq, send_bind, runs_call] at h
    obtain ⟨r, tr', rfl, h⟩ := h
    refine ⟨r, ?_⟩
    cases r <;> simp_all [orKubeApi, Except.isOk, Except.toBool]

theorem runs_removeFinalizer {kind : Kind} {finalizer : String} {metadata : ObjectMeta}
    {namespaceName : String} {tr : List ApiExchange} {res : Except OperatorError Unit}
    (h : Runs (removeFinalizer kind finalizer metadata namespaceName) tr res) :
    ∃ r, tr = [⟨.mergePatch kind namespaceName metadata.nameAny
        (finalizersPatch (metadata.finalizerList.filter (fun f => f ≠ finalizer))), r⟩] ∧
      (r.isOk = true ↔ res = .ok ()) := by
  simp only [removeFinalizer, send, bind_eq, send_bind, runs_call] at h
  obtain ⟨r, tr', rfl, h⟩ := h
  refine ⟨r, ?_⟩
  cases r <;> simp_all [orKubeApi, Except.isOk, Except.toBool]

end Rules

end StreamlineOperator.Kubernetes
