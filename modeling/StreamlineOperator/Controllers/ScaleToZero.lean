/- source: src/src/controllers/scale_to_zero.rs
   digest: Idle detection, the scaling decision, and the KEDA ScaledObject of a cluster. -/

import Mathlib.Algebra.Group.Nat.Defs
import Mathlib.Algebra.Ring.Int.Defs
import StreamlineOperator.Kubernetes.Api

set_option autoImplicit false
set_option relaxedAutoImplicit false

namespace StreamlineOperator.Controllers

open Foundation
open Kubernetes
open Crd (StreamlineCluster)

/-- The values of `f64`: a finite one is `± mantissa * 2 ^ exponent`. -/
inductive F64 where
  | nan
  | infinite (negative : Bool)
  | finite (negative : Bool) (mantissa : Nat) (exponent : Int)
  deriving DecidableEq, Repr

namespace F64

/-- `x == 0.0`. -/
def isZero : F64 → Bool
  | finite _ mantissa _ => mantissa = 0
  | _ => false

/-- `x > 0.0`. -/
def isPositive : F64 → Bool
  | finite negative mantissa _ => !negative && mantissa ≠ 0
  | infinite negative => !negative
  | nan => false

/-- `x >= 0.0`. -/
def isNonNegative (x : F64) : Bool := x.isZero || x.isPositive

/-- Ten times `mantissa * 2 ^ exponent`, rounded half to even. -/
def tenths (mantissa : Nat) (exponent : Int) : Nat :=
  if 0 ≤ exponent then 10 * mantissa * 2 ^ exponent.toNat
  else
    let divisor := 2 ^ (-exponent).toNat
    let quotient := 10 * mantissa / divisor
    let rest := 10 * mantissa % divisor
    if divisor < 2 * rest || (2 * rest = divisor && quotient % 2 = 1) then quotient + 1
    else quotient

/-- `format!("{:.1}", x)`. -/
def oneDecimal : F64 → String
  | nan => "NaN"
  | infinite negative => (if negative then "-" else "") ++ "inf"
  | finite negative mantissa exponent =>
    (if negative then "-" else "") ++ toString (tenths mantissa exponent / 10) ++ "." ++
      toString (tenths mantissa exponent % 10)

theorem isZero_eq_not_isPositive {x : F64} (h : x.isNonNegative = true) :
    x.isZero = !x.isPositive := by
  cases x with
  | nan => simp [isNonNegative, isZero, isPositive] at h
  | infinite negative => cases negative <;> simp_all [isNonNegative, isZero, isPositive]
  | finite negative mantissa exponent =>
    by_cases hm : mantissa = 0 <;> cases negative <;>
      simp_all [isNonNegative, isZero, isPositive]

end F64

/-- A reading of `Utc::now()`: its epoch second and its RFC 3339 text. -/
structure Instant where
  epoch : Int
  text : String
  deriving DecidableEq, Repr

/-- `x as u64`. -/
def asU64 (x : Int) : Nat := (x % 2 ^ 64).toNat

theorem asU64_of_lt {x : Int} (h0 : 0 ≤ x) (h : x < 2 ^ 63) : (asU64 x : Int) = x := by
  unfold asU64
  omega

def defaultKedaPollingInterval : Int32 := 30

def defaultKedaCooldownPeriod : Int32 := 300

def defaultKedaMaxReplicas : Int32 := 10

structure KedaConfig where
  pollingInterval : Int32 := defaultKedaPollingInterval
  cooldownPeriod : Int32 := defaultKedaCooldownPeriod
  minReplicaCount : Int32 := 0
  maxReplicaCount : Int32 := defaultKedaMaxReplicas
  triggers : List KedaTrigger := []
  deriving DecidableEq

def defaultIdleTimeoutSeconds : Nat := 300

def defaultMinActiveReplicas : Int32 := 1

def defaultCooldownSeconds : Nat := 120

def defaultPollingIntervalSeconds : Nat := 30

structure ScaleToZeroConfig where
  enabled : Bool := false
  idleTimeoutSeconds : Nat := defaultIdleTimeoutSeconds
  minActiveReplicas : Int32 := defaultMinActiveReplicas
  cooldownSeconds : Nat := defaultCooldownSeconds
  kedaEnabled : Bool := false
  keda : Option KedaConfig := none
  pollingIntervalSeconds : Nat := defaultPollingIntervalSeconds
  deriving DecidableEq

structure ClusterActivitySnapshot where
  clusterName : String
  namespaceName : String
  messagesPerSecond : F64
  bytesPerSecond : F64
  activeConnections : Nat
  consumerLag : Int64
  lastActivityAt : String
  idleDurationSeconds : Nat
  isIdle : Bool
  deriving DecidableEq, Repr

inductive ScaleAction where
  | none
  | scaleToZero
  | activate
  | inCooldown
  deriving DecidableEq, Repr

structure ScaleToZeroAction where
  action : ScaleAction
  reason : String
  targetReplicas : Int32
  timestamp : String
  deriving DecidableEq, Repr

/-- A snapshot from raw figures, taken at `now`; `rfc3339` is the text chrono
gives an epoch second. -/
def buildActivitySnapshot (rfc3339 : Int → String) (now : Instant) (clusterName
    namespaceName : String) (messagesPerSecond bytesPerSecond : F64) (activeConnections : Nat)
    (consumerLag : Int64) (lastActivityEpoch : Int) (idleTimeoutSeconds : Nat) :
    ClusterActivitySnapshot :=
  let idleDuration := asU64 (max (now.epoch - lastActivityEpoch) 0)
  { clusterName, namespaceName, messagesPerSecond, bytesPerSecond, activeConnections, consumerLag
    lastActivityAt := rfc3339 lastActivityEpoch
    idleDurationSeconds := idleDuration
    isIdle := messagesPerSecond.isZero && activeConnections = 0 &&
      idleTimeoutSeconds ≤ idleDuration }

namespace ScaleToZeroController

/-- The seconds since the last scale-up, when they are fewer than the cooldown. -/
def withinCooldown (now : Instant) (config : ScaleToZeroConfig) (lastScaleUpEpoch : Option Nat) :
    Option Nat :=
  (lastScaleUpEpoch.map (fun lastUp => asU64 now.epoch - lastUp)).filter
    (fun elapsed => elapsed < config.cooldownSeconds)

/-- What to do about a cluster at this moment. Activation is decided before the
cooldown is looked at. -/
def evaluate (now : Instant) (snapshot : ClusterActivitySnapshot) (config : ScaleToZeroConfig)
    (currentReplicas : Int32) (lastScaleUpEpoch : Option Nat) : ScaleToZeroAction :=
  if !config.enabled then
    { action := .none
      reason := "Scale-to-zero is disabled"
      targetReplicas := currentReplicas
      timestamp := now.text }
  else if currentReplicas = 0 && !snapshot.isIdle then
    { action := .activate
      reason := "Activity detected (connections=" ++ toString snapshot.activeConnections ++
        ", mps=" ++ snapshot.messagesPerSecond.oneDecimal ++ "); activating from zero"
      targetReplicas := config.minActiveReplicas
      timestamp := now.text }
  else
    match withinCooldown now config lastScaleUpEpoch with
    | some elapsed =>
      { action := .inCooldown
        reason := "Within cooldown period (" ++ toString (config.cooldownSeconds - elapsed) ++
          "s remaining)"
        targetReplicas := currentReplicas
        timestamp := now.text }
    | none =>
      if snapshot.isIdle && config.idleTimeoutSeconds ≤ snapshot.idleDurationSeconds then
        { action := .scaleToZero
          reason := "Cluster idle for " ++ toString snapshot.idleDurationSeconds ++
            "s (threshold: " ++ toString config.idleTimeoutSeconds ++ "s)"
          targetReplicas := 0
          timestamp := now.text }
      else
        { action := .none
          reason := "Cluster is active or within idle threshold"
          targetReplicas := currentReplicas
          timestamp := now.text }

/-- `{ "spec": { "replicas": .. } }`. -/
def replicasPatch (replicas : Int32) : Json :=
  .obj [("spec", .obj [("replicas", .ofInt32 replicas)])]

/-- Patch the StatefulSet, if there is something to apply. -/
def applyScaleAction (cluster : StreamlineCluster) (namespaceName : String)
    (action : ScaleToZeroAction) : Operation Unit := do
  if action.action = .none || action.action = .inCooldown then return ()
  orKubeApi (← send (.mergePatch .statefulSet namespaceName cluster.nameAny
    (replicasPatch action.targetReplicas)))

def commonLabels (cluster : StreamlineCluster) : StringMap :=
  ((((∅ : StringMap).insert "app.kubernetes.io/name" "streamline").insert
    "app.kubernetes.io/instance" cluster.nameAny).insert
    "app.kubernetes.io/managed-by" "streamline-operator").insert
    "app.kubernetes.io/component" "scale-to-zero"

def ownerReference (cluster : StreamlineCluster) : OwnerReference where
  apiVersion := "streamline.io/v1alpha1"
  kind := "StreamlineCluster"
  name := cluster.nameAny
  uid := cluster.metadata.uid.getD ""
  controller := some true
  blockOwnerDeletion := some true

def scaledObjectName (cluster : StreamlineCluster) : String := cluster.nameAny ++ "-scaledobject"

/-- The URL the default trigger polls. -/
def defaultTriggerUrl (cluster : StreamlineCluster) (namespaceName : String) : String :=
  "http://" ++ cluster.nameAny ++ "." ++ namespaceName ++ ".svc.cluster.local:" ++
    toString (9094 : Int32) ++ "/scaling/metrics"

/-- The trigger of a configuration without any. -/
def defaultTrigger (cluster : StreamlineCluster) (namespaceName : String) : KedaTrigger where
  type := "metrics-api"
  metadata := (((∅ : StringMap).insert "targetValue" "1").insert
    "url" (defaultTriggerUrl cluster namespaceName)).insert "valueLocation" "active_connections"

def buildKedaScaledObject (cluster : StreamlineCluster) (namespaceName : String)
    (kedaConfig : KedaConfig) : ScaledObject where
  apiVersion := "keda.sh/v1alpha1"
  kind := "ScaledObject"
  metadata :=
    { name := some (scaledObjectName cluster)
      namespaceName := some namespaceName
      labels := some (commonLabels cluster)
      ownerReferences := some [ownerReference cluster] }
  spec :=
    { scaleTargetRef :=
        { apiVersion := some "apps/v1", kind := "StatefulSet", name := cluster.nameAny }
      pollingInterval := kedaConfig.pollingInterval
      cooldownPeriod := kedaConfig.cooldownPeriod
      minReplicaCount := kedaConfig.minReplicaCount
      maxReplicaCount := kedaConfig.maxReplicaCount
      triggers :=
        if kedaConfig.triggers.isEmpty then [defaultTrigger cluster namespaceName]
        else kedaConfig.triggers }

/-- Delete the ScaledObject. No failure is propagated. -/
def deleteKedaScaledObject (cluster : StreamlineCluster) (namespaceName : String) :
    Operation Unit := do
  let _ ← send (.delete .scaledObject namespaceName (scaledObjectName cluster))
  return ()

def reconcileKedaScaledObject (cluster : StreamlineCluster) (namespaceName : String)
    (config : ScaleToZeroConfig) : Operation Unit :=
  if !config.kedaEnabled then deleteKedaScaledObject cluster namespaceName
  else
    match config.keda with
    | none => .err (.configuration "KEDA is enabled but no keda config block was provided")
    | some kedaConfig =>
      getThenWrite .scaledObject namespaceName (scaledObjectName cluster)
        (buildKedaScaledObject cluster namespaceName kedaConfig)

end ScaleToZeroController

end StreamlineOperator.Controllers
