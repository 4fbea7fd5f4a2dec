/- source: src/src/controllers/user.rs (status builder)
   digest: The one status of a user: unsupported. -/

import StreamlineOperator.Controllers.StatusHistory
import StreamlineOperator.Crd.Resource

set_option autoImplicit false
set_option relaxedAutoImplicit false

namespace StreamlineOperator.Controllers

open Conditions
open Crd

instance : PublishedStatus UserStatus where
  conditions := UserStatus.conditions
  lastUpdated := UserStatus.lastUpdated
  setLastUpdated s t := { s with lastUpdated := t }
  conditions_setLastUpdated _ _ := rfl
  lastUpdated_setLastUpdated _ _ := rfl
  setLastUpdated_setLastUpdated _ _ _ := rfl
  setLastUpdated_lastUpdated _ := rfl

namespace UserController

def unsupportedReason : String := "UnsupportedByServer"

def unsupportedMessage : String :=
  "User management is not supported: the Streamline server exposes no user API, so this " ++
    "operator does not create users, credentials, ACLs, or quotas"

def credentialsMessage : String :=
  "No credentials Secret is provisioned: the server cannot be told about credentials, so " ++
    "generating them would be misleading"

/-- The types the controller keeps when it seeds the condition helper. -/
def isManaged (type : String) : Bool :=
  type = userConditionReady || type = userConditionCredentialsReady

variable {Spec : Type}

def unsupportedStatus (clock : Clock) (user : StreamlineUser Spec) : UserStatus :=
  let condFields :=
    (seededConditions user.status).filter (fun condition => isManaged condition.conditionType)
  let condFields := setCondition condFields
    (buildCondition (clock 0) userConditionReady conditionFalse unsupportedReason
      unsupportedMessage)
  let condFields := setCondition condFields
    (buildCondition (clock 1) userConditionCredentialsReady conditionFalse unsupportedReason
      credentialsMessage)
  withStableTimestamp user.status
    { ready := false
      phase := .unsupported
      username := none
      credentialsSecret := none
      conditions := condFields
      observedGeneration := user.metadata.generation
      lastUpdated := none
      errorMessage := some unsupportedMessage }
    (clock 2)

def managedTypes : List String := [userConditionReady, userConditionCredentialsReady]

/-- The builder is a status build over the stored status. -/
def statusBuild (user : StreamlineUser Spec) : StatusBuild UserStatus where
  reports :=
    [⟨userConditionReady, conditionFalse, unsupportedReason, unsupportedMessage⟩,
      ⟨userConditionCredentialsReady, conditionFalse, unsupportedReason, credentialsMessage⟩]
  keeps := isManaged
  body conditions :=
    { phase := .unsupported, conditions, observedGeneration := user.metadata.generation,
      errorMessage := some unsupportedMessage }
  types_nodup := by
    change managedTypes.Nodup
    decide
  keeps_types := by
    change ∀ type ∈ managedTypes, isManaged type = true
    decide
  conditions_body _ := rfl
  lastUpdated_body _ := rfl

theorem unsupportedStatus_eq_run (clock : Clock) (user : StreamlineUser Spec) :
    unsupportedStatus clock user = (statusBuild user).run clock user.status :=
  rfl

theorem statusBuild_types (user : StreamlineUser Spec) : (statusBuild user).types = managedTypes :=
  rfl

end UserController

end StreamlineOperator.Controllers
