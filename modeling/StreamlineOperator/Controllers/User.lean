/- source: src/src/controllers/user.rs (reconcile and what it calls)
   digest: The user reconcile: it drops the finalizer of earlier versions and reports unsupported. -/

import StreamlineOperator.Controllers.StatusPublication

set_option autoImplicit false
set_option relaxedAutoImplicit false

namespace StreamlineOperator.Controllers

open Foundation
open Kubernetes
open Conditions
open Crd (StreamlineUser)

namespace UserController

variable {Spec : Type}

/-- Nothing is created for a user, so there is nothing the finalizer waits for. -/
def removeFinalizerIfPresent (user : StreamlineUser Spec) (namespaceName : String) :
    Operation Unit := do
  if userFinalizer ∉ user.metadata.finalizerList then return ()
  removeFinalizer .streamlineUser userFinalizer user.metadata namespaceName

def reconcile (user : StreamlineUser Spec) : Operation Action := do
  sendMetric (.incReconcile "user")
  removeFinalizerIfPresent user user.namespaceOrDefault
  if user.metadata.deletionTimestamp.isSome then return .awaitChange
  updateStatusUnsupported user user.namespaceOrDefault
  sendMetric .incSuccess
  return .awaitChange

end UserController

end StreamlineOperator.Controllers
