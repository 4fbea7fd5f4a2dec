/- source: general support, no source file
   digest: Roles, the accesses they grant, and what the API server asks them about. -/

import Mathlib.Tactic.Common

set_option autoImplicit false
set_option relaxedAutoImplicit false

namespace StreamlineOperator.Kubernetes

/-- What a call asks for: a verb on a resource of an API group. A subresource follows its
resource after a slash. -/
structure Access where
  apiGroup : String
  resource : String
  verb : String
  deriving DecidableEq, Repr

structure PolicyRule where
  apiGroups : List String
  resources : List String
  verbs : List String

namespace PolicyRule

/-- The list names it, or everything. -/
def lists (names : List String) (name : String) : Bool := "*" ∈ names || name ∈ names

def allows (self : PolicyRule) (access : Access) : Bool :=
  lists self.apiGroups access.apiGroup && lists self.resources access.resource &&
    lists self.verbs access.verb

end PolicyRule

/-- The rules of a role where it is bound: in one namespace, or, for a cluster role bound
for the whole cluster, everywhere. -/
structure BoundRole where
  namespaceName : Option String
  rules : List PolicyRule

/-- A call in one namespace, or across all of them, falls under the role. -/
def BoundRole.covers (self : BoundRole) (namespaceName : Option String) : Bool :=
  self.namespaceName.all (fun own => namespaceName = some own)

/-- One of the roles grants the access. -/
def authorizes (roles : List BoundRole) (namespaceName : Option String) (access : Access) :
    Bool :=
  roles.any fun role =>
    role.covers namespaceName && role.rules.any (fun rule => rule.allows access)

variable {roles : List BoundRole} {role : BoundRole} {namespaceName : Option String}
variable {access : Access}

theorem authorizes_of_mem (hrole : role ∈ roles) (hcovers : role.covers namespaceName = true)
    (hallows : role.rules.any (fun rule => rule.allows access) = true) :
    authorizes roles namespaceName access = true := by
  rw [authorizes, List.any_eq_true]
  refine ⟨role, hrole, ?_⟩
  rw [hcovers, hallows]
  rfl

theorem covers_namespace {own : String} (rules : List PolicyRule) :
    (BoundRole.mk (some own) rules).covers (some own) = true := by
  simp [BoundRole.covers]

theorem covers_cluster (rules : List PolicyRule) (namespaceName : Option String) :
    (BoundRole.mk none rules).covers namespaceName = true := rfl

end StreamlineOperator.Kubernetes
