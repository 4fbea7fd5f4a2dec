/- source: src/src/crd/user.rs
   digest: The StreamlineUser spec, with its choices and defaults, and its deserialization. -/

import StreamlineOperator.Foundation.Json

set_option autoImplicit false
set_option relaxedAutoImplicit false

namespace StreamlineOperator.Crd

open Foundation

def defaultPasswordKey : String := "password"

inductive AuthenticationType where
  | scramSha256
  | scramSha512
  | plain
  | tlsClientAuth
  deriving DecidableEq, Repr

namespace AuthenticationType

/-- `rename_all = "kebab-case"`. -/
def text : AuthenticationType → String
  | scramSha256 => "scram-sha256"
  | scramSha512 => "scram-sha512"
  | plain => "plain"
  | tlsClientAuth => "tls-client-auth"

def decode : Decoder AuthenticationType :=
  Decoder.variant text [scramSha256, scramSha512, plain, tlsClientAuth]

end AuthenticationType

inductive AuthorizationType where
  | simple
  | rbac
  deriving DecidableEq, Repr

namespace AuthorizationType

def text : AuthorizationType → String
  | simple => "simple"
  | rbac => "rbac"

def decode : Decoder AuthorizationType := Decoder.variant text [simple, rbac]

end AuthorizationType

inductive ResourceType where
  | topic
  | group
  | cluster
  | transactionalId
  deriving DecidableEq, Repr

namespace ResourceType

def text : ResourceType → String
  | topic => "topic"
  | group => "group"
  | cluster => "cluster"
  | transactionalId => "transactionalId"

def decode : Decoder ResourceType := Decoder.variant text [topic, group, cluster, transactionalId]

end ResourceType

inductive PatternType where
  | literal
  | prefixed
  deriving DecidableEq, Repr

namespace PatternType

def text : PatternType → String
  | literal => "literal"
  | prefixed => "prefixed"

def decode : Decoder PatternType := Decoder.variant text [literal, prefixed]

end PatternType

inductive UserPermission where
  | read
  | write
  | create
  | delete
  | alter
  | describe
  | describeConfigs
  | alterConfigs
  | idempotentWrite
  | all
  deriving DecidableEq, Repr

namespace UserPermission

def text : UserPermission → String
  | read => "read"
  | write => "write"
  | create => "create"
  | delete => "delete"
  | alter => "alter"
  | describe => "describe"
  | describeConfigs => "describeConfigs"
  | alterConfigs => "alterConfigs"
  | idempotentWrite => "idempotentWrite"
  | all => "all"

def decode : Decoder UserPermission :=
  Decoder.variant text [read, write, create, delete, alter, describe, describeConfigs, alterConfigs,
    idempotentWrite, all]

end UserPermission

inductive PermissionType where
  | allow
  | deny
  deriving DecidableEq, Repr

namespace PermissionType

def text : PermissionType → String
  | allow => "allow"
  | deny => "deny"

def decode : Decoder PermissionType := Decoder.variant text [allow, deny]

end PermissionType

structure SecretReference where
  name : String
  key : String := defaultPasswordKey
  deriving DecidableEq, Repr

structure UserCredentials where
  secretRef : Option SecretReference := none
  value : Option String := none
  deriving DecidableEq, Repr

structure UserAuthentication where
  type : AuthenticationType
  credentials : Option UserCredentials := none
  deriving DecidableEq, Repr

structure UserAcl where
  resourceType : ResourceType
  resourceName : String
  patternType : PatternType := .literal
  operations : List UserPermission
  permission : PermissionType := .allow
  deriving DecidableEq, Repr

structure UserAuthorization where
  type : AuthorizationType := .simple
  acls : List UserAcl := []
  roles : List String := []
  deriving DecidableEq, Repr

structure UserQuotas where
  producerByteRate : Option Int64 := none
  consumerByteRate : Option Int64 := none
  requestRate : Option Int32 := none
  connectionRate : Option Int32 := none
  deriving DecidableEq, Repr

structure UserSpec where
  clusterRef : String
  authentication : UserAuthentication
  authorization : UserAuthorization := {}
  quotas : Option UserQuotas := none
  deriving DecidableEq, Repr

def SecretReference.decode : Decoder SecretReference := fun v => do
  let ms ← Decoder.derived ["name", "key"] v
  let name ← Decoder.field .string ms "name"
  let key ← Decoder.fieldOr defaultPasswordKey .string ms "key"
  some { name, key }

def UserCredentials.decode : Decoder UserCredentials := fun v => do
  let ms ← Decoder.derived ["secretRef", "value"] v
  let secretRef ← Decoder.fieldOption SecretReference.decode ms "secretRef"
  let value ← Decoder.fieldOption .string ms "value"
  some { secretRef, value }

def UserAuthentication.decode : Decoder UserAuthentication := fun v => do
  let ms ← Decoder.derived ["type", "credentials"] v
  let type ← Decoder.field AuthenticationType.decode ms "type"
  let credentials ← Decoder.fieldOption UserCredentials.decode ms "credentials"
  some { type, credentials }

def UserAcl.decode : Decoder UserAcl := fun v => do
  let ms ← Decoder.derived ["resourceType", "resourceName", "patternType", "operations",
    "permission"] v
  let resourceType ← Decoder.field ResourceType.decode ms "resourceType"
  let resourceName ← Decoder.field .string ms "resourceName"
  let patternType ← Decoder.fieldOr .literal PatternType.decode ms "patternType"
  let operations ← Decoder.field (.list UserPermission.decode) ms "operations"
  let permission ← Decoder.fieldOr .allow PermissionType.decode ms "permission"
  some { resourceType, resourceName, patternType, operations, permission }

def UserAuthorization.decode : Decoder UserAuthorization := fun v => do
  let ms ← Decoder.derived ["type", "acls", "roles"] v
  let type ← Decoder.fieldOr .simple AuthorizationType.decode ms "type"
  let acls ← Decoder.fieldOr [] (.list UserAcl.decode) ms "acls"
  let roles ← Decoder.fieldOr [] (.list .string) ms "roles"
  some { type, acls, roles }

def UserQuotas.decode : Decoder UserQuotas := fun v => do
  let ms ← Decoder.derived ["producerByteRate", "consumerByteRate", "requestRate",
    "connectionRate"] v
  let producerByteRate ← Decoder.fieldOption .int64 ms "producerByteRate"
  let consumerByteRate ← Decoder.fieldOption .int64 ms "consumerByteRate"
  let requestRate ← Decoder.fieldOption .int32 ms "requestRate"
  let connectionRate ← Decoder.fieldOption .int32 ms "connectionRate"
  some { producerByteRate, consumerByteRate, requestRate, connectionRate }

def UserSpec.decode : Decoder UserSpec := fun v => do
  let ms ← Decoder.derived ["clusterRef", "authentication", "authorization", "quotas"] v
  let clusterRef ← Decoder.field .string ms "clusterRef"
  let authentication ← Decoder.field UserAuthentication.decode ms "authentication"
  let authorization ← Decoder.fieldOr {} UserAuthorization.decode ms "authorization"
  let quotas ← Decoder.fieldOption UserQuotas.decode ms "quotas"
  some { clusterRef, authentication, authorization, quotas }

end StreamlineOperator.Crd
