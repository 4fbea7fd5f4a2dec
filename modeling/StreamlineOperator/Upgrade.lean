/- source: src/src/upgrade.rs
   digest: The table of rejected v0.3.0 schema defaults and the remediation sentences. -/

import Mathlib.Tactic.Common

set_option autoImplicit false
set_option relaxedAutoImplicit false

namespace StreamlineOperator.Upgrade

def upgradeGuide : String := "docs/UPGRADING.md"

def legacyClusterReplicas : Int32 := 3

def legacyPodAntiAffinity : Bool := true

def legacyTopicReplicationFactor : Int32 := 2

/-- The literal that deletes a key in an RFC 7386 merge patch. -/
def removedValue : String := "null"

/-- How a rejected value is corrected. -/
inductive Remediation where
  | setValue
  | removeKey
  deriving DecidableEq, Repr

/-- One field whose v0.3.0 schema default the operator rejects. -/
structure LegacyDefault where
  kind : String
  resource : String
  field : String
  key : String
  parent : Option String
  legacyValue : String
  supportedValue : String
  remediation : Remediation
  mergePatch : String
  deriving DecidableEq, Repr

namespace LegacyDefault

def patchCommand (self : LegacyDefault) (name namespaceName : String) : String :=
  "kubectl patch " ++ self.resource ++ " " ++ name ++ " -n " ++ namespaceName ++
    " --type merge -p '" ++ self.mergePatch ++ "'"

def patchTemplate (self : LegacyDefault) : String :=
  self.patchCommand "<name>" "<namespace>"

def supportedYaml (self : LegacyDefault) : String :=
  self.field ++ ": " ++ self.supportedValue

def removesTheKey (self : LegacyDefault) : Bool :=
  self.remediation = .removeKey

def observedIsLegacy (self : LegacyDefault) (observed : String) : Bool :=
  observed = self.legacyValue

private def provenance (self : LegacyDefault) (observedIsLegacy : Bool) : String :=
  if observedIsLegacy then
    match self.parent with
    | none =>
      " It is the v0.3.0 CRD schema default, which the API server persisted into every " ++
        self.kind ++ " created against those CRDs, so the spec can carry it without anyone " ++
        "having written it. The operator does not rewrite specs."
    | some parent =>
      " It is the v0.3.0 CRD schema default, which the API server persisted into every " ++
        self.kind ++ " whose manifest opened a `" ++ parent ++ "` block (structural defaults " ++
        "are only injected into objects that are present), so the spec can carry it without " ++
        "anyone having written it. The operator does not rewrite specs."
  else ""

private def action (self : LegacyDefault) : String :=
  if self.removesTheKey then
    "Remove the key — writing `" ++ self.supportedYaml ++ "` deletes this one leaf and " ++
      "leaves every other " ++ self.parent.getD "spec" ++ " setting in place — and re-apply, " ++
      "or patch the stored object in place with `" ++ self.patchTemplate ++ "`. The removal " ++
      "only sticks once the corrected CRDs are installed: v0.3.0 declares a default for this " ++
      "field, and defaulting runs after the patch is merged, so the API server puts the key " ++
      "back on the same write."
  else
    "Set " ++ self.supportedYaml ++ " and re-apply, or patch the stored object in place with `" ++
      self.patchTemplate ++ "`."

/-- The sentence appended to a rejection. Only a value v0.3.0 persisted is said
to come from there. -/
def remediationText (self : LegacyDefault) (observedIsLegacy : Bool) : String :=
  " " ++ self.action ++ self.provenance observedIsLegacy ++ " See " ++ upgradeGuide ++
    " for the full upgrade path, including how to find every affected resource."

end LegacyDefault

def legacyDefaults : List LegacyDefault := [
  { kind := "StreamlineCluster"
    resource := "streamlineclusters"
    field := "spec.replicas"
    key := "replicas"
    parent := none
    legacyValue := "3"
    supportedValue := "1"
    remediation := .setValue
    mergePatch := "\x7b\"spec\":\x7b\"replicas\":1\x7d\x7d" },
  { kind := "StreamlineCluster"
    resource := "streamlineclusters"
    field := "spec.podAntiAffinity"
    key := "podAntiAffinity"
    parent := none
    legacyValue := "true"
    supportedValue := "false"
    remediation := .setValue
    mergePatch := "\x7b\"spec\":\x7b\"podAntiAffinity\":false\x7d\x7d" },
  { kind := "StreamlineTopic"
    resource := "streamlinetopics"
    field := "spec.replicationFactor"
    key := "replicationFactor"
    parent := none
    legacyValue := "2"
    supportedValue := "1"
    remediation := .setValue
    mergePatch := "\x7b\"spec\":\x7b\"replicationFactor\":1\x7d\x7d" },
  { kind := "StreamlineTopic"
    resource := "streamlinetopics"
    field := "spec.retention.retentionMs"
    key := "retentionMs"
    parent := some "spec.retention"
    legacyValue := "604800000"
    supportedValue := "-1"
    remediation := .setValue
    mergePatch := "\x7b\"spec\":\x7b\"retention\":\x7b\"retentionMs\":-1\x7d\x7d\x7d" },
  { kind := "StreamlineTopic"
    resource := "streamlinetopics"
    field := "spec.config.minInsyncReplicas"
    key := "minInsyncReplicas"
    parent := some "spec.config"
    legacyValue := "1"
    supportedValue := removedValue
    remediation := .removeKey
    mergePatch := "\x7b\"spec\":\x7b\"config\":\x7b\"minInsyncReplicas\":null\x7d\x7d\x7d" },
  { kind := "StreamlineTopic"
    resource := "streamlinetopics"
    field := "spec.config.maxMessageBytes"
    key := "maxMessageBytes"
    parent := some "spec.config"
    legacyValue := "1048576"
    supportedValue := removedValue
    remediation := .removeKey
    mergePatch := "\x7b\"spec\":\x7b\"config\":\x7b\"maxMessageBytes\":null\x7d\x7d\x7d" }]

def legacyDefault (field : String) : Option LegacyDefault :=
  legacyDefaults.find? (fun entry => entry.field = field)

/-- The remediation sentence, or nothing for a field that is not tabled. -/
def remediationFor (field : String) (observedIsLegacy : Bool) : String :=
  match legacyDefault field with
  | some entry => entry.remediationText observedIsLegacy
  | none => ""

/-- As `remediationFor`, with the provenance decided from the rejected value. -/
def remediationForValue (field observed : String) : String :=
  match legacyDefault field with
  | some entry => entry.remediationText (entry.observedIsLegacy observed)
  | none => ""

/-- Every entry is found under its own field, so no entry shadows another. -/
theorem legacyDefault_of_mem : ∀ entry ∈ legacyDefaults,
    legacyDefault entry.field = some entry := by
  decide

end StreamlineOperator.Upgrade
