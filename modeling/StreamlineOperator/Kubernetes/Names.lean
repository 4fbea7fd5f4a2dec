/- source: the Kubernetes API rules for the names src/src/controllers/cluster.rs writes
   digest: What the API server admits as the names, labels and environment of workload objects. -/

import StreamlineOperator.Foundation.Words
import StreamlineOperator.Kubernetes.Api

set_option autoImplicit false
set_option relaxedAutoImplicit false

namespace StreamlineOperator.Kubernetes

open Foundation

/-! The words that names are. -/

def isLowerLetter (c : Char) : Bool := 'a' ≤ c && c ≤ 'z'

def isAlphanumeric (c : Char) : Bool := isLowerAlphanumeric c || ('A' ≤ c && c ≤ 'Z')

/-- RFC 1123 labels. -/
def dns1123Shape : WordShape Char where
  inner c := isLowerAlphanumeric c || c == '-'
  first := isLowerAlphanumeric
  last := isLowerAlphanumeric

/-- RFC 1035 labels: those of RFC 1123 that begin with a letter. -/
def dns1035Shape : WordShape Char where
  inner c := isLowerAlphanumeric c || c == '-'
  first := isLowerLetter
  last := isLowerAlphanumeric

/-- Label values and the name part of label keys. -/
def labelShape : WordShape Char where
  inner c := isAlphanumeric c || c == '-' || c == '_' || c == '.'
  first := isAlphanumeric
  last := isAlphanumeric

def isServiceName (s : String) : Bool := s.length ≤ 63 && dns1035Shape.accepts s.toList

/-- The host name of a pod. -/
def isHostname (s : String) : Bool := s.length ≤ 63 && dns1123Shape.accepts s.toList

def isLabelValue (s : String) : Bool :=
  s.length ≤ 63 && (s.toList.isEmpty || labelShape.accepts s.toList)

/-- A qualified name: a name, with a subdomain before it or without. -/
def isLabelKey (s : String) : Bool :=
  match s.toList.splitOn '/' with
  | [name] => name.length ≤ 63 && labelShape.accepts name
  | [domain, name] =>
    isDns1123Subdomain (String.ofList domain) && name.length ≤ 63 && labelShape.accepts name
  | _ => false

def isEnvName (s : String) : Bool := !s.toList.isEmpty && !s.toList.contains '='

def legalLabels (labels : StringMap) : Bool :=
  labels.toList.all (fun label => isLabelKey label.1 && isLabelValue label.2)

theorem legalLabels_iff {labels : StringMap} :
    legalLabels labels = true ↔ ∀ (key value : String), labels[key]? = some value →
      isLabelKey key = true ∧ isLabelValue value = true := by
  simp only [legalLabels, List.all_eq_true, Bool.and_eq_true]
  constructor
  · intro h key value hlabel
    exact h (key, value) (Std.ExtTreeMap.mem_toList_iff_getElem?_eq_some.mpr hlabel)
  · intro h label hmem
    exact h label.1 label.2 (Std.ExtTreeMap.mem_toList_iff_getElem?_eq_some.mp hmem)

theorem legalLabels_empty : legalLabels ∅ = true := by
  rw [legalLabels_iff]
  intro key value hlabel
  simp at hlabel

theorem legalLabels_insert {labels : StringMap} {key value : String} (hkey : isLabelKey key = true)
    (hvalue : isLabelValue value = true) (hlabels : legalLabels labels = true) :
    legalLabels (labels.insert key value) = true := by
  rw [legalLabels_iff] at hlabels ⊢
  intro key' value' hlabel
  rw [StringMap.getElem?_insert'] at hlabel
  split at hlabel
  · rename_i hsame
    obtain rfl := Option.some.inj hlabel
    exact hsame ▸ ⟨hkey, hvalue⟩
  · exact hlabels key' value' hlabel

/-! Objects. -/

structure LegalMetadata (isName : String → Bool) (metadata : ObjectMeta) : Prop where
  name : isName metadata.nameAny = true
  labels : ∀ labels ∈ metadata.labels, legalLabels labels = true

structure LegalService (object : Service) : Prop where
  metadata : LegalMetadata isServiceName object.metadata
  selector : ∀ spec ∈ object.spec, ∀ labels ∈ spec.selector, legalLabels labels = true

/-- The name of a StatefulSet's pod. -/
def podName (object : StatefulSet) (ordinal : Nat) : String :=
  object.metadata.nameAny ++ "-" ++ toString ordinal

structure LegalPodSpec (pod : PodSpec) : Prop where
  nodeSelector : ∀ labels ∈ pod.nodeSelector, legalLabels labels = true
  env : ∀ container ∈ pod.containers, ∀ env ∈ container.env.getD [], isEnvName env.name = true

structure LegalStatefulSetSpec (spec : StatefulSetSpec) : Prop where
  selector : ∀ labels ∈ spec.selector.matchLabels, legalLabels labels = true
  serviceName : isServiceName spec.serviceName = true
  podLabels : ∀ metadata ∈ spec.template.metadata, ∀ labels ∈ metadata.labels,
    legalLabels labels = true
  pod : ∀ pod ∈ spec.template.spec, LegalPodSpec pod

structure LegalStatefulSet (object : StatefulSet) : Prop where
  metadata : LegalMetadata isDns1123Subdomain object.metadata
  spec : ∀ spec ∈ object.spec, LegalStatefulSetSpec spec
  podNames : ∀ spec ∈ object.spec, ∀ replicas ∈ spec.replicas, ∀ ordinal : Nat,
    (ordinal : Int) < replicas.toInt → isHostname (podName object ordinal) = true

/-- What a request writes is named and labelled as the API server admits it. -/
def LegalWrite : Request → Prop
  | .create .configMap _ object => LegalMetadata isDns1123Subdomain object.metadata
  | .apply .configMap _ _ object => LegalMetadata isDns1123Subdomain object.metadata
  | .create .service _ object => LegalService object
  | .apply .service _ _ object => LegalService object
  | .create .statefulSet _ object => LegalStatefulSet object
  | .apply .statefulSet _ _ object => LegalStatefulSet object
  | _ => True

/-! How the rules are related. -/

section Rules

variable {s : String}

theorem isAlphanumeric_of_lower {c : Char} (h : isLowerAlphanumeric c = true) :
    isAlphanumeric c = true := by
  rw [isAlphanumeric, h, Bool.true_or]

theorem isLowerAlphanumeric_of_letter {c : Char} (h : isLowerLetter c = true) :
    isLowerAlphanumeric c = true := by
  rw [isLowerLetter] at h
  rw [isLowerAlphanumeric, h, Bool.true_or]

theorem dns1123_of_dns1035 {word : List Char} (h : dns1035Shape.accepts word = true) :
    dns1123Shape.accepts word = true := by
  refine WordShape.accepts_mono ?_ ?_ ?_ h
  · exact fun _ hc => hc
  · exact fun _ => isLowerAlphanumeric_of_letter
  · exact fun _ hc => hc

theorem label_of_dns1123 {word : List Char} (h : dns1123Shape.accepts word = true) :
    labelShape.accepts word = true := by
  refine WordShape.accepts_mono ?_ ?_ ?_ h
  · intro c hc
    simp only [dns1123Shape, Bool.or_eq_true, beq_iff_eq] at hc
    rcases hc with hc | rfl
    · simp [labelShape, isAlphanumeric_of_lower hc]
    · rfl
  · exact fun _ => isAlphanumeric_of_lower
  · exact fun _ => isAlphanumeric_of_lower

theorem isServiceName_iff :
    isServiceName s = true ↔ s.length ≤ 63 ∧ dns1035Shape.accepts s.toList = true := by
  rw [isServiceName, Bool.and_eq_true, decide_eq_true_eq]

theorem isLabelValue_of_serviceName (h : isServiceName s = true) : isLabelValue s = true := by
  rw [isServiceName_iff] at h
  simp [isLabelValue, h.1, label_of_dns1123 (dns1123_of_dns1035 h.2)]

theorem isDns1123Subdomain_of_hostname (h : isHostname s = true) : isDns1123Subdomain s = true := by
  rw [isHostname, Bool.and_eq_true, decide_eq_true_eq] at h
  have hsplit : s.toList.splitOn '.' = [s.toList] := by
    apply List.splitOn_eq_singleton
    intro hdot
    exact absurd (WordShape.inner_of_mem (WordShape.opens_of_accepts h.2) hdot) (by decide)
  rw [isDns1123Subdomain, hsplit, Bool.and_eq_true, decide_eq_true_eq, List.all_cons, List.all_nil,
    Bool.and_true]
  exact ⟨by omega, h.2⟩

theorem isServiceName_append {ending : String} (h : dns1035Shape.accepts s.toList = true)
    (hending : dns1035Shape.closes ending.toList = true)
    (hlength : s.length + ending.length ≤ 63) : isServiceName (s ++ ending) = true := by
  rw [isServiceName_iff, String.length_append, String.toList_append]
  exact ⟨hlength, WordShape.accepts_append (WordShape.opens_of_accepts h) hending⟩

theorem isHostname_append {ending : String} (h : dns1123Shape.accepts s.toList = true)
    (hending : dns1123Shape.closes ending.toList = true)
    (hlength : s.length + ending.length ≤ 63) : isHostname (s ++ ending) = true := by
  rw [isHostname, Bool.and_eq_true, decide_eq_true_eq, String.length_append, String.toList_append]
  exact ⟨hlength, WordShape.accepts_append (WordShape.opens_of_accepts h) hending⟩

end Rules

end StreamlineOperator.Kubernetes
