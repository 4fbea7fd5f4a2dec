/- source: src/src/crd/cluster.rs
   digest: The StreamlineCluster spec with its defaults, its environment entries, and `validate`. -/

import StreamlineOperator.Foundation.Text
import StreamlineOperator.Upgrade

set_option autoImplicit false
set_option relaxedAutoImplicit false

namespace StreamlineOperator.Crd

open Foundation

/-! Default value functions. -/

def defaultReplicas : Int32 := 1

def defaultImage : String := "ghcr.io/streamlinelabs/streamline:0.4.0"

def defaultPullPolicy : String := "IfNotPresent"

def defaultKafkaPort : Int32 := 9092

def defaultHttpPort : Int32 := 9094

def defaultRaftPort : Int32 := 9095

def defaultStorageSize : String := "10Gi"

def defaultAccessModes : List String := ["ReadWriteOnce"]

def defaultRackLabel : String := "topology.kubernetes.io/zone"

def defaultLogLevel : String := "info"

def defaultUpdateType : String := "RollingUpdate"

def defaultMinReplicas : Int32 := 1

def defaultMaxReplicas : Int32 := 10

def defaultCpuTarget : Int32 := 70

def defaultMemoryTarget : Int32 := 80

def defaultLagThreshold : Int64 := 10000

def defaultMpsThreshold : Int64 := 100000

structure ScalingPolicySpec where
  type : String
  value : Int32
  periodSeconds : Int32
  deriving DecidableEq, Repr

structure ScalingRulesSpec where
  stabilizationWindowSeconds : Option Int32
  selectPolicy : Option String
  policies : List ScalingPolicySpec
  deriving DecidableEq, Repr

structure ScalingBehaviorSpec where
  scaleUp : Option ScalingRulesSpec
  scaleDown : Option ScalingRulesSpec
  deriving DecidableEq, Repr

structure AutoScalingSpec where
  enabled : Bool := false
  minReplicas : Int32 := defaultMinReplicas
  maxReplicas : Int32 := defaultMaxReplicas
  targetCpuUtilization : Int32 := defaultCpuTarget
  targetMemoryUtilization : Int32 := defaultMemoryTarget
  partitionAware : Bool := false
  targetLagPerPartition : Int64 := defaultLagThreshold
  targetMessagesPerSecond : Int64 := defaultMpsThreshold
  behavior : Option ScalingBehaviorSpec := none
  deriving DecidableEq, Repr

structure ResourceList where
  cpu : Option String := none
  memory : Option String := none
  deriving DecidableEq, Repr

structure ResourceRequirements where
  limits : ResourceList := {}
  requests : ResourceList := {}
  deriving DecidableEq, Repr

structure ClusterStorage where
  storageClassName : Option String := none
  size : String := defaultStorageSize
  accessModes : List String := defaultAccessModes
  deriving DecidableEq, Repr

structure ClusterTls where
  enabled : Bool
  secretName : String
  mtlsEnabled : Bool := false
  caSecretName : Option String := none
  insecureSkipVerify : Bool := false
  deriving DecidableEq, Repr

structure SecretKeyRef where
  name : String
  key : String
  deriving DecidableEq, Repr

structure ConfigMapKeyRef where
  name : String
  key : String
  deriving DecidableEq, Repr

structure EnvVarSource where
  secretKeyRef : Option SecretKeyRef := none
  configMapKeyRef : Option ConfigMapKeyRef := none
  deriving DecidableEq, Repr

structure EnvVar where
  name : String
  value : Option String := none
  valueFrom : Option EnvVarSource := none
  deriving DecidableEq, Repr

/-- The single reference an `EnvVarSource` resolves to. -/
inductive EnvVarRef where
  | secret (ref : SecretKeyRef)
  | configMap (ref : ConfigMapKeyRef)
  deriving DecidableEq, Repr

structure Toleration where
  key : Option String := none
  operator : Option String := none
  value : Option String := none
  effect : Option String := none
  tolerationSeconds : Option Int64 := none
  deriving DecidableEq, Repr

structure RackAwareness where
  enabled : Bool
  topologyKey : String := defaultRackLabel
  deriving DecidableEq, Repr

/-- The field default of `maxUnavailable` is absent; the default of the whole
block is `some 1`. -/
structure UpdateStrategy where
  type : String := defaultUpdateType
  maxUnavailable : Option Int32 := none
  deriving DecidableEq, Repr

def UpdateStrategy.default : UpdateStrategy where
  type := defaultUpdateType
  maxUnavailable := some 1

structure ClusterSpec where
  replicas : Int32 := defaultReplicas
  image : String := defaultImage
  imagePullPolicy : String := defaultPullPolicy
  resources : ResourceRequirements := {}
  storage : ClusterStorage := {}
  tls : Option ClusterTls := none
  kafkaPort : Int32 := defaultKafkaPort
  httpPort : Int32 := defaultHttpPort
  raftPort : Int32 := defaultRaftPort
  env : List EnvVar := []
  nodeSelector : StringMap := ∅
  tolerations : List Toleration := []
  podAntiAffinity : Bool := false
  rackAwareness : Option RackAwareness := none
  serviceAccountName : Option String := none
  logLevel : String := defaultLogLevel
  metricsEnabled : Bool := true
  updateStrategy : UpdateStrategy := .default
  autoscaling : Option AutoScalingSpec := none
  deriving DecidableEq

/-- Reject a key reference whose name or key is blank. -/
def incompleteRef (field name key : String) : Except String Unit :=
  if isBlank name then .error ("valueFrom." ++ field ++ ".name must not be empty")
  else if isBlank key then .error ("valueFrom." ++ field ++ ".key must not be empty")
  else .ok ()

/-- What the entry renders to: a literal (`none`), a reference, or the reason it
cannot be rendered. -/
def EnvVar.resolveSource (self : EnvVar) : Except String (Option EnvVarRef) :=
  if isBlank self.name then .error "name must not be empty"
  else
    match self.valueFrom with
    | none =>
      if self.value.isSome then .ok none
      else
        .error ("must set value or valueFrom (use value: \"\" for a deliberately empty " ++
          "variable)")
    | some source =>
      if self.value.isSome then .error "value and valueFrom are mutually exclusive"
      else
        match source.secretKeyRef, source.configMapKeyRef with
        | some _, some _ =>
          .error "valueFrom must set exactly one of secretKeyRef or configMapKeyRef"
        | some ref, none => do
          incompleteRef "secretKeyRef" ref.name ref.key
          .ok (some (.secret ref))
        | none, some ref => do
          incompleteRef "configMapKeyRef" ref.name ref.key
          .ok (some (.configMap ref))
        | none, none =>
          .error ("valueFrom must set secretKeyRef or configMapKeyRef; an empty valueFrom " ++
            "would render the variable as an empty string")

theorem EnvVar.resolveSource_eq_ok {self : EnvVar} {source : Option EnvVarRef}
    (h : self.resolveSource = .ok source) :
    (source = none ∧ self.valueFrom = none) ∨
      (∃ ref, source = some (.secret ref) ∧ self.value = none ∧
        self.valueFrom = some { secretKeyRef := some ref }) ∨
      ∃ ref, source = some (.configMap ref) ∧ self.value = none ∧
        self.valueFrom = some { configMapKeyRef := some ref } := by
  obtain ⟨name, value, valueFrom⟩ := self
  unfold resolveSource at h
  split at h
  · cases h
  cases valueFrom with
  | none =>
    cases value with
    | none => simp at h
    | some value => exact .inl ⟨(Except.ok.inj h).symm, rfl⟩
  | some from' =>
    cases value with
    | some value => simp at h
    | none =>
      obtain ⟨secretKeyRef, configMapKeyRef⟩ := from'
      cases secretKeyRef with
      | none =>
        cases configMapKeyRef with
        | none => simp at h
        | some ref =>
          cases hcheck : incompleteRef "configMapKeyRef" ref.name ref.key with
          | error reason => simp [hcheck, bind, Except.bind] at h
          | ok u =>
            simp only [Option.isSome_none, Bool.false_eq_true, if_false, hcheck, bind,
              Except.bind, Except.ok.injEq] at h
            exact .inr (.inr ⟨ref, h.symm, rfl, rfl⟩)
      | some ref =>
        cases configMapKeyRef with
        | some ref' => simp at h
        | none =>
          cases hcheck : incompleteRef "secretKeyRef" ref.name ref.key with
          | error reason => simp [hcheck, bind, Except.bind] at h
          | ok u =>
            simp only [Option.isSome_none, Bool.false_eq_true, if_false, hcheck, bind,
              Except.bind, Except.ok.injEq] at h
            exact .inr (.inl ⟨ref, h.symm, rfl, rfl⟩)

namespace ClusterSpec

def replicasErrors (self : ClusterSpec) : List String :=
  reject (self.replicas < 1)
      ("replicas must be >= 1, got " ++ toString self.replicas) ++
    reject (self.replicas > 1)
      ("replicas=" ++ toString self.replicas ++ " is not supported: the operator does not " ++
        "bootstrap Streamline raft peers yet (set replicas: 1), so " ++ toString self.replicas ++
        " independent brokers would be rendered instead of a quorum." ++
        Upgrade.remediationFor "spec.replicas" (self.replicas = Upgrade.legacyClusterReplicas))

/-- The range check made of each of the three ports. -/
def portErrors (name : String) (port : Int32) : List String :=
  reject (port < 1 || port > 65535) (name ++ " must be 1-65535, got " ++ toString port)

def distinctPortErrors (self : ClusterSpec) : List String :=
  reject (self.kafkaPort = self.httpPort || self.kafkaPort = self.raftPort ||
      self.httpPort = self.raftPort)
    "kafkaPort, httpPort, and raftPort must all be different"

/-- The messages for the environment entries from position `index` on. -/
def envErrors (index : Nat) : List EnvVar → List String
  | [] => []
  | env :: rest =>
    (match env.resolveSource with
      | .error reason =>
        let named := if isBlank env.name then "" else " (" ++ env.name ++ ")"
        ["env[" ++ toString index ++ "]" ++ named ++ ": " ++ reason]
      | .ok _ => []) ++ envErrors (index + 1) rest

/-- The placement settings the pod template does not carry. -/
def schedulingErrors (self : ClusterSpec) : List String :=
  reject self.podAntiAffinity
      ("podAntiAffinity is not supported: the operator renders no affinity rules onto the " ++
        "broker pod template (omit it or set it to false; with replicas capped at 1 there is " ++
        "no second pod to spread)." ++
        Upgrade.remediationFor "spec.podAntiAffinity"
          (self.podAntiAffinity = Upgrade.legacyPodAntiAffinity)) ++
    reject (self.rackAwareness.any RackAwareness.enabled)
      ("rackAwareness.enabled is not supported: the operator renders no topology spread " ++
        "constraints or rack labelling") ++
    reject (!self.tolerations.isEmpty)
      ("tolerations are not supported: the operator renders none onto the broker pod " ++
        "template, so the " ++ toString self.tolerations.length ++ " declared here would be " ++
        "silently dropped (nodeSelector is rendered and can be used instead)")

def autoscalingErrors (self : ClusterSpec) : List String :=
  match self.autoscaling with
  | none => []
  | some autoscaling =>
    if autoscaling.enabled then
      ["autoscaling.enabled is not supported: the operator only renders a standalone broker " ++
          "and cannot safely scale it above one replica"] ++
        reject (autoscaling.minReplicas < 1)
          ("autoscaling.minReplicas must be >= 1, got " ++ toString autoscaling.minReplicas) ++
        reject (autoscaling.maxReplicas < autoscaling.minReplicas)
          ("autoscaling.maxReplicas (" ++ toString autoscaling.maxReplicas ++
            ") must be >= minReplicas (" ++ toString autoscaling.minReplicas ++ ")") ++
        reject (autoscaling.targetCpuUtilization < 1 || autoscaling.targetCpuUtilization > 100)
          ("autoscaling.targetCpuUtilization must be 1-100, got " ++
            toString autoscaling.targetCpuUtilization)
    else []

def tlsErrors (self : ClusterSpec) : List String :=
  match self.tls with
  | none => []
  | some tls =>
    if tls.enabled then
      reject (isBlank tls.secretName)
          ("tls.secretName is required when tls.enabled is true: the operator mounts that " ++
            "Secret at /etc/streamline-tls") ++
        reject (tls.mtlsEnabled && tls.caSecretName.isNone)
          ("tls.caSecretName is required when tls.mtlsEnabled is true: client certificates " ++
            "cannot be verified without a CA bundle") ++
        reject tls.insecureSkipVerify
          ("tls.insecureSkipVerify is not supported: it is a client-side setting and the " ++
            "operator will not render a broker configuration that disables certificate " ++
            "verification")
    else reject tls.mtlsEnabled "tls.mtlsEnabled requires tls.enabled to be true"

/-- Every message, in the order the checks are made. -/
def errors (self : ClusterSpec) : List String :=
  self.replicasErrors ++ portErrors "kafkaPort" self.kafkaPort ++
    portErrors "httpPort" self.httpPort ++ portErrors "raftPort" self.raftPort ++
    self.distinctPortErrors ++ envErrors 0 self.env ++ self.schedulingErrors ++
    self.autoscalingErrors ++ self.tlsErrors

def validate (self : ClusterSpec) : Except (List String) Unit :=
  if self.errors.isEmpty then .ok () else .error self.errors

/-- What an accepted TLS block looks like. -/
@[mk_iff] structure TlsAccepted (tls : ClusterTls) : Prop where
  secretName : tls.enabled = true → isBlank tls.secretName = false
  caSecretName : tls.mtlsEnabled = true → tls.caSecretName.isSome = true
  insecureSkipVerify : tls.enabled = true → tls.insecureSkipVerify = false
  mtlsEnabled : tls.mtlsEnabled = true → tls.enabled = true

/-- What `validate` accepts, one field for each check it makes. -/
structure Accepted (spec : ClusterSpec) : Prop where
  replicas : spec.replicas = 1
  kafkaPort : 1 ≤ spec.kafkaPort ∧ spec.kafkaPort ≤ 65535
  httpPort : 1 ≤ spec.httpPort ∧ spec.httpPort ≤ 65535
  raftPort : 1 ≤ spec.raftPort ∧ spec.raftPort ≤ 65535
  portsDistinct : spec.kafkaPort ≠ spec.httpPort ∧ spec.kafkaPort ≠ spec.raftPort ∧
    spec.httpPort ≠ spec.raftPort
  env : ∀ env ∈ spec.env, ∃ source, env.resolveSource = .ok source
  podAntiAffinity : spec.podAntiAffinity = false
  rackAwareness : ∀ rack ∈ spec.rackAwareness, rack.enabled = false
  tolerations : spec.tolerations = []
  autoscaling : ∀ autoscaling ∈ spec.autoscaling, autoscaling.enabled = false
  tls : ∀ tls ∈ spec.tls, TlsAccepted tls

private theorem replicasErrors_eq_nil {spec : ClusterSpec} :
    spec.replicasErrors = [] ↔ spec.replicas = 1 := by
  simp only [replicasErrors, List.append_eq_nil_iff, reject_eq_nil, decide_eq_false_iff_not]
  grind

private theorem portErrors_eq_nil {name : String} {port : Int32} :
    portErrors name port = [] ↔ 1 ≤ port ∧ port ≤ 65535 := by
  simp only [portErrors, reject_eq_nil, Bool.or_eq_false_iff, decide_eq_false_iff_not]
  grind

private theorem distinctPortErrors_eq_nil {spec : ClusterSpec} :
    spec.distinctPortErrors = [] ↔ spec.kafkaPort ≠ spec.httpPort ∧
      spec.kafkaPort ≠ spec.raftPort ∧ spec.httpPort ≠ spec.raftPort := by
  simp [distinctPortErrors, and_assoc]

private theorem envErrors_eq_nil {index : Nat} {envs : List EnvVar} :
    envErrors index envs = [] ↔ ∀ env ∈ envs, ∃ source, env.resolveSource = .ok source := by
  induction envs generalizing index with
  | nil => simp [envErrors]
  | cons env envs ih =>
    simp only [envErrors, List.append_eq_nil_iff, ih, List.forall_mem_cons]
    cases env.resolveSource <;> simp

private theorem schedulingErrors_eq_nil {spec : ClusterSpec} :
    spec.schedulingErrors = [] ↔ spec.podAntiAffinity = false ∧
      (∀ rack ∈ spec.rackAwareness, rack.enabled = false) ∧ spec.tolerations = [] := by
  have hrack : spec.rackAwareness.any RackAwareness.enabled = false ↔
      ∀ rack ∈ spec.rackAwareness, rack.enabled = false := by
    cases spec.rackAwareness <;> simp
  have htol : (!spec.tolerations.isEmpty) = false ↔ spec.tolerations = [] := by simp
  simp only [schedulingErrors, List.append_eq_nil_iff, reject_eq_nil, hrack, htol, and_assoc]

private theorem autoscalingErrors_eq_nil {spec : ClusterSpec} :
    spec.autoscalingErrors = [] ↔
      ∀ autoscaling ∈ spec.autoscaling, autoscaling.enabled = false := by
  unfold autoscalingErrors
  cases spec.autoscaling with
  | none => simp
  | some autoscaling =>
    cases h : autoscaling.enabled <;>
      simp only [Option.mem_some_iff, forall_eq', h, Bool.false_eq_true, if_false, if_true,
        List.cons_append, reduceCtorEq]

private theorem tlsErrors_eq_nil {spec : ClusterSpec} :
    spec.tlsErrors = [] ↔ ∀ tls ∈ spec.tls, TlsAccepted tls := by
  unfold tlsErrors
  cases spec.tls with
  | none => simp
  | some tls =>
    obtain ⟨enabled, secretName, mtlsEnabled, caSecretName, insecureSkipVerify⟩ := tls
    cases enabled <;> cases mtlsEnabled <;> cases insecureSkipVerify <;>
      simp [-String.reduceAppend, tlsAccepted_iff]

/-- The validator accepts exactly the specs that pass every check. -/
theorem validate_eq_ok {spec : ClusterSpec} : spec.validate = .ok () ↔ Accepted spec := by
  have herrors : spec.validate = .ok () ↔ spec.errors = [] := by
    cases h : spec.errors <;> simp [validate, h]
  rw [herrors]
  simp only [errors, List.append_eq_nil_iff, replicasErrors_eq_nil, portErrors_eq_nil,
    distinctPortErrors_eq_nil, envErrors_eq_nil, schedulingErrors_eq_nil,
    autoscalingErrors_eq_nil, tlsErrors_eq_nil]
  constructor
  · rintro ⟨⟨⟨⟨⟨⟨⟨⟨hr, hk⟩, hh⟩, hf⟩, hd⟩, he⟩, hp, hrack, ht⟩, ha⟩, htls⟩
    exact ⟨hr, hk, hh, hf, hd, he, hp, hrack, ht, ha, htls⟩
  · rintro ⟨hr, hk, hh, hf, hd, he, hp, hrack, ht, ha, htls⟩
    exact ⟨⟨⟨⟨⟨⟨⟨⟨hr, hk⟩, hh⟩, hf⟩, hd⟩, he⟩, hp, hrack, ht⟩, ha⟩, htls⟩

/-! How the messages of each check begin. -/

section Initials

variable {spec : ClusterSpec} {message : String}

theorem initials_replicasErrors (h : message ∈ spec.replicasErrors) :
    initials message = ['r', 'e'] := by
  rw [replicasErrors, List.mem_append, mem_reject, mem_reject] at h
  rcases h with ⟨-, rfl⟩ | ⟨-, rfl⟩
  · exact initials_append _
  · simp only [String.append_assoc]
    exact initials_append _

theorem initials_portErrors {a b : Char} {letters : List Char} {port : Int32}
    (h : message ∈ portErrors (String.ofList (a :: b :: letters)) port) :
    initials message = [a, b] := by
  obtain ⟨-, rfl⟩ := mem_reject.mp h
  rw [String.append_assoc]
  exact initials_append _

theorem initials_distinctPortErrors (h : message ∈ spec.distinctPortErrors) :
    initials message = ['k', 'a'] := by
  obtain ⟨-, rfl⟩ := mem_reject.mp h
  exact initials_ofList

theorem initials_envErrors {index : Nat} {envs : List EnvVar}
    (h : message ∈ envErrors index envs) : initials message = ['e', 'n'] := by
  induction envs generalizing index with
  | nil => cases h
  | cons env envs ih =>
    rw [envErrors, List.mem_append] at h
    rcases h with h | h
    · cases hsource : env.resolveSource with
      | ok source => simp [hsource] at h
      | error reason =>
        rw [hsource] at h
        obtain rfl := List.mem_singleton.mp h
        simp only [String.append_assoc]
        exact initials_append _
    · exact ih h

theorem initials_schedulingErrors (h : message ∈ spec.schedulingErrors) :
    (spec.podAntiAffinity = true ∧ initials message = ['p', 'o']) ∨
      initials message = ['r', 'a'] ∨ initials message = ['t', 'o'] := by
  simp only [schedulingErrors, List.mem_append, mem_reject] at h
  rcases h with (⟨hanti, rfl⟩ | ⟨-, rfl⟩) | ⟨-, rfl⟩
  · left
    simp only [String.append_assoc]
    exact ⟨hanti, initials_append _⟩
  · exact .inr (.inl (initials_append _))
  · right
    right
    simp only [String.append_assoc]
    exact initials_append _

theorem initials_autoscalingErrors (h : message ∈ spec.autoscalingErrors) :
    initials message = ['a', 'u'] := by
  unfold autoscalingErrors at h
  split at h
  · cases h
  · split at h
    · simp only [List.mem_append, List.mem_singleton, mem_reject] at h
      rcases h with ((rfl | ⟨-, rfl⟩) | ⟨-, rfl⟩) | ⟨-, rfl⟩
      · exact initials_append _
      · exact initials_append _
      · simp only [String.append_assoc]
        exact initials_append _
      · exact initials_append _
    · cases h

theorem initials_tlsErrors (h : message ∈ spec.tlsErrors) : initials message = ['t', 'l'] := by
  unfold tlsErrors at h
  split at h
  · cases h
  · split at h
    · simp only [List.mem_append, mem_reject] at h
      rcases h with (⟨-, rfl⟩ | ⟨-, rfl⟩) | ⟨-, rfl⟩
      · exact initials_append _
      · exact initials_append _
      · rw [String.append_assoc]
        exact initials_append _
    · obtain ⟨-, rfl⟩ := mem_reject.mp h
      exact initials_ofList

end Initials

end ClusterSpec

end StreamlineOperator.Crd
