/- source: what Kubernetes makes of the objects src/src/controllers/cluster.rs renders
   digest: The environment and the files a container sees, and the ports behind a host name. -/

import StreamlineOperator.Kubernetes.Objects

set_option autoImplicit false
set_option relaxedAutoImplicit false

namespace StreamlineOperator.Kubernetes

open Foundation

/-! The environment of a container. -/

/-- The entry that takes effect for a name: the last one. -/
def effectiveEnv (envs : List EnvVar) (name : String) : Option EnvVar :=
  envs.reverse.find? (fun env => env.name = name)

theorem effectiveEnv_of_mem {envs : List EnvVar} (hnodup : (envs.map EnvVar.name).Nodup)
    {env : EnvVar} (hmem : env ∈ envs) : effectiveEnv envs env.name = some env := by
  unfold effectiveEnv
  induction envs with
  | nil => simp at hmem
  | cons first rest ih =>
    simp only [List.map_cons, List.nodup_cons, List.mem_map, not_exists, not_and] at hnodup
    obtain ⟨hfirst, hrest⟩ := hnodup
    rw [List.reverse_cons, List.find?_append]
    rcases List.mem_cons.mp hmem with rfl | hmem
    · have hnone : rest.reverse.find? (fun e => e.name = env.name) = none := by
        rw [List.find?_eq_none]
        intro e he
        simpa using hfirst e (List.mem_reverse.mp he)
      simp [hnone]
    · simp [ih hrest hmem]

/-! The files of a container. -/

/-- In a container with these mounts, the file at `path` comes from the ConfigMap
and has this content. -/
def MountsFile (volumes : List Volume) (mounts : List VolumeMount) (configMap : ConfigMap)
    (path content : String) : Prop :=
  ∃ mount ∈ mounts, ∃ volume ∈ volumes, ∃ source key,
    volume.name = mount.name ∧ volume.configMap = some source ∧
      source.name = configMap.metadata.nameAny ∧ (configMap.data.getD ∅)[key]? = some content ∧
        path = mount.mountPath ++ "/" ++ key

/-! Ports by name. -/

/-- The port a Service publishes under a name. -/
def Service.publishedPort (self : Service) (portName : String) : Option Int32 :=
  ((self.spec.bind ServiceSpec.ports).getD []).findSome?
    (fun p => if p.name = some portName then some p.port else none)

/-- The port a container declares under a name. -/
def Container.declaredPort (self : Container) (portName : String) : Option Int32 :=
  (self.ports.getD []).findSome?
    (fun p => if p.name = some portName then some p.containerPort else none)

/-! Host names. -/

/-- What a host name inside the cluster stands for: a Service, or one pod of a
StatefulSet behind its governing Service. -/
inductive Backend where
  | service (service : Service)
  | pod (statefulSet : StatefulSet) (governing : Service) (ordinal : Nat)

namespace Backend

/-- The host name, up to the cluster's domain. -/
def host : Backend → String
  | service s => s.metadata.nameAny ++ "." ++ s.metadata.namespaceOrDefault
  | pod statefulSet governing ordinal =>
    statefulSet.metadata.nameAny ++ "-" ++ toString ordinal ++ "." ++ governing.metadata.nameAny ++
      "." ++ governing.metadata.namespaceOrDefault

/-- The Service whose ports the host name answers on. -/
def portsOf : Backend → Service
  | service s => s
  | pod _ governing _ => governing

/-- The host name resolves: a pod has one only if the StatefulSet names the
Service, the Service is headless and the pod is one of its replicas. -/
def Resolves : Backend → Prop
  | service _ => True
  | pod statefulSet governing ordinal =>
    governing.spec.bind ServiceSpec.clusterIp = some "None" ∧
      ∃ spec, statefulSet.spec = some spec ∧ spec.serviceName = governing.metadata.nameAny ∧
        ∃ replicas, spec.replicas = some replicas ∧ (ordinal : Int) < replicas.toInt

end Backend

/-- An address `scheme host suffix : port path`, for one of the domain suffixes
under which a host name of the cluster resolves. -/
def AddressOf (scheme path : String) (backend : Backend) (port : Int32) (address : String) : Prop :=
  ∃ suffix ∈ [".svc", ".svc.cluster.local"],
    address = scheme ++ backend.host ++ suffix ++ ":" ++ toString port ++ path

end StreamlineOperator.Kubernetes
