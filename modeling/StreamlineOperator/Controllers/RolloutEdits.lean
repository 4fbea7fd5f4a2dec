/- source: src/src/controllers/cluster.rs (rendering); src/src/crd/cluster.rs
   digest: The spec edits that roll out, setting by setting. -/

import StreamlineOperator.Controllers.Environment
import StreamlineOperator.Controllers.Rollout

set_option autoImplicit false
set_option relaxedAutoImplicit false

namespace StreamlineOperator.Controllers.ClusterController

open Foundation
open Kubernetes
open Crd (ClusterSpec ClusterTls StreamlineCluster)

/-- The Secrets a TLS block has mounted: the key pair and, with mTLS, the CA bundle. -/
def mountedTls (tls : Option ClusterTls) : Option (String × Option String) :=
  (tls.filter ClusterTls.enabled).map
    (fun tls => (tls.secretName, tls.caSecretName.filter (fun _ => tls.mtlsEnabled)))

/-- The entries of `spec.env` under one name. -/
def envNamed (spec : ClusterSpec) (name : String) : List Crd.EnvVar :=
  spec.env.filter (fun env => env.name = name)

/-- The mutable settings are those of `first`, except for environment variables and
resource quantities that `first` does not set. -/
structure KeepsSettings (first later : ClusterSpec) : Prop where
  image : later.image = first.image
  kafkaPort : later.kafkaPort = first.kafkaPort
  httpPort : later.httpPort = first.httpPort
  raftPort : later.raftPort = first.raftPort
  logLevel : later.logLevel = first.logLevel
  tls : mountedTls later.tls = mountedTls first.tls
  env : ∀ name, name ∈ operatorEnvNames ∨ envNamed first name ≠ [] →
    envNamed later name = envNamed first name
  cpuLimit : ∀ quantity, first.resources.limits.cpu = some quantity →
    later.resources.limits.cpu = some quantity
  memoryLimit : ∀ quantity, first.resources.limits.memory = some quantity →
    later.resources.limits.memory = some quantity
  cpuRequest : ∀ quantity, first.resources.requests.cpu = some quantity →
    later.resources.requests.cpu = some quantity
  memoryRequest : ∀ quantity, first.resources.requests.memory = some quantity →
    later.resources.requests.memory = some quantity

/-! The TLS block is rendered from what it mounts. -/

/-- What every `[tls]` section starts with. -/
def tlsHead : String :=
  "\n[tls]\n" ++ "enabled = true\n" ++ "cert = \"" ++ tlsMountPath ++ "/tls.crt\"\n" ++
    "key = \"" ++ tlsMountPath ++ "/tls.key\"\n"

/-- What mTLS adds to it. -/
def mtlsTail : String :=
  "require_client_cert = true\n" ++ "ca_cert = \"" ++ tlsCaMountPath ++ "/ca.crt\"\n"

/-- The `[tls]` section for what is mounted. -/
def tlsText : Option (String × Option String) → String
  | none => ""
  | some (_, caSecret) => tlsHead ++ (if caSecret.isSome then mtlsTail else "")

/-- The certificate volumes and mounts for what is mounted. -/
def tlsVolumes : Option (String × Option String) → List Volume × List VolumeMount
  | none => ([], [])
  | some (secretName, none) =>
    ([secretVolume tlsVolumeName secretName], [readOnlyMount tlsVolumeName tlsMountPath])
  | some (secretName, some caSecret) =>
    ([secretVolume tlsVolumeName secretName, secretVolume tlsCaVolumeName caSecret],
      [readOnlyMount tlsVolumeName tlsMountPath, readOnlyMount tlsCaVolumeName tlsCaMountPath])

theorem tls_cases {tls : Option ClusterTls} (h : ∀ block ∈ tls, ClusterSpec.TlsAccepted block) :
    (mountedTls tls = none ∧ renderTls tls = "" ∧ buildTlsVolumes tls = ([], [])) ∨
      ∃ secretName caSecret, mountedTls tls = some (secretName, caSecret) ∧
        renderTls tls = tlsText (some (secretName, caSecret)) ∧
        buildTlsVolumes tls = tlsVolumes (some (secretName, caSecret)) := by
  cases tls with
  | none => exact .inl ⟨rfl, rfl, rfl⟩
  | some tls =>
    obtain ⟨hsecret, hca, -, -⟩ := h tls rfl
    obtain ⟨enabled, secretName, mtlsEnabled, caSecretName, insecureSkipVerify⟩ := tls
    cases enabled with
    | false => exact .inl ⟨rfl, rfl, rfl⟩
    | true =>
      have hnamed : isBlank secretName = false := hsecret rfl
      cases mtlsEnabled with
      | false =>
        refine .inr ⟨secretName, none, ?_, rfl, ?_⟩
        · cases caSecretName <;> rfl
        · cases caSecretName <;> simp only [buildTlsVolumes, hnamed] <;> rfl
      | true =>
        obtain ⟨caSecret, rfl⟩ := Option.isSome_iff_exists.mp (hca rfl)
        refine .inr ⟨secretName, some caSecret, rfl, rfl, ?_⟩
        simp only [buildTlsVolumes, hnamed]
        rfl

theorem renderTls_eq {tls : Option ClusterTls} (h : ∀ block ∈ tls, ClusterSpec.TlsAccepted block) :
    renderTls tls = tlsText (mountedTls tls) := by
  rcases tls_cases h with ⟨hmounted, htext, -⟩ | ⟨secretName, caSecret, hmounted, htext, -⟩
  all_goals
    rw [hmounted, htext]
  rfl

theorem buildTlsVolumes_eq {tls : Option ClusterTls}
    (h : ∀ block ∈ tls, ClusterSpec.TlsAccepted block) :
    buildTlsVolumes tls = tlsVolumes (mountedTls tls) := by
  rcases tls_cases h with ⟨hmounted, -, hvolumes⟩ | ⟨secretName, caSecret, hmounted, -, hvolumes⟩
  all_goals
    rw [hmounted, hvolumes]
  rfl

theorem configMap_of_mem_tlsVolumes {mounted : Option (String × Option String)} {volume : Volume}
    (h : volume ∈ (tlsVolumes mounted).1) : volume.configMap = none := by
  match mounted with
  | none => simp [tlsVolumes] at h
  | some (_, none) =>
    obtain rfl : volume = _ := by simpa [tlsVolumes] using h
    rfl
  | some (_, some _) =>
    simp only [tlsVolumes, List.mem_cons, List.not_mem_nil, or_false] at h
    rcases h with rfl | rfl <;> rfl

theorem eq_of_tlsText {first later : Option (String × Option String)}
    (htext : tlsText later = tlsText first)
    (hvolumes : ∀ volume ∈ (tlsVolumes first).1, volume ∈ (tlsVolumes later).1) :
    later = first := by
  have hhead : ∀ tail, tlsHead ++ tail ≠ "" := by
    intro tail htail
    simp [tlsHead] at htail
  have htail : mtlsTail ≠ "" := by
    intro h
    unfold mtlsTail at h
    have hend := (String.append_eq_empty_iff.mp h).2
    simp at hend
  match first, later with
  | none, none => rfl
  | none, some _ => exact absurd htext (hhead _)
  | some _, none => exact absurd htext.symm (hhead _)
  | some (secretName, first), some (secretName', later) =>
    have hmtls := (String.append_right_inj tlsHead).mp htext
    match first, later with
    | none, some _ => exact absurd hmtls htail
    | some _, none => exact absurd hmtls.symm htail
    | none, none =>
      have hsame : secretName = secretName' := by
        simpa [tlsVolumes, secretVolume] using hvolumes
      rw [hsame]
    | some caSecret, some caSecret' =>
      have hsame : secretName = secretName' ∧ caSecret = caSecret' := by
        simpa [tlsVolumes, secretVolume, tlsVolumeName, tlsCaVolumeName] using hvolumes
      rw [hsame.1, hsame.2]

theorem valueAt_buildResourceList {resources : Crd.ResourceList} {key quantity : String} :
    valueAt (buildResourceList resources) key = some quantity ↔
      (key = "cpu" ∧ resources.cpu = some quantity) ∨
        (key = "memory" ∧ resources.memory = some quantity) := by
  have hpresent : ∀ quantities : StringMap,
      valueAt (if quantities.isEmpty then none else some quantities) key = quantities[key]? := by
    intro quantities
    split
    · rename_i hempty
      simp [valueAt, Std.ExtTreeMap.isEmpty_iff.mp hempty]
    · rfl
  obtain ⟨cpu, memory⟩ := resources
  simp only [buildResourceList, hpresent]
  by_cases hmemory : "memory" = key
  · subst hmemory
    cases cpu <;> cases memory <;> simp only [insertQuantity, StringMap.getElem?_insert'] <;> simp
  · by_cases hcpu : "cpu" = key
    · subst hcpu
      cases cpu <;> cases memory <;> simp only [insertQuantity, StringMap.getElem?_insert'] <;> simp
    · have hnone : ∀ name, name = key ↔ key = name := fun name => eq_comm
      rw [hnone] at hmemory hcpu
      cases cpu <;> cases memory <;>
        simp [insertQuantity, hnone, hmemory, hcpu]

/-! The environment, name by name. -/

theorem buildEnvVar_eq_some_name {env : Crd.EnvVar} {built : Kubernetes.EnvVar}
    (h : buildEnvVar env = some built) : built.name = env.name := by
  unfold buildEnvVar at h
  split at h
  · cases h
    rfl
  · cases h
    rfl
  · cases h

theorem buildEnvVar_injective {a b : Crd.EnvVar} (ha : ∃ source, a.resolveSource = .ok source)
    (hb : ∃ source, b.resolveSource = .ok source) (h : buildEnvVar a = buildEnvVar b) : a = b := by
  obtain ⟨source, ha⟩ := ha
  obtain ⟨source', hb⟩ := hb
  obtain ⟨name, value, valueFrom⟩ := a
  obtain ⟨name', value', valueFrom'⟩ := b
  simp only [buildEnvVar, ha, hb] at h
  rcases Crd.EnvVar.resolveSource_eq_ok ha with ⟨rfl, hfrom⟩ | ⟨ref, rfl, hvalue, hfrom⟩ |
      ⟨ref, rfl, hvalue, hfrom⟩ <;>
    rcases Crd.EnvVar.resolveSource_eq_ok hb with ⟨rfl, hfrom'⟩ | ⟨ref', rfl, hvalue', hfrom'⟩ |
      ⟨ref', rfl, hvalue', hfrom'⟩ <;>
    simp_all [buildEnvVarSource]
  · obtain ⟨secret, key⟩ := ref
    obtain ⟨secret', key'⟩ := ref'
    simp_all
  · obtain ⟨configMap, key⟩ := ref
    obtain ⟨configMap', key'⟩ := ref'
    simp_all

theorem filterMap_injOn {α β : Type} {f : α → Option β} {l₁ l₂ : List α}
    (h₁ : ∀ x ∈ l₁, (f x).isSome = true) (h₂ : ∀ x ∈ l₂, (f x).isSome = true)
    (hinj : ∀ x ∈ l₁, ∀ y ∈ l₂, f x = f y → x = y) (h : l₁.filterMap f = l₂.filterMap f) :
    l₁ = l₂ := by
  induction l₁ generalizing l₂ with
  | nil =>
    cases l₂ with
    | nil => rfl
    | cons y l₂ =>
      obtain ⟨b, hb⟩ := Option.isSome_iff_exists.mp (h₂ y List.mem_cons_self)
      simp [List.filterMap_cons_some hb] at h
  | cons x l₁ ih =>
    obtain ⟨a, ha⟩ := Option.isSome_iff_exists.mp (h₁ x List.mem_cons_self)
    cases l₂ with
    | nil => simp [List.filterMap_cons_some ha] at h
    | cons y l₂ =>
      obtain ⟨b, hb⟩ := Option.isSome_iff_exists.mp (h₂ y List.mem_cons_self)
      rw [List.filterMap_cons_some ha, List.filterMap_cons_some hb] at h
      obtain ⟨hab, hrest⟩ := List.cons.inj h
      have hxy : x = y := hinj x List.mem_cons_self y List.mem_cons_self (by rw [ha, hb, hab])
      have hl : l₁ = l₂ := ih (fun z hz => h₁ z (List.mem_cons_of_mem _ hz))
        (fun z hz => h₂ z (List.mem_cons_of_mem _ hz))
        (fun z hz w hw => hinj z (List.mem_cons_of_mem _ hz) w (List.mem_cons_of_mem _ hw)) hrest
      rw [hxy, hl]

theorem containerEnv_named (cluster : StreamlineCluster) (name : String) :
    (containerEnv cluster).filter (fun env => env.name = name) =
      (operatorEnv cluster).filter (fun env => env.name = name) ++
        (envNamed cluster.spec name).filterMap buildEnvVar := by
  have hspec : ∀ envs : List Crd.EnvVar,
      (envs.filterMap buildEnvVar).filter (fun env => env.name = name) =
        (envs.filter (fun env => env.name = name)).filterMap buildEnvVar := by
    intro envs
    induction envs with
    | nil => rfl
    | cons env envs ih =>
      cases hbuilt : buildEnvVar env with
      | none => by_cases hname : env.name = name <;> simp [hbuilt, hname, ih]
      | some built =>
        have hsame := buildEnvVar_eq_some_name hbuilt
        by_cases hname : env.name = name <;> simp [hbuilt, hname, hsame, ih]
  simp only [containerEnv, buildContainer, Option.getD_some, List.filter_append, hspec, envNamed]

theorem operatorEnv_named_length (first later : StreamlineCluster) (name : String) :
    ((operatorEnv first).filter (fun env => env.name = name)).length =
      ((operatorEnv later).filter (fun env => env.name = name)).length := by
  have hlength : ∀ cluster, ((operatorEnv cluster).filter (fun env => env.name = name)).length =
      (operatorEnvNames.filter (fun other => other = name)).length := by
    intro cluster
    rw [← operatorEnv_names cluster, List.filter_map, List.length_map]
    rfl
  rw [hlength, hlength]

section Extends

variable {first later : StreamlineCluster}

theorem container_extends
    (h : (Child.statefulSet.fields first).Extends (Child.statefulSet.fields later)) :
    (buildContainer first).fields.Extends (buildContainer later).fields := by
  intro field v hfield
  exact h (StatefulSetField.pod (.container "streamline" field)) v hfield

theorem ports_kept (h : (buildContainer first).fields.Extends (buildContainer later).fields) :
    later.spec.kafkaPort = first.spec.kafkaPort ∧ later.spec.httpPort = first.spec.httpPort ∧
      later.spec.raftPort = first.spec.raftPort := by
  have hmem : ∀ port ∈ (buildContainer first).ports.getD [],
      port ∈ (buildContainer later).ports.getD [] :=
    fun port hport => mem_of_entriesAt _ _ (fun number => h (.port number)) hport
  simpa [buildContainer, eq_comm] using hmem

theorem volumes_kept
    (h : (Child.statefulSet.fields first).Extends (Child.statefulSet.fields later)) :
    ∀ volume ∈ (buildConfigAndTlsVolumes first).1, volume ∈ (buildConfigAndTlsVolumes later).1 :=
  fun _ hvolume => mem_of_entriesAt (some (buildConfigAndTlsVolumes first).1)
    (some (buildConfigAndTlsVolumes later).1)
    (fun name => h (StatefulSetField.pod (.volume name))) hvolume

theorem renderConfig_kept
    (h : (Child.configMap.fields first).Extends (Child.configMap.fields later)) :
    renderConfig later = renderConfig first := by
  have hdata : ∀ cluster, Child.configMap.fields cluster (ConfigMapField.data configFileName) =
      some (renderConfig cluster) := by
    intro cluster
    have hfile : valueAt (buildConfigmap cluster cluster.namespaceOrDefault).data configFileName =
        some (renderConfig cluster) := by
      simp [buildConfigmap, valueAt]
    exact hfile
  have hlater := h (ConfigMapField.data configFileName) _ (hdata first)
  rw [hdata later] at hlater
  exact Option.some.inj hlater

theorem isSome_buildEnvVar {env : Crd.EnvVar} (h : ∃ source, env.resolveSource = .ok source) :
    (buildEnvVar env).isSome = true := by
  obtain ⟨source, hsource⟩ := h
  obtain ⟨built, hbuilt, -⟩ := Option.map_eq_some_iff.mp (buildEnvVar_name hsource)
  rw [hbuilt]
  rfl

theorem env_kept (h : (buildContainer first).fields.Extends (buildContainer later).fields)
    (hfirst : ∀ env ∈ first.spec.env, ∃ source, env.resolveSource = .ok source)
    (hlater : ∀ env ∈ later.spec.env, ∃ source, env.resolveSource = .ok source) {name : String}
    (hname : name ∈ operatorEnvNames ∨ envNamed first.spec name ≠ []) :
    (operatorEnv later).filter (fun env => env.name = name) =
        (operatorEnv first).filter (fun env => env.name = name) ∧
      envNamed later.spec name = envNamed first.spec name := by
  have hof : ∀ {spec : ClusterSpec} {env : Crd.EnvVar}, env ∈ envNamed spec name → env ∈ spec.env :=
    fun henv => (List.mem_filter.mp henv).1
  have hpresent : (containerEnv first).filter (fun env => env.name = name) ≠ [] := by
    rw [containerEnv_named]
    rcases hname with hoperator | hspec
    · rw [← operatorEnv_names first, List.mem_map] at hoperator
      obtain ⟨env, henv, rfl⟩ := hoperator
      exact List.append_ne_nil_of_left_ne_nil
        (List.ne_nil_of_mem (List.mem_filter.mpr ⟨henv, by simp⟩)) _
    · obtain ⟨env, henv⟩ := List.exists_mem_of_ne_nil _ hspec
      obtain ⟨built, hbuilt⟩ :=
        Option.isSome_iff_exists.mp (isSome_buildEnvVar (hfirst env (hof henv)))
      exact List.append_ne_nil_of_right_ne_nil _
        (List.ne_nil_of_mem (List.mem_filterMap.mpr ⟨env, henv, hbuilt⟩))
  have hsame := (entriesAt_eq_some.mp
    (h (.env name) _ (entriesAt_eq_some.mpr ⟨rfl, hpresent⟩))).1
  change (containerEnv later).filter (fun env => env.name = name) =
    (containerEnv first).filter (fun env => env.name = name) at hsame
  rw [containerEnv_named, containerEnv_named] at hsame
  obtain ⟨hoperator, hspec⟩ := List.append_inj hsame (operatorEnv_named_length later first name)
  refine ⟨hoperator, filterMap_injOn ?_ ?_ ?_ hspec⟩
  · exact fun env henv => isSome_buildEnvVar (hlater env (hof henv))
  · exact fun env henv => isSome_buildEnvVar (hfirst env (hof henv))
  · exact fun a ha b hb => buildEnvVar_injective (hlater a (hof ha)) (hfirst b (hof hb))

theorem logLevel_kept (h : (buildContainer first).fields.Extends (buildContainer later).fields)
    (hfirst : ∀ env ∈ first.spec.env, ∃ source, env.resolveSource = .ok source)
    (hlater : ∀ env ∈ later.spec.env, ∃ source, env.resolveSource = .ok source) :
    later.spec.logLevel = first.spec.logLevel := by
  have hlevel : ∀ cluster, (operatorEnv cluster).filter
      (fun env => env.name = "STREAMLINE_LOG_LEVEL") =
        [{ name := "STREAMLINE_LOG_LEVEL", value := some cluster.spec.logLevel }] := fun _ => rfl
  have hsame := (env_kept h hfirst hlater (.inl (by decide : "STREAMLINE_LOG_LEVEL" ∈ _))).1
  rw [hlevel, hlevel] at hsame
  simpa using hsame

theorem quantities_kept (h : (buildContainer first).fields.Extends (buildContainer later).fields) :
    (∀ quantity, first.spec.resources.limits.cpu = some quantity →
        later.spec.resources.limits.cpu = some quantity) ∧
      (∀ quantity, first.spec.resources.limits.memory = some quantity →
        later.spec.resources.limits.memory = some quantity) ∧
      (∀ quantity, first.spec.resources.requests.cpu = some quantity →
        later.spec.resources.requests.cpu = some quantity) ∧
      ∀ quantity, first.spec.resources.requests.memory = some quantity →
        later.spec.resources.requests.memory = some quantity := by
  have hlimit : ∀ cluster resource, (buildContainer cluster).fields (.limit resource) =
      valueAt (buildResourceList cluster.spec.resources.limits) resource := fun _ _ => rfl
  have hrequest : ∀ cluster resource, (buildContainer cluster).fields (.request resource) =
      valueAt (buildResourceList cluster.spec.resources.requests) resource := fun _ _ => rfl
  refine ⟨fun quantity hfirst => ?_, fun quantity hfirst => ?_, fun quantity hfirst => ?_,
    fun quantity hfirst => ?_⟩
  · have hkept := h (.limit "cpu") quantity (valueAt_buildResourceList.mpr (.inl ⟨rfl, hfirst⟩))
    simpa using valueAt_buildResourceList.mp ((hlimit later "cpu").symm.trans hkept)
  · have hkept := h (.limit "memory") quantity (valueAt_buildResourceList.mpr (.inr ⟨rfl, hfirst⟩))
    simpa using valueAt_buildResourceList.mp ((hlimit later "memory").symm.trans hkept)
  · have hkept := h (.request "cpu") quantity (valueAt_buildResourceList.mpr (.inl ⟨rfl, hfirst⟩))
    simpa using valueAt_buildResourceList.mp ((hrequest later "cpu").symm.trans hkept)
  · have hkept := h (.request "memory") quantity (valueAt_buildResourceList.mpr (.inr ⟨rfl, hfirst⟩))
    simpa using valueAt_buildResourceList.mp ((hrequest later "memory").symm.trans hkept)

/-- Children that extend the first ones keep the settings of the first spec. -/
theorem keepsSettings_of_extends (hfirst : ClusterSpec.Accepted first.spec)
    (hversion : LaterVersion first later)
    (h : ∀ child : Child, (child.fields first).Extends (child.fields later)) :
    KeepsSettings first.spec later.spec := by
  have hlater := ClusterSpec.validate_eq_ok.mp hversion.accepted
  have hset := h .statefulSet
  have hcontainer := container_extends hset
  obtain ⟨hkafka, hhttp, hraft⟩ := ports_kept hcontainer
  have hlevel := logLevel_kept hcontainer hfirst.env hlater.env
  obtain ⟨hcpuLimit, hmemoryLimit, hcpuRequest, hmemoryRequest⟩ := quantities_kept hcontainer
  have himage : later.spec.image = first.spec.image :=
    Option.some.inj (hcontainer .image first.spec.image rfl)
  have htext : tlsText (mountedTls later.spec.tls) = tlsText (mountedTls first.spec.tls) := by
    have hconfig := renderConfig_kept (h .configMap)
    have hheader : configHeader later = configHeader first := by
      unfold configHeader
      rw [hversion.sameName]
    have hserver : serverSection later = serverSection first := by
      simp only [serverSection, hkafka, hhttp, hlevel]
    rw [renderConfig_eq, renderConfig_eq, hheader, hserver] at hconfig
    rw [← renderTls_eq hlater.tls, ← renderTls_eq hfirst.tls]
    exact (String.append_right_inj _).mp hconfig
  have htls : mountedTls later.spec.tls = mountedTls first.spec.tls := by
    refine eq_of_tlsText htext fun volume hvolume => ?_
    have hkept := volumes_kept hset volume
    simp only [buildConfigAndTlsVolumes, buildTlsVolumes_eq hfirst.tls,
      buildTlsVolumes_eq hlater.tls, List.mem_cons] at hkept
    refine (hkept (.inr hvolume)).resolve_left ?_
    rintro rfl
    cases configMap_of_mem_tlsVolumes hvolume
  exact ⟨himage, hkafka, hhttp, hraft, hlevel, htls,
    fun name hname => (env_kept hcontainer hfirst.env hlater.env hname).2,
    hcpuLimit, hmemoryLimit, hcpuRequest, hmemoryRequest⟩

/-! And back. -/

theorem childMetadata_eq (h : LaterVersion first later) (name : String) :
    childMetadata later later.namespaceOrDefault name =
      childMetadata first first.namespaceOrDefault name := by
  simp only [childMetadata, commonLabels, ownerReference, h.sameName, h.sameNamespace, h.sameUid]

theorem podSelector_eq (h : LaterVersion first later) : podSelector later = podSelector first := by
  simp only [podSelector, h.sameName]

theorem buildConfigAndTlsVolumes_eq (hfirst : ClusterSpec.Accepted first.spec)
    (hversion : LaterVersion first later) (hkeeps : KeepsSettings first.spec later.spec) :
    buildConfigAndTlsVolumes later = buildConfigAndTlsVolumes first := by
  have hlater := ClusterSpec.validate_eq_ok.mp hversion.accepted
  simp only [buildConfigAndTlsVolumes, buildTlsVolumes_eq hfirst.tls, buildTlsVolumes_eq hlater.tls,
    hkeeps.tls, hversion.sameName]

theorem buildConfigmap_eq (hfirst : ClusterSpec.Accepted first.spec)
    (hversion : LaterVersion first later) (hkeeps : KeepsSettings first.spec later.spec) :
    buildConfigmap later later.namespaceOrDefault =
      buildConfigmap first first.namespaceOrDefault := by
  have hlater := ClusterSpec.validate_eq_ok.mp hversion.accepted
  have hconfig : renderConfig later = renderConfig first := by
    have htls : renderTls later.spec.tls = renderTls first.spec.tls := by
      rw [renderTls_eq hlater.tls, renderTls_eq hfirst.tls, hkeeps.tls]
    unfold renderConfig
    rw [hversion.sameName, hkeeps.kafkaPort, hkeeps.httpPort, hkeeps.logLevel, htls]
  rw [buildConfigmap, buildConfigmap, childMetadata_eq hversion, hversion.sameName, hconfig]

theorem services_eq (hversion : LaterVersion first later)
    (hkeeps : KeepsSettings first.spec later.spec) :
    headlessService later later.namespaceOrDefault =
        headlessService first first.namespaceOrDefault ∧
      clientService later later.namespaceOrDefault =
        clientService first first.namespaceOrDefault := by
  simp only [headlessService, clientService, childMetadata_eq hversion, podSelector_eq hversion,
    hversion.sameName, hkeeps.kafkaPort, hkeeps.httpPort, hkeeps.raftPort, and_self]

/-- The same StatefulSet around another container. -/
def withContainer (self : StatefulSet) (container : Container) : StatefulSet :=
  { self with
    spec := self.spec.map fun spec =>
      { spec with
        template := { spec.template with
          spec := spec.template.spec.map fun pod => { pod with containers := [container] } } } }

theorem withContainer_extends {set : StatefulSet} {spec : StatefulSetSpec} {pod : PodSpec}
    {old new : Container} (hspec : set.spec = some spec) (hpod : spec.template.spec = some pod)
    (hold : pod.containers = [old]) (hname : new.name = old.name)
    (h : old.fields.Extends new.fields) :
    set.fields.Extends (withContainer set new).fields := by
  obtain ⟨metadata, _⟩ := set
  obtain rfl := hspec
  obtain ⟨replicas, selector, serviceName, ⟨podMetadata, _⟩, claims, policy, strategy⟩ := spec
  obtain rfl := hpod
  intro field v hfield
  cases field with
  | pod field =>
    cases field with
    | container name field =>
      change (pod.containers.find? (fun container => container.name = name)).bind
        (fun container => container.fields field) = some v at hfield
      change ([new].find? (fun container => container.name = name)).bind
        (fun container => container.fields field) = some v
      rw [hold] at hfield
      by_cases hsame : old.name = name
      · rw [List.find?_cons_of_pos (by simpa using hsame), Option.bind_some] at hfield
        rw [List.find?_cons_of_pos (by simpa [hname] using hsame), Option.bind_some]
        exact h field v hfield
      · rw [List.find?_cons_of_neg (by simpa using hsame)] at hfield
        cases hfield
    | serviceAccountName | fsGroup | runAsNonRoot | nodeSelector | volume | affinity | tolerations
    | topologySpreadConstraints => exact hfield
  | metadata | replicas | selector | serviceName | templateMetadata | volumeClaimTemplates
  | podManagementPolicy | updateStrategyType | maxUnavailable => exact hfield

theorem buildStatefulset_eq (hfirst : ClusterSpec.Accepted first.spec)
    (hversion : LaterVersion first later) (hkeeps : KeepsSettings first.spec later.spec) :
    buildStatefulset later later.namespaceOrDefault =
      withContainer (buildStatefulset first first.namespaceOrDefault) (buildContainer later) := by
  have hedited := hversion.edited
  simp only [buildStatefulset, buildPodTemplate, withContainer, Option.map_some,
    childMetadata_eq hversion, podSelector_eq hversion, hversion.sameName,
    buildConfigAndTlsVolumes_eq hfirst hversion hkeeps,
    congrArg ClusterSpec.replicas hedited, congrArg ClusterSpec.storage hedited,
    congrArg ClusterSpec.updateStrategy hedited, congrArg ClusterSpec.nodeSelector hedited,
    congrArg ClusterSpec.serviceAccountName hedited]

theorem operatorEnv_eq (hkeeps : KeepsSettings first.spec later.spec) :
    operatorEnv later = operatorEnv first := by
  unfold operatorEnv
  rw [hkeeps.kafkaPort, hkeeps.httpPort, hkeeps.logLevel]

theorem env_extends (hkeeps : KeepsSettings first.spec later.spec) {name : String}
    {found : List Kubernetes.EnvVar}
    (h : entriesAt Kubernetes.EnvVar.name (buildContainer first).env name = some found) :
    entriesAt Kubernetes.EnvVar.name (buildContainer later).env name = some found := by
  obtain ⟨hfound, hne⟩ := entriesAt_eq_some.mp h
  refine entriesAt_eq_some.mpr ⟨?_, hne⟩
  change (containerEnv first).filter (fun env => env.name = name) = found at hfound
  change (containerEnv later).filter (fun env => env.name = name) = found
  have hname : name ∈ operatorEnvNames ∨ envNamed first.spec name ≠ [] := by
    by_cases hspec : envNamed first.spec name = []
    · rw [containerEnv_named, hspec, List.filterMap_nil, List.append_nil] at hfound
      obtain ⟨env, henv⟩ := List.exists_mem_of_ne_nil found hne
      rw [← hfound, List.mem_filter, decide_eq_true_eq] at henv
      rw [← operatorEnv_names first]
      exact .inl (List.mem_map.mpr ⟨env, henv⟩)
    · exact .inr hspec
  rw [containerEnv_named, operatorEnv_eq hkeeps, hkeeps.env name hname, ← containerEnv_named, hfound]

theorem container_extends_of_keeps (hfirst : ClusterSpec.Accepted first.spec)
    (hversion : LaterVersion first later) (hkeeps : KeepsSettings first.spec later.spec) :
    (buildContainer first).fields.Extends (buildContainer later).fields := by
  have hvolumes := buildConfigAndTlsVolumes_eq hfirst hversion hkeeps
  have hpolicy := congrArg ClusterSpec.imagePullPolicy hversion.edited
  intro field v hfield
  cases field with
  | image => exact (congrArg some hkeeps.image).trans hfield
  | imagePullPolicy => exact (congrArg some hpolicy).trans hfield
  | env name => exact env_extends hkeeps hfield
  | port number =>
    simp only [Container.fields, buildContainer, hkeeps.kafkaPort, hkeeps.httpPort,
      hkeeps.raftPort] at hfield ⊢
    exact hfield
  | volumeMount mountPath =>
    simp only [Container.fields, buildContainer, hvolumes] at hfield ⊢
    exact hfield
  | livenessProbe | readinessProbe | startupProbe =>
    simp only [Container.fields, buildContainer, hkeeps.httpPort] at hfield ⊢
    exact hfield
  | limit resource =>
    refine valueAt_buildResourceList.mpr ?_
    rcases valueAt_buildResourceList.mp hfield with ⟨rfl, hcpu⟩ | ⟨rfl, hmemory⟩
    · exact .inl ⟨rfl, hkeeps.cpuLimit v hcpu⟩
    · exact .inr ⟨rfl, hkeeps.memoryLimit v hmemory⟩
  | request resource =>
    refine valueAt_buildResourceList.mpr ?_
    rcases valueAt_buildResourceList.mp hfield with ⟨rfl, hcpu⟩ | ⟨rfl, hmemory⟩
    · exact .inl ⟨rfl, hkeeps.cpuRequest v hcpu⟩
    · exact .inr ⟨rfl, hkeeps.memoryRequest v hmemory⟩

/-- A later spec that keeps the settings renders all that was rendered first. -/
theorem extends_of_keepsSettings (hfirst : ClusterSpec.Accepted first.spec)
    (hversion : LaterVersion first later) (hkeeps : KeepsSettings first.spec later.spec)
    (child : Child) : (child.fields first).Extends (child.fields later) := by
  intro field v hfield
  cases child with
  | configMap =>
    rw [Child.fields, Child.object] at hfield ⊢
    rw [buildConfigmap_eq hfirst hversion hkeeps]
    exact hfield
  | headlessService =>
    rw [Child.fields, Child.object] at hfield ⊢
    rw [(services_eq hversion hkeeps).1]
    exact hfield
  | clientService =>
    rw [Child.fields, Child.object] at hfield ⊢
    rw [(services_eq hversion hkeeps).2]
    exact hfield
  | statefulSet =>
    rw [Child.fields, Child.object] at hfield ⊢
    rw [buildStatefulset_eq hfirst hversion hkeeps]
    have hcontainer := container_extends_of_keeps hfirst hversion hkeeps
    refine withContainer_extends rfl rfl rfl ?_ hcontainer field v hfield
    rfl

end Extends

/-- In a run of spec edits every reconcile rolls its spec out if and only if every
later spec keeps the settings of the first. -/
theorem rollsOut_iff (requester : String) (run : RolloutRun requester) :
    (∀ step ∈ run.first :: run.rest, step.RolledOut) ↔
      ∀ step ∈ run.rest, KeepsSettings run.first.cluster.spec step.cluster.spec := by
  have hversions := List.forall_mem_cons.mp run.versions
  have hfirst := ClusterSpec.validate_eq_ok.mp hversions.1.accepted
  rw [run.rolledOut_iff]
  constructor
  · intro h step hstep
    exact keepsSettings_of_extends hfirst (hversions.2 step hstep) (h step hstep)
  · intro h step hstep child
    exact extends_of_keepsSettings hfirst (hversions.2 step hstep) (h step hstep) child

/-- A cluster with its finalizer, that runs this image. -/
def clusterWithImage (image : String) : StreamlineCluster where
  metadata := { name := some "events", namespaceName := some "streamline", uid := some "4f1c",
                finalizers := some [Conditions.clusterFinalizer] }
  spec := { image }
  status := none

theorem clusterWithImage_versions (old new : String) :
    LaterVersion (clusterWithImage old) (clusterWithImage new) where
  accepted := by
    have hdefault : ClusterSpec.Accepted {} := ClusterSpec.validate_eq_ok.mp (by decide)
    exact ClusterSpec.validate_eq_ok.mpr ⟨hdefault.replicas, hdefault.kafkaPort, hdefault.httpPort,
      hdefault.raftPort, hdefault.portsDistinct, hdefault.env, hdefault.podAntiAffinity,
      hdefault.rackAwareness, hdefault.tolerations, hdefault.autoscaling, hdefault.tls⟩
  present := List.mem_singleton.mpr rfl
  live := rfl
  sameName := rfl
  sameNamespace := rfl
  sameUid := rfl
  edited := rfl

/-- The edit of an image does not roll out. -/
theorem image_edit_stuck :
    ¬ ∀ (requester : String) (run : RolloutRun requester),
      ∀ step ∈ run.first :: run.rest, step.RolledOut := by
  intro h
  obtain ⟨trace, result, created, hruns, hserved⟩ := Program.exists_served
    (@serves_total "kube-rs") (reconcile (clusterWithImage "streamline:0.4.0")) (fun _ _ _ => none)
  obtain ⟨trace', result', after, hruns', hserved'⟩ := Program.exists_served
    (@serves_total "kube-rs") (reconcile (clusterWithImage "streamline:0.4.1")) created
  let run : RolloutRun "kube-rs" :=
    { first := ⟨_, _, created, trace, result, hruns, hserved⟩
      rest := [⟨_, created, after, trace', result', hruns', hserved'⟩]
      fresh := fun _ => rfl
      linked := by simp
      versions := by
        simp only [List.forall_mem_cons]
        exact ⟨clusterWithImage_versions _ _, clusterWithImage_versions _ _, by simp⟩ }
  have hversions := List.forall_mem_cons.mp run.versions
  have hextends := run.rolledOut_iff.mp (h "kube-rs" run) _ List.mem_cons_self
  have hkeeps := keepsSettings_of_extends (ClusterSpec.validate_eq_ok.mp hversions.1.accepted)
    (hversions.2 _ List.mem_cons_self) hextends
  have himage : "streamline:0.4.1" = "streamline:0.4.0" := hkeeps.image
  exact absurd himage (by decide)

end StreamlineOperator.Controllers.ClusterController
