/- source: src/src/controllers/cluster.rs (build_config_and_tls_volumes, render_config), src/src/crd/cluster.rs
   digest: When the certificate paths of the configuration, the mounts and the volumes agree. -/

import Mathlib.Data.List.Nodup
import StreamlineOperator.Controllers.ConfigFile
import StreamlineOperator.Controllers.RolloutEdits

set_option autoImplicit false
set_option relaxedAutoImplicit false

namespace StreamlineOperator.Controllers

open Foundation
open Kubernetes (Volume VolumeMount PodSpec PersistentVolumeClaim)
open Crd (ClusterSpec StreamlineCluster ClusterTls)

namespace ClusterController

/-- The paths a `[tls]` section names. -/
structure TlsSection where
  cert : String
  key : String
  caCert : Option String
  deriving DecidableEq, Repr

namespace TlsSection

def paths (self : TlsSection) : List String := [self.cert, self.key] ++ self.caCert.toList

/-- The path under a key of the section. -/
def pathAt (self : TlsSection) (name : String) : Option String :=
  if name = "cert" then some self.cert
  else if name = "key" then some self.key
  else if name = "ca_cert" then self.caCert
  else none

end TlsSection

/-- The section that `render_config` writes. -/
def tlsSection (tls : Option ClusterTls) : Option TlsSection :=
  if tlsEnabled tls then
    some
      { cert := tlsMountPath ++ "/tls.crt"
        key := tlsMountPath ++ "/tls.key"
        caCert := if mtlsEnabled tls then some (tlsCaMountPath ++ "/ca.crt") else none }
  else none

/-- The volumes of the rendered pod, the mounts of its broker container, and the
claims that stand for volumes. -/
def podVolumes (cluster : StreamlineCluster) : List Volume :=
  ((buildPodTemplate cluster).spec.bind PodSpec.volumes).getD []

def brokerMounts (cluster : StreamlineCluster) : List VolumeMount :=
  (buildContainer cluster).volumeMounts.getD []

def claimNames (cluster : StreamlineCluster) : List String :=
  (buildVolumeClaimTemplates cluster.spec.storage).map (fun claim => claim.metadata.nameAny)

/-- The path is that of a file in the directory. -/
def DirectlyBelow (directory path : String) : Prop :=
  ∃ file : String, path = directory ++ "/" ++ file ∧ file ≠ "" ∧ '/' ∉ file.toList

/-- One of the directories is the other, or lies below it. -/
def Overlaps (a b : String) : Prop :=
  a = b ∨ startsWith b (a ++ "/") = true ∨ startsWith a (b ++ "/") = true

/-- The certificate paths of the configuration file, as the broker reads it, agree with the
volumes and the mounts. -/
structure DocumentAgrees (cluster : StreamlineCluster) (document : Toml.Members) : Prop where
  below : ∀ name ∈ ["cert", "key", "ca_cert"], ∀ path,
    Toml.stringAt ["tls", name] document = some path →
      ∃ mount ∈ brokerMounts cluster, DirectlyBelow mount.mountPath path
  keypair : ∀ name ∈ ["cert", "key"], (∃ path, Toml.stringAt ["tls", name] document = some path) ↔
    ∃ tls, cluster.spec.tls = some tls ∧ secretVolume tlsVolumeName tls.secretName ∈ podVolumes cluster
  ca : (∃ path, Toml.stringAt ["tls", "ca_cert"] document = some path) ↔
    ∃ tls caSecret, cluster.spec.tls = some tls ∧ tls.caSecretName = some caSecret ∧
      secretVolume tlsCaVolumeName caSecret ∈ podVolumes cluster

/-- The configuration file, the volumes and the mounts agree. -/
structure TlsAgrees (cluster : StreamlineCluster) : Prop where
  document : ∃ document, Toml.parse (renderConfig cluster) = some document ∧
    DocumentAgrees cluster document
  mounted : ∀ mount ∈ brokerMounts cluster,
    ((podVolumes cluster).map Volume.name ++ claimNames cluster).count mount.name = 1
  apart : (brokerMounts cluster).Pairwise (fun a b => ¬ Overlaps a.mountPath b.mountPath)
  named : ∀ volume ∈ podVolumes cluster, ∀ source ∈ volume.secret,
    ∃ name, source.secretName = some name ∧ isBlank name = false

/-- A CA Secret that client certificates need has a name. -/
def NamesCa (cluster : StreamlineCluster) : Prop :=
  ∀ tls ∈ cluster.spec.tls, tls.mtlsEnabled = true →
    ∀ caSecret ∈ tls.caSecretName, isBlank caSecret = false

instance (a b : String) : Decidable (Overlaps a b) :=
  inferInstanceAs (Decidable (a = b ∨ _ ∨ _))

/-! How the section is read. -/

private theorem stringAt_configDocument (cluster : StreamlineCluster) {name : String}
    (hname : name ∈ ["cert", "key", "ca_cert"]) :
    Toml.stringAt ["tls", name] (configDocument cluster) =
      (tlsSection cluster.spec.tls).bind (fun tls => tls.pathAt name) := by
  simp only [List.mem_cons, List.not_mem_nil, or_false] at hname
  unfold configDocument tlsSection
  cases tlsEnabled cluster.spec.tls with
  | false => rcases hname with rfl | rfl | rfl <;> rfl
  | true =>
    cases mtlsEnabled cluster.spec.tls <;>
      rcases hname with rfl | rfl | rfl <;> rfl

/-! Volumes and mounts. -/

theorem podVolumes_eq (cluster : StreamlineCluster) :
    podVolumes cluster = { name := "config", configMap := some ⟨cluster.nameAny ++ "-config"⟩ } ::
      (buildTlsVolumes cluster.spec.tls).1 := rfl

theorem brokerMounts_eq (cluster : StreamlineCluster) :
    brokerMounts cluster = { name := "data", mountPath := "/data" } ::
      readOnlyMount "config" configMountPath :: (buildTlsVolumes cluster.spec.tls).2 := rfl

private theorem buildTlsVolumes_names (tls : Option ClusterTls) :
    (buildTlsVolumes tls).1.map Volume.name = (buildTlsVolumes tls).2.map VolumeMount.name ∧
      ((buildTlsVolumes tls).2.map VolumeMount.name).Sublist [tlsVolumeName, tlsCaVolumeName] ∧
      ((buildTlsVolumes tls).2.map VolumeMount.mountPath).Sublist
        [tlsMountPath, tlsCaMountPath] := by
  unfold buildTlsVolumes
  split
  · split
    · split
      · exact ⟨rfl, .refl _, .refl _⟩
      · exact ⟨rfl, .cons_cons _ (List.nil_sublist _), .cons_cons _ (List.nil_sublist _)⟩
    · exact ⟨rfl, List.nil_sublist _, List.nil_sublist _⟩
  · exact ⟨rfl, List.nil_sublist _, List.nil_sublist _⟩

private theorem mounted_once (cluster : StreamlineCluster) {mount : VolumeMount}
    (hmount : mount ∈ brokerMounts cluster) :
    ((podVolumes cluster).map Volume.name ++ claimNames cluster).count mount.name = 1 := by
  obtain ⟨hsame, hnames, -⟩ := buildTlsVolumes_names cluster.spec.tls
  generalize hmounted : (buildTlsVolumes cluster.spec.tls).2.map VolumeMount.name = names
    at hsame hnames
  have hdeclared : (podVolumes cluster).map Volume.name ++ claimNames cluster =
      "config" :: names ++ ["data"] := by
    rw [podVolumes_eq, List.map_cons, hsame]
    rfl
  have hnodup : ("config" :: names ++ ["data"]).Nodup := by
    have hall : ("config" :: [tlsVolumeName, tlsCaVolumeName] ++ ["data"]).Nodup := by decide
    exact hall.sublist ((hnames.cons_cons "config").append (.refl _))
  rw [hdeclared]
  refine List.nodup_iff_count_eq_one.mp hnodup _ ?_
  rw [brokerMounts_eq, List.mem_cons, List.mem_cons] at hmount
  rcases hmount with rfl | rfl | hmount
  · simp
  · simp [readOnlyMount]
  · have hname : mount.name ∈ names := hmounted ▸ List.mem_map_of_mem hmount
    simp [hname]

private theorem mounts_apart (cluster : StreamlineCluster) :
    (brokerMounts cluster).Pairwise (fun a b => ¬ Overlaps a.mountPath b.mountPath) := by
  obtain ⟨-, -, hpaths⟩ := buildTlsVolumes_names cluster.spec.tls
  have hall : ["/data", configMountPath, tlsMountPath, tlsCaMountPath].Pairwise
      (fun a b => ¬ Overlaps a b) := by decide
  have hsublist : ((brokerMounts cluster).map VolumeMount.mountPath).Sublist
      ["/data", configMountPath, tlsMountPath, tlsCaMountPath] := by
    rw [brokerMounts_eq]
    exact (hpaths.cons_cons _).cons_cons _
  exact List.pairwise_map.mp (hall.sublist hsublist)

/-! What an accepted block renders to. -/

private theorem accepted_cases {tls : Option ClusterTls}
    (h : ∀ block ∈ tls, ClusterSpec.TlsAccepted block) :
    (tlsSection tls = none ∧ buildTlsVolumes tls = ([], []) ∧
        ∀ block ∈ tls, block.mtlsEnabled = false) ∨
      ∃ block, tls = some block ∧ isBlank block.secretName = false ∧
        ((block.mtlsEnabled = false ∧
            tlsSection tls = some ⟨"/etc/streamline-tls/tls.crt", "/etc/streamline-tls/tls.key", none⟩ ∧
            buildTlsVolumes tls = tlsVolumes (some (block.secretName, none))) ∨
          ∃ caSecret, block.mtlsEnabled = true ∧ block.caSecretName = some caSecret ∧
            tlsSection tls = some ⟨"/etc/streamline-tls/tls.crt", "/etc/streamline-tls/tls.key",
              some "/etc/streamline-tls-ca/ca.crt"⟩ ∧
            buildTlsVolumes tls = tlsVolumes (some (block.secretName, some caSecret))) := by
  cases tls with
  | none => exact .inl ⟨rfl, rfl, by simp⟩
  | some tls =>
    obtain ⟨hsecret, hca, -, hmtls⟩ := h tls rfl
    obtain ⟨enabled, secretName, mtlsEnabled, caSecretName, insecureSkipVerify⟩ := tls
    cases enabled with
    | false =>
      have hoff : mtlsEnabled = false := by
        cases mtlsEnabled with
        | false => rfl
        | true => exact absurd (hmtls rfl) (by simp)
      refine .inl ⟨rfl, rfl, ?_⟩
      rintro block ⟨rfl⟩
      exact hoff
    | true =>
      have hnamed : isBlank secretName = false := hsecret rfl
      refine .inr ⟨_, rfl, hnamed, ?_⟩
      cases mtlsEnabled with
      | false =>
        refine .inl ⟨rfl, rfl, ?_⟩
        cases caSecretName <;> simp only [buildTlsVolumes, hnamed] <;> rfl
      | true =>
        obtain ⟨caSecret, rfl⟩ := Option.isSome_iff_exists.mp (hca rfl)
        refine .inr ⟨caSecret, rfl, rfl, rfl, ?_⟩
        simp only [buildTlsVolumes, hnamed]
        rfl

private theorem paths_below {cluster : StreamlineCluster}
    (h : ∀ block ∈ cluster.spec.tls, ClusterSpec.TlsAccepted block) :
    ∀ tls ∈ tlsSection cluster.spec.tls, ∀ path ∈ tls.paths,
      ∃ mount ∈ brokerMounts cluster, DirectlyBelow mount.mountPath path := by
  have hcert : DirectlyBelow tlsMountPath "/etc/streamline-tls/tls.crt" :=
    ⟨"tls.crt", rfl, by decide, by decide⟩
  have hkey : DirectlyBelow tlsMountPath "/etc/streamline-tls/tls.key" :=
    ⟨"tls.key", rfl, by decide, by decide⟩
  have hca : DirectlyBelow tlsCaMountPath "/etc/streamline-tls-ca/ca.crt" :=
    ⟨"ca.crt", rfl, by decide, by decide⟩
  intro tls htls path hpath
  rcases accepted_cases h with ⟨hnone, -, -⟩ | ⟨block, -, -, ⟨-, hsection, hvolumes⟩ |
    ⟨caSecret, -, -, hsection, hvolumes⟩⟩
  · rw [hnone] at htls
    cases htls
  · obtain rfl : tls = _ := by simpa [hsection] using htls.symm
    simp only [TlsSection.paths, Option.toList_none, List.append_nil, List.mem_cons,
      List.not_mem_nil, or_false] at hpath
    refine ⟨readOnlyMount tlsVolumeName tlsMountPath, ?_, ?_⟩
    · simp [brokerMounts_eq, hvolumes, tlsVolumes]
    · rcases hpath with rfl | rfl
      · exact hcert
      · exact hkey
  · obtain rfl : tls = _ := by simpa [hsection] using htls.symm
    simp only [TlsSection.paths, Option.toList_some, List.cons_append, List.nil_append,
      List.mem_cons, List.not_mem_nil, or_false] at hpath
    have hmount : ∀ mount, mount ∈ (tlsVolumes (some (block.secretName, some caSecret))).2 →
        mount ∈ brokerMounts cluster := by
      intro mount hmem
      rw [brokerMounts_eq, hvolumes]
      exact List.mem_cons_of_mem _ (List.mem_cons_of_mem _ hmem)
    rcases hpath with rfl | rfl | rfl
    · exact ⟨_, hmount (readOnlyMount tlsVolumeName tlsMountPath) (by simp [tlsVolumes]), hcert⟩
    · exact ⟨_, hmount (readOnlyMount tlsVolumeName tlsMountPath) (by simp [tlsVolumes]), hkey⟩
    · exact ⟨_, hmount (readOnlyMount tlsCaVolumeName tlsCaMountPath) (by simp [tlsVolumes]), hca⟩

private theorem config_not_secret (cluster : StreamlineCluster) (name secretName : String) :
    secretVolume name secretName ∈ podVolumes cluster ↔
      secretVolume name secretName ∈ (buildTlsVolumes cluster.spec.tls).1 := by
  rw [podVolumes_eq, List.mem_cons]
  simp [secretVolume]

private theorem keypair_iff {cluster : StreamlineCluster}
    (h : ∀ block ∈ cluster.spec.tls, ClusterSpec.TlsAccepted block) :
    (∃ tls, tlsSection cluster.spec.tls = some tls) ↔
      ∃ tls, cluster.spec.tls = some tls ∧
        secretVolume tlsVolumeName tls.secretName ∈ podVolumes cluster := by
  simp only [config_not_secret]
  rcases accepted_cases h with ⟨hsection, hvolumes, -⟩ | ⟨block, hblock, -, ⟨-, hsection, hvolumes⟩ |
    ⟨caSecret, -, -, hsection, hvolumes⟩⟩
  · simp [hsection, hvolumes]
  · exact ⟨fun _ => ⟨block, hblock, by simp [hvolumes, tlsVolumes]⟩, fun _ => ⟨_, hsection⟩⟩
  · exact ⟨fun _ => ⟨block, hblock, by simp [hvolumes, tlsVolumes]⟩, fun _ => ⟨_, hsection⟩⟩

private theorem ca_iff {cluster : StreamlineCluster}
    (h : ∀ block ∈ cluster.spec.tls, ClusterSpec.TlsAccepted block) :
    (∃ tls path, tlsSection cluster.spec.tls = some tls ∧ tls.caCert = some path) ↔
      ∃ tls caSecret, cluster.spec.tls = some tls ∧ tls.caSecretName = some caSecret ∧
        secretVolume tlsCaVolumeName caSecret ∈ podVolumes cluster := by
  have hother : tlsCaVolumeName ≠ tlsVolumeName := by decide
  simp only [config_not_secret]
  rcases accepted_cases h with ⟨hsection, hvolumes, -⟩ | ⟨block, hblock, -, ⟨-, hsection, hvolumes⟩ |
    ⟨caSecret, -, hca, hsection, hvolumes⟩⟩
  · simp [hsection, hvolumes]
  · simp [hsection, hvolumes, tlsVolumes, secretVolume, hother]
  · exact ⟨fun _ => ⟨block, caSecret, hblock, hca, by simp [hvolumes, tlsVolumes]⟩,
      fun _ => ⟨_, _, hsection, rfl⟩⟩

private theorem named_iff {cluster : StreamlineCluster}
    (h : ∀ block ∈ cluster.spec.tls, ClusterSpec.TlsAccepted block) :
    (∀ volume ∈ podVolumes cluster, ∀ source ∈ volume.secret,
        ∃ name, source.secretName = some name ∧ isBlank name = false) ↔ NamesCa cluster := by
  unfold NamesCa
  rcases accepted_cases h with ⟨-, hvolumes, hoff⟩ | ⟨block, hblock, hnamed, ⟨hoff, -, hvolumes⟩ |
    ⟨caSecret, hmtls, hca, -, hvolumes⟩⟩
  · have hright : ∀ tls ∈ cluster.spec.tls, tls.mtlsEnabled = true →
        ∀ caSecret ∈ tls.caSecretName, isBlank caSecret = false := by
      intro tls htls hmtls
      rw [hoff tls htls] at hmtls
      cases hmtls
    simp only [podVolumes_eq, hvolumes]
    simpa using hright
  · rw [podVolumes_eq, hvolumes]
    simp [tlsVolumes, secretVolume, hblock, hoff, hnamed]
  · rw [podVolumes_eq, hvolumes]
    simp [tlsVolumes, secretVolume, hblock, hmtls, hca, hnamed]

private theorem mem_paths_of_pathAt {tls : TlsSection} {name path : String}
    (h : tls.pathAt name = some path) : path ∈ tls.paths := by
  unfold TlsSection.pathAt at h
  simp only [TlsSection.paths, List.cons_append, List.nil_append, List.mem_cons,
    Option.mem_toList]
  split at h
  · exact .inl (Option.some.inj h).symm
  · split at h
    · exact .inr (.inl (Option.some.inj h).symm)
    · split at h
      · exact .inr (.inr h)
      · cases h

theorem configDocument_agrees {cluster : StreamlineCluster}
    (h : ∀ block ∈ cluster.spec.tls, ClusterSpec.TlsAccepted block) :
    DocumentAgrees cluster (configDocument cluster) where
  below name hname path hpath := by
    rw [stringAt_configDocument cluster hname] at hpath
    obtain ⟨tls, htls, hpath⟩ := Option.bind_eq_some_iff.mp hpath
    exact paths_below h tls htls path (mem_paths_of_pathAt hpath)
  keypair name hname := by
    have hkeys : name ∈ ["cert", "key", "ca_cert"] := by
      rcases List.mem_pair.mp hname with rfl | rfl <;> simp
    rw [stringAt_configDocument cluster hkeys, ← keypair_iff h]
    simp only [Option.bind_eq_some_iff]
    constructor
    · rintro ⟨path, tls, htls, -⟩
      exact ⟨tls, htls⟩
    · rintro ⟨tls, htls⟩
      rcases List.mem_pair.mp hname with rfl | rfl
      · exact ⟨tls.cert, tls, htls, rfl⟩
      · exact ⟨tls.key, tls, htls, rfl⟩
  ca := by
    rw [stringAt_configDocument cluster (by simp), ← ca_iff h]
    simp only [Option.bind_eq_some_iff]
    constructor
    · rintro ⟨path, tls, htls, hpath⟩
      exact ⟨tls, path, htls, hpath⟩
    · rintro ⟨tls, path, htls, hpath⟩
      exact ⟨path, tls, htls, hpath⟩

/-- For an accepted spec the file, the volumes and the mounts agree if the log level is plain
text and a CA Secret that client certificates need has a name, and only if it has one. -/
theorem tlsAgrees_iff (cluster : StreamlineCluster)
    (hname : isDns1123Subdomain cluster.nameAny = true) (h : cluster.spec.validate = .ok ()) :
    (cluster.spec.logLevel.toList.all Toml.isPlain = true → NamesCa cluster →
        TlsAgrees cluster) ∧
      (TlsAgrees cluster → NamesCa cluster) := by
  have htls := (ClusterSpec.validate_eq_ok.mp h).tls
  refine ⟨fun hlevel hnamed => ?_, fun hagrees => (named_iff htls).mp hagrees.named⟩
  exact
    { document := ⟨_, parse_renderConfig hname hlevel, configDocument_agrees htls⟩
      mounted := fun mount hmount => mounted_once cluster hmount
      apart := mounts_apart cluster
      named := (named_iff htls).mpr hnamed }

/-- A cluster that asks for client certificates, and otherwise has the defaults. -/
private def mutualCluster (caSecret : String) : StreamlineCluster where
  metadata := { name := some "events" }
  spec :=
    { tls := some
        { enabled := true
          secretName := "certs"
          mtlsEnabled := true
          caSecretName := some caSecret } }
  status := none

theorem tlsAgrees_iff_mutual :
    TlsAgrees (mutualCluster "ca") ∧ NamesCa (mutualCluster "ca") := by
  have hiff := tlsAgrees_iff (mutualCluster "ca") (by decide) (by decide)
  have hnamed : NamesCa (mutualCluster "ca") := by
    intro tls htls _ caSecret hca
    obtain rfl := Option.some.inj htls
    obtain rfl := Option.some.inj hca
    decide
  have hagrees := hiff.1 (by decide) hnamed
  exact ⟨hagrees, hiff.2 hagrees⟩

/-- A log level that opens a `[tls]` section of its own. -/
private def openingCluster : StreamlineCluster where
  metadata := { name := some "events" }
  spec := { logLevel := "info\"\n[tls]\ncert = \"/nowhere/tls.crt" }
  status := none

private theorem openingCluster_cert :
    (Toml.parse (renderConfig openingCluster)).bind (Toml.stringAt ["tls", "cert"]) =
      some "/nowhere/tls.crt" := by
  decide +kernel

/-- A CA Secret without a name is accepted, and a pod that mounts it never starts; and a log
level that is not plain text names a certificate that is mounted nowhere. -/
theorem blank_ca_mounted :
    ((mutualCluster "").spec.validate = .ok () ∧ ¬ TlsAgrees (mutualCluster "")) ∧
      (openingCluster.spec.validate = .ok () ∧ ¬ TlsAgrees openingCluster) := by
  refine ⟨⟨by decide, fun hagrees => ?_⟩, by decide, fun hagrees => ?_⟩
  · obtain ⟨name, hname, hblank⟩ :=
      hagrees.named (secretVolume tlsCaVolumeName "") (by decide) _ rfl
    obtain rfl : "" = name := Option.some.inj hname
    exact absurd hblank (by decide)
  · obtain ⟨document, hparse, hdocument⟩ := hagrees.document
    have hcert := openingCluster_cert
    rw [hparse, Option.bind_some] at hcert
    have hmounted := (hdocument.keypair "cert" (by simp)).mp ⟨_, hcert⟩
    obtain ⟨tls, htls, -⟩ := hmounted
    cases htls

end ClusterController

end StreamlineOperator.Controllers
