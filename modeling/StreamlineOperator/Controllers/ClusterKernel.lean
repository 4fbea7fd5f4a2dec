/- source: src/src/controllers/cluster.rs (rendering), src/src/crd/cluster.rs (ClusterSpec)
   digest: Which accepted specs render to the same objects, and which settings are lost on the way. -/

import StreamlineOperator.Controllers.ClusterRender

set_option autoImplicit false
set_option relaxedAutoImplicit false

namespace StreamlineOperator.Controllers

open Foundation
open Kubernetes (ObjectMeta ConfigMap Service StatefulSet)
open Crd

namespace ClusterController

/-- The four objects rendered for a spec. -/
structure Rendered where
  configMap : ConfigMap
  headless : Service
  client : Service
  statefulSet : StatefulSet

/-- A cluster of this spec. -/
def ofSpec (metadata : ObjectMeta) (spec : ClusterSpec) : StreamlineCluster where
  metadata := metadata
  spec := spec
  status := none

/-- Rendering, for any object metadata: the name and the uid are all it uses. -/
def render (metadata : ObjectMeta) (namespaceName : String) (spec : ClusterSpec) : Rendered where
  configMap := buildConfigmap (ofSpec metadata spec) namespaceName
  headless := headlessService (ofSpec metadata spec) namespaceName
  client := clientService (ofSpec metadata spec) namespaceName
  statefulSet := buildStatefulset (ofSpec metadata spec) namespaceName

/-! Specs up to what they switch off. -/

/-- A block that is not enabled says nothing, and without mTLS neither does the
name of the CA bundle. -/
def effectiveTls (tls : Option ClusterTls) : Option ClusterTls :=
  (tls.filter ClusterTls.enabled).map fun tls =>
    { tls with caSecretName := tls.caSecretName.filter (fun _ => tls.mtlsEnabled) }

def effectiveStrategy (strategy : UpdateStrategy) : UpdateStrategy :=
  if strategy.type = "OnDelete" then { strategy with maxUnavailable := none } else strategy

/-- The spec without its switched-off parts. -/
def effective (spec : ClusterSpec) : ClusterSpec :=
  { spec with
    tls := effectiveTls spec.tls
    autoscaling := spec.autoscaling.filter AutoScalingSpec.enabled
    rackAwareness := spec.rackAwareness.filter RackAwareness.enabled
    updateStrategy := effectiveStrategy spec.updateStrategy }

/-- The two update types there are in the rendered StatefulSet. -/
def renderedType (type : String) : String :=
  if type = "OnDelete" then "OnDelete" else "RollingUpdate"

/-- What of a spec can be seen in the rendered objects: neither `metricsEnabled`
nor the spelling of an update type other than `OnDelete`. -/
def visible (spec : ClusterSpec) : ClusterSpec :=
  { effective spec with
    metricsEnabled := true
    updateStrategy :=
      { effectiveStrategy spec.updateStrategy with
        type := renderedType spec.updateStrategy.type } }

/-- Equal rendered objects come from specs that differ in switched-off parts only. -/
def RendersFaithfully (metadata : ObjectMeta) (namespaceName : String) (a b : ClusterSpec) :
    Prop :=
  render metadata namespaceName a = render metadata namespaceName b → effective a = effective b

/-- The specs differ in `metricsEnabled` or in the update type, and in nothing
else that is rendered. -/
def DiffersInvisibly (a b : ClusterSpec) : Prop :=
  visible a = visible b ∧
    (a.metricsEnabled ≠ b.metricsEnabled ∨ a.updateStrategy.type ≠ b.updateStrategy.type)

/-! Rendering sees the visible part only. -/

private theorem renderTls_effective (tls : Option ClusterTls) :
    renderTls (effectiveTls tls) = renderTls tls := by
  cases tls with
  | none => rfl
  | some tls =>
    obtain ⟨enabled, secretName, mtlsEnabled, caSecretName, insecureSkipVerify⟩ := tls
    cases enabled <;> rfl

private theorem buildTlsVolumes_effective (tls : Option ClusterTls) :
    buildTlsVolumes (effectiveTls tls) = buildTlsVolumes tls := by
  cases tls with
  | none => rfl
  | some tls =>
    obtain ⟨enabled, secretName, mtlsEnabled, caSecretName, insecureSkipVerify⟩ := tls
    cases enabled
    · rfl
    · cases mtlsEnabled <;> cases caSecretName <;> rfl

private theorem buildUpdateStrategy_visible (spec : ClusterSpec) :
    buildUpdateStrategy (visible spec).updateStrategy = buildUpdateStrategy spec.updateStrategy := by
  by_cases h : spec.updateStrategy.type = "OnDelete"
  · simp [buildUpdateStrategy, visible, renderedType, h]
  · simp [buildUpdateStrategy, visible, renderedType, effectiveStrategy, h]

private theorem renderConfig_visible (metadata : ObjectMeta) (spec : ClusterSpec) :
    renderConfig (ofSpec metadata (visible spec)) =
      renderConfig (ofSpec metadata spec) := by
  have htls : (ofSpec metadata (visible spec)).spec.tls =
      effectiveTls spec.tls := rfl
  unfold renderConfig
  rw [htls, renderTls_effective]
  rfl

private theorem buildContainer_visible (metadata : ObjectMeta) (spec : ClusterSpec) :
    buildContainer (ofSpec metadata (visible spec)) =
      buildContainer (ofSpec metadata spec) := by
  have htls : (ofSpec metadata (visible spec)).spec.tls =
      effectiveTls spec.tls := rfl
  unfold buildContainer buildConfigAndTlsVolumes
  rw [htls, buildTlsVolumes_effective]
  rfl

private theorem buildStatefulset_visible (metadata : ObjectMeta) (namespaceName : String)
    (spec : ClusterSpec) :
    buildStatefulset (ofSpec metadata (visible spec)) namespaceName =
      buildStatefulset (ofSpec metadata spec) namespaceName := by
  have htls : (ofSpec metadata (visible spec)).spec.tls =
      effectiveTls spec.tls := rfl
  have hstrategy :
      buildUpdateStrategy (ofSpec metadata (visible spec)).spec.updateStrategy =
        buildUpdateStrategy spec.updateStrategy := buildUpdateStrategy_visible spec
  unfold buildStatefulset buildPodTemplate buildConfigAndTlsVolumes
  rw [buildContainer_visible, htls, buildTlsVolumes_effective, hstrategy]
  rfl

theorem render_visible (metadata : ObjectMeta) (namespaceName : String) (spec : ClusterSpec) :
    render metadata namespaceName (visible spec) = render metadata namespaceName spec := by
  unfold render buildConfigmap
  rw [renderConfig_visible, buildStatefulset_visible]
  rfl

/-! Every visible setting can be read off the rendered StatefulSet. -/

private theorem buildResourceList_injective {a b : ResourceList}
    (h : buildResourceList a = buildResourceList b) : a = b := by
  have hread : ∀ (r : ResourceList), (((buildResourceList r).getD ∅)["cpu"]? = r.cpu) ∧
      ((buildResourceList r).getD ∅)["memory"]? = r.memory := by
    rintro ⟨cpu, memory⟩
    cases cpu <;> cases memory <;>
      simp [buildResourceList, insertQuantity, Std.ExtTreeMap.getElem_insert]
  have ha := hread a
  have hb := hread b
  rw [h] at ha
  cases a
  cases b
  simp_all

/-- The entry a rendered variable came from. -/
def readEnvVar (env : Kubernetes.EnvVar) : EnvVar where
  name := env.name
  value := env.value
  valueFrom := env.valueFrom.map fun source =>
    { secretKeyRef := source.secretKeyRef.map (fun ref => ⟨ref.name, ref.key⟩)
      configMapKeyRef := source.configMapKeyRef.map (fun ref => ⟨ref.name, ref.key⟩) }

private theorem readEnvVar_buildEnvVar {env : EnvVar}
    (h : ∃ source, env.resolveSource = .ok source) :
    ∃ rendered, buildEnvVar env = some rendered ∧ readEnvVar rendered = env := by
  obtain ⟨source, hsource⟩ := h
  rcases EnvVar.resolveSource_eq_ok hsource with
    ⟨rfl, hfrom⟩ | ⟨ref, rfl, hvalue, hfrom⟩ | ⟨ref, rfl, hvalue, hfrom⟩
  all_goals
    refine ⟨_, by simp only [buildEnvVar, hsource]; rfl, ?_⟩
    cases env
    simp_all [readEnvVar, buildEnvVarSource]

private theorem readEnvVar_filterMap {envs : List EnvVar}
    (h : ∀ env ∈ envs, ∃ source, env.resolveSource = .ok source) :
    (envs.filterMap buildEnvVar).map readEnvVar = envs := by
  induction envs with
  | nil => rfl
  | cons env envs ih =>
    simp only [List.forall_mem_cons] at h
    obtain ⟨rendered, hrendered, hread⟩ := readEnvVar_buildEnvVar h.1
    rw [List.filterMap_cons_some hrendered, List.map_cons, hread, ih h.2]

def volumeSecret (volume : Kubernetes.Volume) : String :=
  (volume.secret.bind Kubernetes.SecretVolumeSource.secretName).getD ""

/-- The block the certificate volumes came from. -/
def readTls : List Kubernetes.Volume → Option ClusterTls
  | [] => none
  | [server] => some { enabled := true, secretName := volumeSecret server }
  | server :: ca :: _ =>
    some { enabled := true, secretName := volumeSecret server, mtlsEnabled := true,
           caSecretName := some (volumeSecret ca) }

private theorem readTls_buildTlsVolumes {tls : Option ClusterTls}
    (h : ∀ t ∈ tls, ClusterSpec.TlsAccepted t) :
    readTls (buildTlsVolumes tls).1 = effectiveTls tls := by
  cases tls with
  | none => rfl
  | some tls =>
    obtain ⟨hsecret, hca, hinsecure, -⟩ := h tls rfl
    obtain ⟨enabled, secretName, mtlsEnabled, caSecretName, insecureSkipVerify⟩ := tls
    cases enabled with
    | false => rfl
    | true =>
      obtain rfl : insecureSkipVerify = false := hinsecure rfl
      have hblank : isBlank secretName = false := hsecret rfl
      cases mtlsEnabled with
      | false =>
        have hvolumes : buildTlsVolumes (some ⟨true, secretName, false, caSecretName, false⟩) =
            ([secretVolume tlsVolumeName secretName],
              [readOnlyMount tlsVolumeName tlsMountPath]) := by
          cases caSecretName <;> simp [buildTlsVolumes, hblank, Option.filter]
        rw [hvolumes]
        cases caSecretName <;> rfl
      | true =>
        obtain ⟨ca, rfl⟩ : ∃ ca, caSecretName = some ca :=
          Option.isSome_iff_exists.mp (hca rfl)
        have hvolumes : buildTlsVolumes (some ⟨true, secretName, true, some ca, false⟩) =
            ([secretVolume tlsVolumeName secretName, secretVolume tlsCaVolumeName ca],
              [readOnlyMount tlsVolumeName tlsMountPath,
                readOnlyMount tlsCaVolumeName tlsCaMountPath]) := by
          simp [buildTlsVolumes, hblank, Option.filter]
        rw [hvolumes]
        rfl

private theorem visibleStrategy_eq {a b : ClusterSpec}
    (h : buildUpdateStrategy a.updateStrategy = buildUpdateStrategy b.updateStrategy) :
    (visible a).updateStrategy = (visible b).updateStrategy := by
  simp only [visible, effective]
  by_cases ha : a.updateStrategy.type = "OnDelete" <;>
    by_cases hb : b.updateStrategy.type = "OnDelete"
  · simp [effectiveStrategy, ha, hb]
  · simp [buildUpdateStrategy, ha, hb] at h
  · simp [buildUpdateStrategy, ha, hb] at h
  · simp only [buildUpdateStrategy, if_neg ha, if_neg hb,
      Kubernetes.StatefulSetUpdateStrategy.mk.injEq, true_and] at h
    have hmax : a.updateStrategy.maxUnavailable = b.updateStrategy.maxUnavailable := by
      cases hma : a.updateStrategy.maxUnavailable <;>
        cases hmb : b.updateStrategy.maxUnavailable <;> simp_all
    simp [effectiveStrategy, renderedType, ha, hb, hmax]

private theorem claim_shown {a b : ClusterStorage}
    (h : buildVolumeClaimTemplates a = buildVolumeClaimTemplates b) : a = b := by
  have hspec := Option.some.inj
    (congrArg Kubernetes.PersistentVolumeClaim.spec (List.singleton_inj.mp h))
  obtain ⟨hmodes, hclass, hrequests⟩ := Kubernetes.PersistentVolumeClaimSpec.mk.inj hspec
  have hsize := congrArg (fun requests : StringMap => requests["storage"]?)
    (Option.some.inj hrequests)
  simp only [Std.ExtTreeMap.getElem?_insert_self, Option.some.injEq] at hsize
  cases a
  cases b
  exact ClusterStorage.mk.injEq .. ▸ ⟨hclass, hsize, Option.some.inj hmodes⟩

private theorem operatorEnv_shown {metadata : ObjectMeta} {a b : ClusterSpec}
    {envA envB : List Kubernetes.EnvVar}
    (h : operatorEnv (ofSpec metadata a) ++ envA = operatorEnv (ofSpec metadata b) ++ envB) :
    a.logLevel = b.logLevel ∧ envA = envB := by
  simp only [operatorEnv, List.cons_append, List.nil_append, List.cons.injEq] at h
  obtain ⟨-, -, -, -, hlog, -, -, henv⟩ := h
  exact ⟨Option.some.inj (congrArg Kubernetes.EnvVar.value hlog), henv⟩

private theorem nodeSelector_shown {a b : StringMap}
    (h : (if a.isEmpty then none else some a) = if b.isEmpty then none else some b) : a = b := by
  by_cases ha : a.isEmpty <;> by_cases hb : b.isEmpty
  · rw [Std.ExtTreeMap.isEmpty_iff.mp ha, Std.ExtTreeMap.isEmpty_iff.mp hb]
  all_goals simp_all

private theorem container_shown {metadata : ObjectMeta} {a b : ClusterSpec}
    (h : buildContainer (ofSpec metadata a) = buildContainer (ofSpec metadata b)) :
    a.image = b.image ∧ a.imagePullPolicy = b.imagePullPolicy ∧
      [a.kafkaPort, a.httpPort, a.raftPort] = [b.kafkaPort, b.httpPort, b.raftPort] ∧
      a.logLevel = b.logLevel ∧
      a.env.filterMap buildEnvVar = b.env.filterMap buildEnvVar ∧
      buildResourceRequirements a.resources = buildResourceRequirements b.resources := by
  have himage := Option.some.inj (congrArg Kubernetes.Container.image h)
  have hpolicy := Option.some.inj (congrArg Kubernetes.Container.imagePullPolicy h)
  have hports := congrArg (List.map Kubernetes.ContainerPort.containerPort)
    (Option.some.inj (congrArg Kubernetes.Container.ports h))
  obtain ⟨hlog, henv⟩ := operatorEnv_shown
    (Option.some.inj (congrArg Kubernetes.Container.env h))
  have hresources := Option.some.inj (congrArg Kubernetes.Container.resources h)
  exact ⟨himage, hpolicy, hports, hlog, henv, hresources⟩

private theorem podTemplate_shown {metadata : ObjectMeta} {a b : ClusterSpec}
    (h : buildPodTemplate (ofSpec metadata a) = buildPodTemplate (ofSpec metadata b)) :
    buildContainer (ofSpec metadata a) = buildContainer (ofSpec metadata b) ∧
      (buildTlsVolumes a.tls).1 = (buildTlsVolumes b.tls).1 ∧
      a.nodeSelector = b.nodeSelector ∧ a.serviceAccountName = b.serviceAccountName := by
  have hpod := Option.some.inj (congrArg Kubernetes.PodTemplateSpec.spec h)
  have hcontainer := List.singleton_inj.mp (congrArg Kubernetes.PodSpec.containers hpod)
  have hvolumes := congrArg List.tail
    (Option.some.inj (congrArg Kubernetes.PodSpec.volumes hpod))
  have hselector := nodeSelector_shown (congrArg Kubernetes.PodSpec.nodeSelector hpod)
  have haccount := congrArg Kubernetes.PodSpec.serviceAccountName hpod
  exact ⟨hcontainer, hvolumes, hselector, haccount⟩

private theorem statefulset_shown {metadata : ObjectMeta} {namespaceName : String}
    {a b : ClusterSpec}
    (h : buildStatefulset (ofSpec metadata a) namespaceName =
      buildStatefulset (ofSpec metadata b) namespaceName) :
    buildPodTemplate (ofSpec metadata a) = buildPodTemplate (ofSpec metadata b) ∧
      a.storage = b.storage ∧
      buildUpdateStrategy a.updateStrategy = buildUpdateStrategy b.updateStrategy := by
  have hspec := Option.some.inj (congrArg StatefulSet.spec h)
  have htemplate := congrArg Kubernetes.StatefulSetSpec.template hspec
  have hstorage := claim_shown
    (Option.some.inj (congrArg Kubernetes.StatefulSetSpec.volumeClaimTemplates hspec))
  have hstrategy :=
    Option.some.inj (congrArg Kubernetes.StatefulSetSpec.updateStrategy hspec)
  exact ⟨htemplate, hstorage, hstrategy⟩

private theorem filter_eq_none {α : Type} {block : Option α} {enabled : α → Bool}
    (h : ∀ x ∈ block, enabled x = false) : block.filter enabled = none := by
  cases block with
  | none => rfl
  | some x => simp [Option.filter, h x rfl]

theorem visible_eq_of_render_eq {metadata : ObjectMeta} {namespaceName : String}
    {a b : ClusterSpec} (ha : a.Accepted) (hb : b.Accepted)
    (h : render metadata namespaceName a = render metadata namespaceName b) :
    visible a = visible b := by
  obtain ⟨htemplate, hstorage, hstrategy⟩ := statefulset_shown (congrArg Rendered.statefulSet h)
  obtain ⟨hcontainer, hvolumes, hselector, haccount⟩ := podTemplate_shown htemplate
  obtain ⟨himage, hpolicy, hports, hlog, henv, hresources⟩ := container_shown hcontainer
  simp only [List.cons.injEq, and_true] at hports
  obtain ⟨hkafka, hhttp, hraft⟩ := hports
  have henv' : a.env = b.env := by
    rw [← readEnvVar_filterMap ha.env, henv, readEnvVar_filterMap hb.env]
  have htls : effectiveTls a.tls = effectiveTls b.tls := by
    rw [← readTls_buildTlsVolumes ha.tls, hvolumes, readTls_buildTlsVolumes hb.tls]
  have hlimits := buildResourceList_injective
    (congrArg Kubernetes.ResourceRequirements.limits hresources)
  have hrequests := buildResourceList_injective
    (congrArg Kubernetes.ResourceRequirements.requests hresources)
  have hresources' : a.resources = b.resources :=
    (Crd.ResourceRequirements.mk.injEq ..).mpr ⟨hlimits, hrequests⟩
  have hstrategy' := visibleStrategy_eq hstrategy
  simp only [visible, effective, ClusterSpec.mk.injEq] at hstrategy' ⊢
  rw [ha.replicas, hb.replicas, ha.tolerations, hb.tolerations, ha.podAntiAffinity,
    hb.podAntiAffinity, filter_eq_none ha.rackAwareness, filter_eq_none hb.rackAwareness,
    filter_eq_none ha.autoscaling, filter_eq_none hb.autoscaling]
  exact ⟨rfl, himage, hpolicy, hresources', hstorage, htls, hkafka, hhttp, hraft, henv',
    hselector, rfl, rfl, rfl, haccount, hlog, trivial, hstrategy', rfl⟩

/-- Two accepted specs render to the same objects exactly when their visible
parts agree. -/
theorem render_eq_iff (metadata : ObjectMeta) (namespaceName : String) {a b : ClusterSpec}
    (ha : a.Accepted) (hb : b.Accepted) :
    render metadata namespaceName a = render metadata namespaceName b ↔
      visible a = visible b := by
  constructor
  · exact visible_eq_of_render_eq ha hb
  · intro h
    rw [← render_visible metadata namespaceName a, h, render_visible]

private theorem effective_eq_iff {a b : ClusterSpec} (h : visible a = visible b) :
    effective a = effective b ↔
      a.metricsEnabled = b.metricsEnabled ∧ a.updateStrategy.type = b.updateStrategy.type := by
  have htype (spec : ClusterSpec) :
      (effectiveStrategy spec.updateStrategy).type = spec.updateStrategy.type := by
    unfold effectiveStrategy
    split <;> rfl
  constructor
  · intro heffective
    have hmetrics := congrArg (fun spec => spec.metricsEnabled) heffective
    refine ⟨hmetrics, ?_⟩
    have hstrategy := congrArg (fun spec => spec.updateStrategy.type) heffective
    exact (htype a).symm.trans (hstrategy.trans (htype b))
  · rintro ⟨hmetrics, hupdate⟩
    simp only [visible, effective, ClusterSpec.mk.injEq, UpdateStrategy.mk.injEq] at h ⊢
    obtain ⟨h1, h2, h3, h4, h5, h6, h7, h8, h9, h10, h11, h12, h13, h14, h15, h16, -, h18, h19⟩ := h
    have hstrategy : effectiveStrategy a.updateStrategy = effectiveStrategy b.updateStrategy :=
      (UpdateStrategy.mk.injEq ..).mpr
        ⟨(htype a).trans (hupdate.trans (htype b).symm), h18.2⟩
    exact ⟨h1, h2, h3, h4, h5, h6, h7, h8, h9, h10, h11, h12, h13, h14, h15, h16, hmetrics,
      hstrategy, h19⟩

/-- Which pairs of accepted specs the rendered objects tell apart. -/
theorem renders_faithfully_iff (metadata : ObjectMeta) (namespaceName : String)
    (a b : ClusterSpec) (ha : a.validate = .ok ()) (hb : b.validate = .ok ()) :
    RendersFaithfully metadata namespaceName a b ↔ ¬ DiffersInvisibly a b := by
  have hrender := render_eq_iff metadata namespaceName
    (ClusterSpec.validate_eq_ok.mp ha) (ClusterSpec.validate_eq_ok.mp hb)
  unfold RendersFaithfully DiffersInvisibly
  rw [hrender]
  constructor
  · rintro hfaithful ⟨hvisible, hdiffers⟩
    obtain ⟨hmetrics, hupdate⟩ := (effective_eq_iff hvisible).mp (hfaithful hvisible)
    exact hdiffers.elim (· hmetrics) (· hupdate)
  · intro hdiffers hvisible
    rw [effective_eq_iff hvisible]
    by_contra hne
    exact hdiffers ⟨hvisible, not_and_or.mp hne⟩

private theorem validate_default : ({} : ClusterSpec).validate = .ok () := by
  decide

theorem renders_faithfully_iff_default :
    RendersFaithfully { name := some "events" } "default" {} { logLevel := "debug" } ↔
      ¬ DiffersInvisibly {} { logLevel := "debug" } :=
  renders_faithfully_iff _ _ _ _ validate_default (by decide)

/-- Switching the metrics off renders exactly what leaving them on does. -/
theorem renders_metrics_dropped :
    ¬ ∀ (metadata : ObjectMeta) (namespaceName : String) (a b : ClusterSpec),
      a.validate = .ok () → b.validate = .ok () →
        RendersFaithfully metadata namespaceName a b := by
  intro h
  have hoff := h { name := some "events" } "default" {} { metricsEnabled := false }
    validate_default (by decide) rfl
  exact absurd (congrArg ClusterSpec.metricsEnabled hoff) (by decide)

end ClusterController

end StreamlineOperator.Controllers
