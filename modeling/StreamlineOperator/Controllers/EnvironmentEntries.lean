/- source: src/src/crd/cluster.rs (validate, resolve_source), src/src/controllers/cluster.rs (build_statefulset)
   digest: The validator reports exactly the environment entries that are not rendered. -/

import StreamlineOperator.Controllers.Environment

set_option autoImplicit false
set_option relaxedAutoImplicit false

namespace StreamlineOperator.Controllers

open Foundation
open Crd (ClusterSpec StreamlineCluster SecretKeyRef ConfigMapKeyRef incompleteRef)

namespace ClusterController

/-- The messages of `validate`, none of them for an accepted spec. -/
def reportedErrors (spec : ClusterSpec) : List String :=
  match spec.validate with
  | .ok _ => []
  | .error errors => errors

/-- What the messages about the entry at a position begin with. -/
def entryPrefix (i : Nat) : String := "env[" ++ toString i ++ "]"

/-- `validate` reports an error about the entry at this position. -/
def reportedAt (spec : ClusterSpec) (i : Nat) : Bool :=
  (reportedErrors spec).any (fun message => startsWith message (entryPrefix i))

/-- The entries without such an error, in order. -/
def unreportedEntries (spec : ClusterSpec) : List Crd.EnvVar :=
  (spec.env.zipIdx.filter (fun entry => !reportedAt spec entry.2)).map Prod.fst

/-- The forms in which an entry is carried over to the container, each with all
that the two sides hold. -/
inductive Carries : Crd.EnvVar → Kubernetes.EnvVar → Prop
  | value (name value : String) :
    Carries { name := name, value := some value } { name := name, value := some value }
  | secret (name : String) (ref : SecretKeyRef) (hname : isBlank ref.name = false)
      (hkey : isBlank ref.key = false) :
    Carries { name := name, valueFrom := some { secretKeyRef := some ref } }
      { name := name, valueFrom := some { secretKeyRef := some ⟨ref.name, ref.key⟩ } }
  | configMap (name : String) (ref : ConfigMapKeyRef) (hname : isBlank ref.name = false)
      (hkey : isBlank ref.key = false) :
    Carries { name := name, valueFrom := some { configMapKeyRef := some ref } }
      { name := name, valueFrom := some { configMapKeyRef := some ⟨ref.name, ref.key⟩ } }

/-! What an entry renders to. -/

private theorem incompleteRef_eq_ok {field name key : String} :
    incompleteRef field name key = .ok () ↔ isBlank name = false ∧ isBlank key = false := by
  unfold incompleteRef
  cases isBlank name <;> cases isBlank key <;> simp

private theorem complete_of_checked {α : Type} {field name key : String}
    {rest : Except String α} {result : α}
    (h : (incompleteRef field name key >>= fun _ => rest) = .ok result) :
    isBlank name = false ∧ isBlank key = false := by
  rw [← @incompleteRef_eq_ok field]
  cases hcheck : incompleteRef field name key with
  | ok _ => rfl
  | error reason =>
    rw [hcheck] at h
    cases h

theorem resolveSource_of_buildEnvVar {env : Crd.EnvVar} {rendered : Kubernetes.EnvVar}
    (h : buildEnvVar env = some rendered) : ∃ source, env.resolveSource = .ok source := by
  unfold buildEnvVar at h
  cases hresolved : env.resolveSource with
  | ok source => exact ⟨source, rfl⟩
  | error reason => simp [hresolved] at h

theorem carries_of_buildEnvVar {env : Crd.EnvVar} {rendered : Kubernetes.EnvVar}
    (h : buildEnvVar env = some rendered) : Carries env rendered := by
  obtain ⟨source, hresolved⟩ := resolveSource_of_buildEnvVar h
  obtain ⟨name, value, valueFrom⟩ := env
  simp only [buildEnvVar, hresolved] at h
  rcases Crd.EnvVar.resolveSource_eq_ok hresolved with
    ⟨rfl, hfrom⟩ | ⟨ref, rfl, hvalue, hfrom⟩ | ⟨ref, rfl, hvalue, hfrom⟩
  · obtain rfl := hfrom
    obtain rfl := Option.some.inj h
    cases value with
    | some value => exact .value name value
    | none =>
      unfold Crd.EnvVar.resolveSource at hresolved
      split at hresolved <;> simp at hresolved
  · obtain rfl := hvalue
    obtain rfl := hfrom
    obtain rfl := Option.some.inj h
    unfold Crd.EnvVar.resolveSource at hresolved
    split at hresolved
    · cases hresolved
    · obtain ⟨hname, hkey⟩ := complete_of_checked hresolved
      exact .secret name ref hname hkey
  · obtain rfl := hvalue
    obtain rfl := hfrom
    obtain rfl := Option.some.inj h
    unfold Crd.EnvVar.resolveSource at hresolved
    split at hresolved
    · cases hresolved
    · obtain ⟨hname, hkey⟩ := complete_of_checked hresolved
      exact .configMap name ref hname hkey

theorem buildEnvVar_eq_none {env : Crd.EnvVar} :
    buildEnvVar env = none ↔ ∃ reason, env.resolveSource = .error reason := by
  unfold buildEnvVar
  rcases env.resolveSource with reason | (_ | source) <;> simp

/-! What the messages begin with. -/

private theorem startsWith_entryPrefix {i j : Nat} {rest : String} :
    startsWith (entryPrefix j ++ rest) (entryPrefix i) = true ↔ j = i := by
  constructor
  · intro h
    rw [startsWith, List.isPrefixOf_iff_prefix] at h
    obtain ⟨after, hafter⟩ := h
    simp only [entryPrefix, String.toList_append, List.append_assoc] at hafter
    have hbracket : ∀ n : Nat, ']' ∉ (toString n).toList.reverse := by
      intro n hmem
      have hdigit : ']' ∈ (n : Int).repr.toList := List.mem_reverse.mp hmem
      rcases char_of_mem_repr hdigit with h | h
      · exact absurd h (by decide)
      · exact absurd h (by decide)
    have hlist : (toString i).toList ++ ']' :: after =
        (toString j).toList ++ ']' :: rest.toList := List.append_cancel_left hafter
    have hreverse := congrArg List.reverse hlist
    simp only [List.reverse_append, List.reverse_cons, List.append_assoc,
      List.singleton_append] at hreverse
    have hsame := afterLast_unique (hbracket i) (hbracket j) hreverse
    have htext : toString i = toString j := String.toList_injective (List.reverse_inj.mp hsame)
    exact (natRepr_injective htext).symm
  · rintro rfl
    exact startsWith_append (by simp [startsWith]) rest

theorem mem_envErrors {start : Nat} {envs : List Crd.EnvVar} {message : String} :
    message ∈ ClusterSpec.envErrors start envs ↔
      ∃ i env reason, envs[i]? = some env ∧ env.resolveSource = .error reason ∧
        message = "env[" ++ toString (start + i) ++ "]" ++
          (if isBlank env.name then "" else " (" ++ env.name ++ ")") ++ ": " ++ reason := by
  induction envs generalizing start with
  | nil => simp [ClusterSpec.envErrors]
  | cons first envs ih =>
    rw [ClusterSpec.envErrors, List.mem_append, ih]
    constructor
    · rintro (hfirst | ⟨i, env, reason, henv, hreason, rfl⟩)
      · cases hresolved : first.resolveSource with
        | ok source => simp [hresolved] at hfirst
        | error reason =>
          simp only [hresolved, List.mem_singleton] at hfirst
          exact ⟨0, first, reason, rfl, hresolved, hfirst⟩
      · refine ⟨i + 1, env, reason, henv, hreason, ?_⟩
        rw [show start + (i + 1) = start + 1 + i by omega]
    · rintro ⟨i, env, reason, henv, hreason, rfl⟩
      cases i with
      | zero =>
        obtain rfl := Option.some.inj henv
        left
        simp [hreason]
      | succ i =>
        right
        refine ⟨i, env, reason, henv, hreason, ?_⟩
        rw [show start + (i + 1) = start + 1 + i by omega]

private theorem errors_initials {spec : ClusterSpec} {message : String}
    (h : message ∈ spec.errors) (hinitials : initials message = ['e', 'n']) :
    message ∈ ClusterSpec.envErrors 0 spec.env := by
  have hother : ∀ {a b : Char}, initials message = [a, b] → [a, b] = ['e', 'n'] := by
    intro a b hletters
    exact hletters.symm.trans hinitials
  simp only [ClusterSpec.errors, List.mem_append] at h
  rcases h with (((((((h | h) | h) | h) | h) | h) | h) | h) | h
  · exact absurd (hother (ClusterSpec.initials_replicasErrors h)) (by decide)
  · exact absurd (hother (ClusterSpec.initials_portErrors h)) (by decide)
  · exact absurd (hother (ClusterSpec.initials_portErrors h)) (by decide)
  · exact absurd (hother (ClusterSpec.initials_portErrors h)) (by decide)
  · exact absurd (hother (ClusterSpec.initials_distinctPortErrors h)) (by decide)
  · exact h
  · rcases ClusterSpec.initials_schedulingErrors h with ⟨-, hletters⟩ | hletters | hletters
    · exact absurd (hother hletters) (by decide)
    · exact absurd (hother hletters) (by decide)
    · exact absurd (hother hletters) (by decide)
  · exact absurd (hother (ClusterSpec.initials_autoscalingErrors h)) (by decide)
  · exact absurd (hother (ClusterSpec.initials_tlsErrors h)) (by decide)

private theorem initials_entryPrefix {i : Nat} : initials (entryPrefix i) = ['e', 'n'] := by
  rw [entryPrefix, String.append_assoc]
  exact initials_append _

/-! The two loops side by side. -/

theorem mem_reportedErrors {spec : ClusterSpec} {message : String} :
    message ∈ reportedErrors spec ↔ message ∈ spec.errors := by
  unfold reportedErrors ClusterSpec.validate
  cases spec.errors <;> simp

/-- An entry is reported exactly when it would not be rendered. -/
theorem reportedAt_iff {spec : ClusterSpec} {i : Nat} :
    reportedAt spec i = true ↔ ∃ env, spec.env[i]? = some env ∧ buildEnvVar env = none := by
  have hmessage : ∀ {j : Nat} {name reason : String},
      startsWith ("env[" ++ toString (0 + j) ++ "]" ++ name ++ ": " ++ reason) (entryPrefix i) =
        true ↔ j = i := by
    intro j name reason
    rw [Nat.zero_add, String.append_assoc, String.append_assoc]
    exact startsWith_entryPrefix
  rw [reportedAt, List.any_eq_true]
  constructor
  · rintro ⟨message, hmem, hstarts⟩
    have hentry := errors_initials (mem_reportedErrors.mp hmem)
      (initials_of_startsWith initials_entryPrefix hstarts)
    obtain ⟨j, env, reason, henv, hreason, rfl⟩ := mem_envErrors.mp hentry
    obtain rfl := hmessage.mp hstarts
    exact ⟨env, henv, buildEnvVar_eq_none.mpr ⟨reason, hreason⟩⟩
  · rintro ⟨env, henv, hnone⟩
    obtain ⟨reason, hreason⟩ := buildEnvVar_eq_none.mp hnone
    have hreported : ∀ message ∈ ClusterSpec.envErrors 0 spec.env,
        message ∈ reportedErrors spec := by
      intro message hmem
      rw [mem_reportedErrors]
      simp only [ClusterSpec.errors, List.mem_append]
      exact .inl (.inl (.inl (.inr hmem)))
    have hentry := (@mem_envErrors 0 _ _).mpr ⟨i, env, reason, henv, hreason, rfl⟩
    exact ⟨_, hreported _ hentry, hmessage.mpr rfl⟩

private theorem forall₂_filterMap {α β : Type} {R : α → β → Prop} {f : α → Option β}
    (h : ∀ a b, f a = some b → R a b) (l : List α) :
    List.Forall₂ R (l.filter (fun a => (f a).isSome)) (l.filterMap f) := by
  induction l with
  | nil => exact .nil
  | cons a l ih =>
    cases hfa : f a with
    | none => simpa [hfa] using ih
    | some b => simpa [hfa] using List.Forall₂.cons (h a b hfa) ih

theorem unreportedEntries_eq (spec : ClusterSpec) :
    unreportedEntries spec = spec.env.filter (fun env => (buildEnvVar env).isSome) := by
  have hfilter : spec.env.zipIdx.filter (fun entry => !reportedAt spec entry.2) =
      spec.env.zipIdx.filter (fun entry => (buildEnvVar entry.1).isSome) := by
    apply List.filter_congr
    rintro ⟨env, i⟩ hmem
    have henv : spec.env[i]? = some env := List.mem_zipIdx_iff_getElem?.mp hmem
    have hreported : reportedAt spec i = true ↔ buildEnvVar env = none := by
      rw [reportedAt_iff]
      simp [henv]
    cases hbuilt : buildEnvVar env with
    | none => simp [hreported.mpr hbuilt]
    | some rendered =>
      have hnot : reportedAt spec i = false := by
        rw [Bool.eq_false_iff, ne_eq, hreported, hbuilt]
        simp
      simp [hnot]
  have hmap := List.filter_map (p := fun env => (buildEnvVar env).isSome) (f := Prod.fst)
    (l := spec.env.zipIdx)
  rw [List.zipIdx_map_fst] at hmap
  rw [unreportedEntries, hfilter, hmap]
  rfl

/-- The container's environment is the operator's seven entries, and then exactly the
entries of the spec that `validate` does not report, each carried over as it is. -/
theorem environment_matches_validation (cluster : StreamlineCluster) :
    (operatorEnv cluster).map Kubernetes.EnvVar.name = operatorEnvNames ∧
      operatorEnvNames.length = 7 ∧
      (∃ rendered, containerEnv cluster = operatorEnv cluster ++ rendered ∧
        List.Forall₂ Carries (unreportedEntries cluster.spec) rendered) ∧
      ∀ i env, cluster.spec.env[i]? = some env →
        (reportedAt cluster.spec i = true ↔ buildEnvVar env = none) := by
  refine ⟨operatorEnv_names cluster, rfl, ⟨cluster.spec.env.filterMap buildEnvVar, rfl, ?_⟩, ?_⟩
  · rw [unreportedEntries_eq]
    exact forall₂_filterMap (fun _ _ => carries_of_buildEnvVar) cluster.spec.env
  · intro i env henv
    rw [reportedAt_iff]
    simp [henv]

end ClusterController

end StreamlineOperator.Controllers
