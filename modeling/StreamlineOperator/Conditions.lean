/- source: src/src/conditions.rs
   digest: Condition constants, `build_condition`, and the in-place `set_condition`. -/

import Mathlib.Tactic.Common

set_option autoImplicit false
set_option relaxedAutoImplicit false

namespace StreamlineOperator.Conditions

def conditionTrue : String := "True"

def conditionFalse : String := "False"

def conditionUnknown : String := "Unknown"

def clusterConditionReady : String := "Ready"

def clusterConditionProgressing : String := "Progressing"

def clusterConditionDegraded : String := "Degraded"

def clusterConditionAvailable : String := "Available"

def topicConditionReady : String := "Ready"

def topicConditionSynced : String := "Synced"

def userConditionReady : String := "Ready"

def userConditionCredentialsReady : String := "CredentialsReady"

def clusterFinalizer : String := "streamline.io/cluster-cleanup"

def topicFinalizer : String := "streamline.io/topic-cleanup"

def userFinalizer : String := "streamline.io/user-cleanup"

/-- Generic condition fields. The conditions of the three kinds carry the same
five fields, so `into_cluster_condition` and its siblings are identities here. -/
structure ConditionFields where
  conditionType : String
  status : String
  lastTransitionTime : Option String
  reason : Option String
  message : Option String
  deriving DecidableEq, Repr

/-- The readings of one status build: `clock n` is what its `n`-th call of
`Utc::now().to_rfc3339()` returns. -/
abbrev Clock := Nat → String

def buildCondition (now conditionType status reason message : String) : ConditionFields where
  conditionType := conditionType
  status := status
  lastTransitionTime := some now
  reason := some reason
  message := some message

/-- What `set_condition` leaves in the place of the condition it found. -/
def updateCondition (existing new : ConditionFields) : ConditionFields :=
  if existing.status ≠ new.status then new
  else { existing with reason := new.reason, message := new.message }

/-- Set or update a condition: the first one of the type is updated in place, a
missing one is pushed at the end. -/
def setCondition (conditions : List ConditionFields) (new : ConditionFields) :
    List ConditionFields :=
  match conditions with
  | [] => [new]
  | existing :: rest =>
    if existing.conditionType = new.conditionType then updateCondition existing new :: rest
    else existing :: setCondition rest new

/-- The sequence of `set_condition` calls a builder makes. -/
def setConditions (conditions news : List ConditionFields) : List ConditionFields :=
  news.foldl setCondition conditions

/-- The condition a reader of the list finds under a type. -/
def findCondition (conditions : List ConditionFields) (type : String) : Option ConditionFields :=
  conditions.find? (fun c => c.conditionType = type)

/-- Two conditions that say the same thing, whatever their transition times. -/
structure SameReport (c new : ConditionFields) : Prop where
  conditionType : c.conditionType = new.conditionType
  status : c.status = new.status
  reason : c.reason = new.reason
  message : c.message = new.message

@[simp] theorem updateCondition_conditionType {existing new : ConditionFields}
    (h : existing.conditionType = new.conditionType) :
    (updateCondition existing new).conditionType = new.conditionType := by
  unfold updateCondition
  split
  · rfl
  · exact h

theorem updateCondition_sameReport {existing new : ConditionFields}
    (h : existing.conditionType = new.conditionType) :
    SameReport (updateCondition existing new) new := by
  unfold updateCondition
  split
  · exact ⟨rfl, rfl, rfl, rfl⟩
  · rename_i hs
    exact ⟨h, not_not.mp hs, rfl, rfl⟩

theorem updateCondition_lastTransitionTime (existing new : ConditionFields) :
    (updateCondition existing new).lastTransitionTime =
      if existing.status = new.status then existing.lastTransitionTime
      else new.lastTransitionTime := by
  by_cases h : existing.status = new.status <;> simp [updateCondition, h]

theorem updateCondition_of_sameReport {existing new : ConditionFields}
    (h : SameReport existing new) : updateCondition existing new = existing := by
  cases existing
  obtain ⟨ht, hs, hr, hm⟩ := h
  simp_all [updateCondition]

@[simp] theorem findCondition_nil (type : String) : findCondition [] type = none := rfl

theorem findCondition_cons (c : ConditionFields) (cs : List ConditionFields) (type : String) :
    findCondition (c :: cs) type =
      if c.conditionType = type then some c else findCondition cs type := by
  by_cases h : c.conditionType = type <;> simp [findCondition, h]

theorem findCondition_conditionType {cs : List ConditionFields} {type : String}
    {c : ConditionFields} (h : findCondition cs type = some c) : c.conditionType = type := by
  simpa using List.find?_some h

/-- What is found after one call: the updated or pushed condition under its own
type, the old one under every other. -/
theorem findCondition_setCondition (cs : List ConditionFields) (new : ConditionFields)
    (type : String) :
    findCondition (setCondition cs new) type =
      if new.conditionType = type then
        some (((findCondition cs type).map (updateCondition · new)).getD new)
      else findCondition cs type := by
  induction cs with
  | nil =>
    by_cases h : new.conditionType = type <;> simp [setCondition, findCondition_cons, h]
  | cons c cs ih =>
    by_cases hc : c.conditionType = new.conditionType
    · by_cases ht : new.conditionType = type <;>
        simp [setCondition, findCondition_cons, hc, ht]
    · by_cases ht : new.conditionType = type
      · have hct : c.conditionType ≠ type := ht ▸ hc
        simp [setCondition, findCondition_cons, hct, ih, ht]
      · simp [setCondition, hc, findCondition_cons, ih, ht]

theorem setCondition_types (cs : List ConditionFields) (new : ConditionFields) :
    (setCondition cs new).map ConditionFields.conditionType =
      if new.conditionType ∈ cs.map ConditionFields.conditionType then
        cs.map ConditionFields.conditionType
      else cs.map ConditionFields.conditionType ++ [new.conditionType] := by
  induction cs with
  | nil => simp [setCondition]
  | cons c cs ih =>
    by_cases hc : c.conditionType = new.conditionType
    · simp [setCondition, hc]
    · simp only [setCondition, if_neg hc, List.map_cons, ih, List.mem_cons,
        Ne.symm hc, false_or]
      split <;> simp

theorem setCondition_of_settled {cs : List ConditionFields} {c new : ConditionFields}
    (h : findCondition cs new.conditionType = some c) (hc : SameReport c new) :
    setCondition cs new = cs := by
  induction cs with
  | nil => simp at h
  | cons d cs ih =>
    rw [findCondition_cons] at h
    by_cases hd : d.conditionType = new.conditionType
    · rw [if_pos hd] at h
      obtain rfl := Option.some.inj h
      rw [setCondition, if_pos hd, updateCondition_of_sameReport hc]
    · rw [if_neg hd] at h
      rw [setCondition, if_neg hd, ih h]

@[simp] theorem setConditions_nil (cs : List ConditionFields) : setConditions cs [] = cs := rfl

@[simp] theorem setConditions_cons (cs news : List ConditionFields) (new : ConditionFields) :
    setConditions cs (new :: news) = setConditions (setCondition cs new) news := rfl

theorem findCondition_setConditions_of_not_mem (cs : List ConditionFields)
    {news : List ConditionFields} {type : String}
    (h : type ∉ news.map ConditionFields.conditionType) :
    findCondition (setConditions cs news) type = findCondition cs type := by
  induction news generalizing cs with
  | nil => rfl
  | cons new news ih =>
    simp only [List.map_cons, List.mem_cons, not_or] at h
    rw [setConditions_cons, ih _ h.2, findCondition_setCondition, if_neg (Ne.symm h.1)]

theorem findCondition_setConditions (cs : List ConditionFields)
    {news : List ConditionFields} (distinct : (news.map ConditionFields.conditionType).Nodup)
    {new : ConditionFields} (hmem : new ∈ news) :
    findCondition (setConditions cs news) new.conditionType =
      some (((findCondition cs new.conditionType).map (updateCondition · new)).getD new) := by
  induction news generalizing cs with
  | nil => simp at hmem
  | cons first news ih =>
    simp only [List.map_cons, List.nodup_cons] at distinct
    rw [setConditions_cons]
    rcases List.mem_cons.mp hmem with rfl | hmem
    · rw [findCondition_setConditions_of_not_mem _ distinct.1, findCondition_setCondition,
        if_pos rfl]
    · have hne : first.conditionType ≠ new.conditionType := by
        intro he
        exact distinct.1 (he ▸ List.mem_map_of_mem hmem)
      rw [ih _ distinct.2 hmem, findCondition_setCondition, if_neg hne]

private theorem setCondition_of_not_mem {cs : List ConditionFields} {new : ConditionFields}
    (h : new.conditionType ∉ cs.map ConditionFields.conditionType) :
    setCondition cs new = cs ++ [new] := by
  induction cs with
  | nil => rfl
  | cons c cs ih =>
    simp only [List.map_cons, List.mem_cons, not_or] at h
    rw [setCondition, if_neg (Ne.symm h.1), ih h.2, List.cons_append]

theorem setConditions_empty {news : List ConditionFields}
    (distinct : (news.map ConditionFields.conditionType).Nodup) :
    setConditions [] news = news := by
  suffices h : ∀ cs, (cs ++ news).map ConditionFields.conditionType |>.Nodup →
      setConditions cs news = cs ++ news from h [] distinct
  clear distinct
  induction news with
  | nil => simp
  | cons new news ih =>
    intro cs distinct
    have hnew : new.conditionType ∉ cs.map ConditionFields.conditionType := by
      simp only [List.map_append, List.map_cons] at distinct
      intro hmem
      exact (List.nodup_append.mp distinct).2.2 _ hmem _ (by simp) rfl
    rw [setConditions_cons, setCondition_of_not_mem hnew, ih _ (by simpa using distinct)]
    simp

theorem setConditions_types {cs news : List ConditionFields}
    (h : ∀ new ∈ news, new.conditionType ∈ cs.map ConditionFields.conditionType) :
    (setConditions cs news).map ConditionFields.conditionType =
      cs.map ConditionFields.conditionType := by
  induction news generalizing cs with
  | nil => rfl
  | cons new news ih =>
    have hnew : (setCondition cs new).map ConditionFields.conditionType =
        cs.map ConditionFields.conditionType := by
      rw [setCondition_types, if_pos (h new (by simp))]
    rw [setConditions_cons, ih, hnew]
    intro n hn
    rw [hnew]
    exact h n (List.mem_cons_of_mem _ hn)

private theorem setCondition_forall_type {P : String → Prop} {cs : List ConditionFields}
    {new : ConditionFields} (hcs : ∀ c ∈ cs, P c.conditionType) (hnew : P new.conditionType) :
    ∀ c ∈ setCondition cs new, P c.conditionType := by
  have htypes : ∀ type ∈ (setCondition cs new).map ConditionFields.conditionType, P type := by
    rw [setCondition_types]
    split
    · simpa using hcs
    · simp only [List.mem_append, List.mem_map, List.mem_singleton]
      rintro type (⟨c, hc, rfl⟩ | rfl)
      · exact hcs c hc
      · exact hnew
  exact fun c hc => htypes _ (List.mem_map_of_mem hc)

theorem setConditions_forall_type (P : String → Prop) {cs news : List ConditionFields}
    (hcs : ∀ c ∈ cs, P c.conditionType) (hnews : ∀ c ∈ news, P c.conditionType) :
    ∀ c ∈ setConditions cs news, P c.conditionType := by
  induction news generalizing cs with
  | nil => exact hcs
  | cons new news ih =>
    rw [setConditions_cons]
    exact ih (setCondition_forall_type hcs (hnews new (by simp)))
      (fun c hc => hnews c (List.mem_cons_of_mem _ hc))

theorem setConditions_sameReport (cs : List ConditionFields)
    {news : List ConditionFields} (distinct : (news.map ConditionFields.conditionType).Nodup)
    {new : ConditionFields} (hmem : new ∈ news) :
    ∃ c, findCondition (setConditions cs news) new.conditionType = some c ∧
      SameReport c new := by
  refine ⟨_, findCondition_setConditions cs distinct hmem, ?_⟩
  cases h : findCondition cs new.conditionType with
  | none => exact ⟨rfl, rfl, rfl, rfl⟩
  | some c => exact updateCondition_sameReport (findCondition_conditionType h)

theorem setConditions_of_settled {cs news : List ConditionFields}
    (h : ∀ new ∈ news, ∃ c, findCondition cs new.conditionType = some c ∧ SameReport c new) :
    setConditions cs news = cs := by
  induction news with
  | nil => rfl
  | cons new news ih =>
    obtain ⟨c, hfind, hsame⟩ := h new (by simp)
    rw [setConditions_cons, setCondition_of_settled hfind hsame]
    exact ih (fun n hn => h n (List.mem_cons_of_mem _ hn))

/-- Running a builder again with other clock readings changes nothing: the two
runs set the same reports, one for one. -/
theorem setConditions_repeat (cs : List ConditionFields) {news news' : List ConditionFields}
    (distinct : (news.map ConditionFields.conditionType).Nodup)
    (same : List.Forall₂ SameReport news news') :
    setConditions (setConditions cs news) news' = setConditions cs news := by
  apply setConditions_of_settled
  intro new' hnew'
  obtain ⟨new, hnew, hreport⟩ : ∃ new ∈ news, SameReport new new' := by
    clear distinct
    induction same with
    | nil => simp at hnew'
    | cons hab _ ih =>
      rcases List.mem_cons.mp hnew' with rfl | hnew'
      · exact ⟨_, by simp, hab⟩
      · obtain ⟨new, hnew, h⟩ := ih hnew'
        exact ⟨new, List.mem_cons_of_mem _ hnew, h⟩
  obtain ⟨c, hfind, hc⟩ := setConditions_sameReport cs distinct hnew
  rw [hreport.conditionType] at hfind
  exact ⟨c, hfind, hc.conditionType.trans hreport.conditionType,
    hc.status.trans hreport.status, hc.reason.trans hreport.reason,
    hc.message.trans hreport.message⟩

/-! A list with one condition of each type. -/

private theorem setCondition_nodup {cs : List ConditionFields} {new : ConditionFields}
    (h : (cs.map ConditionFields.conditionType).Nodup) :
    ((setCondition cs new).map ConditionFields.conditionType).Nodup := by
  rw [setCondition_types]
  split
  · exact h
  · rename_i hnew
    rw [List.nodup_append]
    refine ⟨h, by simp, ?_⟩
    intro type htype other hother
    rw [List.mem_singleton.mp hother]
    rintro rfl
    exact hnew htype

theorem setConditions_nodup {cs : List ConditionFields} (news : List ConditionFields)
    (h : (cs.map ConditionFields.conditionType).Nodup) :
    ((setConditions cs news).map ConditionFields.conditionType).Nodup := by
  induction news generalizing cs with
  | nil => exact h
  | cons new news ih =>
    rw [setConditions_cons]
    exact ih (setCondition_nodup h)

private theorem filter_setCondition (keep : String → Bool) (cs : List ConditionFields)
    {new : ConditionFields} (h : keep new.conditionType = false) :
    (setCondition cs new).filter (fun c => keep c.conditionType) =
      cs.filter (fun c => keep c.conditionType) := by
  induction cs with
  | nil => simp [setCondition, h]
  | cons c cs ih =>
    by_cases hc : c.conditionType = new.conditionType
    · have hupdated : (updateCondition c new).conditionType = new.conditionType :=
        updateCondition_conditionType hc
      rw [setCondition, if_pos hc, List.filter_cons, List.filter_cons, hupdated, hc, h]
      simp only [Bool.false_eq_true, if_false]
    · rw [setCondition, if_neg hc, List.filter_cons, List.filter_cons, ih]

theorem filter_setConditions (keep : String → Bool) (cs : List ConditionFields)
    {news : List ConditionFields} (h : ∀ new ∈ news, keep new.conditionType = false) :
    (setConditions cs news).filter (fun c => keep c.conditionType) =
      cs.filter (fun c => keep c.conditionType) := by
  induction news generalizing cs with
  | nil => rfl
  | cons new news ih =>
    rw [setConditions_cons, ih _ (fun n hn => h n (List.mem_cons_of_mem _ hn)),
      filter_setCondition keep cs (h new (by simp))]

theorem filter_eq_of_findCondition {cs : List ConditionFields} {type : String}
    {c : ConditionFields} (distinct : (cs.map ConditionFields.conditionType).Nodup)
    (h : findCondition cs type = some c) :
    cs.filter (fun d => d.conditionType = type) = [c] := by
  induction cs with
  | nil => simp at h
  | cons d cs ih =>
    rw [List.map_cons, List.nodup_cons] at distinct
    rw [findCondition_cons] at h
    by_cases hd : d.conditionType = type
    · rw [if_pos hd] at h
      obtain rfl := Option.some.inj h
      have hrest : cs.filter (fun e => e.conditionType = type) = [] := by
        rw [List.filter_eq_nil_iff]
        intro e he htype
        have hsame : e.conditionType = d.conditionType := (of_decide_eq_true htype).trans hd.symm
        exact distinct.1 (hsame ▸ List.mem_map_of_mem he)
      rw [List.filter_cons, if_pos (by simpa using hd), hrest]
    · rw [if_neg hd] at h
      rw [List.filter_cons, if_neg (by simpa using hd), ih distinct.2 h]

end StreamlineOperator.Conditions
