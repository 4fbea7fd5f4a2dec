/- source: the status builders shared by src/src/controllers/{cluster,topic,user}.rs
   digest: A status over an arbitrary prior one: one condition for each report, the others kept. -/

import StreamlineOperator.Controllers.StatusBuild

set_option autoImplicit false
set_option relaxedAutoImplicit false

namespace StreamlineOperator.Controllers

open Conditions
open Crd

/-- The condition says what the report says. Its transition time may be any. -/
structure Says (c : ConditionFields) (report : Report) : Prop where
  conditionType : c.conditionType = report.conditionType
  status : c.status = report.status
  reason : c.reason = some report.reason
  message : c.message = some report.message

/-- The list has one condition of the report's type, and that says the report. -/
def SaysOnce (cs : List ConditionFields) (report : Report) : Prop :=
  ∃ c, cs.filter (fun d => d.conditionType = report.conditionType) = [c] ∧ Says c report

/-- The status of the condition found under a type. -/
def conditionStatus (cs : List ConditionFields) (type : String) : Option String :=
  (findCondition cs type).map ConditionFields.status

theorem says_of_sameReport {c : ConditionFields} {report : Report} {now : String}
    (h : SameReport c (report.stamp now)) : Says c report :=
  ⟨h.conditionType, h.status, h.reason, h.message⟩

theorem SaysOnce.findCondition {cs : List ConditionFields} {report : Report}
    (h : SaysOnce cs report) :
    ∃ c, findCondition cs report.conditionType = some c ∧ Says c report := by
  obtain ⟨c, hfilter, hsays⟩ := h
  refine ⟨c, ?_, hsays⟩
  rw [Conditions.findCondition, ← List.head?_filter, hfilter]
  rfl

theorem SaysOnce.conditionStatus {cs : List ConditionFields} {report : Report}
    (h : SaysOnce cs report) : conditionStatus cs report.conditionType = some report.status := by
  obtain ⟨c, hfind, hsays⟩ := h.findCondition
  rw [Controllers.conditionStatus, hfind, Option.map_some, hsays.status]

theorem stampReports_mem {clock : Clock} {reports : List Report} {report : Report}
    (h : report ∈ reports) : ∃ now, report.stamp now ∈ stampReports clock reports := by
  induction reports generalizing clock with
  | nil => simp at h
  | cons first reports ih =>
    rcases List.mem_cons.mp h with rfl | h
    · exact ⟨clock 0, by simp [stampReports]⟩
    · obtain ⟨now, hmem⟩ := @ih (fun n => clock (n + 1)) h
      exact ⟨now, List.mem_cons_of_mem _ hmem⟩

/-- The list has one condition of each of the types. -/
def OnceEach (types : List String) (cs : List ConditionFields) : Prop :=
  ∀ type ∈ types, ∃ c, cs.filter (fun d => d.conditionType = type) = [c]

/-- Two lists say the same under each of the types, if at different times. -/
def SameReports (types : List String) (cs cs' : List ConditionFields) : Prop :=
  ∀ type ∈ types, ∃ c c', findCondition cs type = some c ∧ findCondition cs' type = some c' ∧
    SameReport c c'

variable {S : Type} [PublishedStatus S]

/-- The prior status has no two conditions of one type. -/
def DistinctConditions (prior : Option S) : Prop :=
  ∀ status ∈ prior,
    ((PublishedStatus.conditions status).map ConditionFields.conditionType).Nodup

theorem DistinctConditions.seeded {prior : Option S} (h : DistinctConditions prior) :
    ((seededConditions prior).map ConditionFields.conditionType).Nodup := by
  cases prior with
  | none => exact List.nodup_nil
  | some status => exact h status rfl

namespace StatusBuild

variable [DecidableEq S] (build : StatusBuild S) (clock clock' : Clock) {stored stored' : Option S}

theorem saysOnce_run (distinct : DistinctConditions stored) {report : Report}
    (h : report ∈ build.reports) :
    SaysOnce (PublishedStatus.conditions (build.run clock stored)) report := by
  rw [conditions_run, conditions]
  obtain ⟨now, hmem⟩ := @stampReports_mem clock _ _ h
  have hnews : ((stampReports clock build.reports).map ConditionFields.conditionType).Nodup := by
    rw [stampReports_types]
    exact build.types_nodup
  have hseed : (((seededConditions stored).filter
      (fun c => build.keeps c.conditionType)).map ConditionFields.conditionType).Nodup :=
    distinct.seeded.sublist (List.filter_sublist.map _)
  obtain ⟨c, hfind, hsame⟩ := setConditions_sameReport _ hnews hmem
  exact ⟨c, filter_eq_of_findCondition (setConditions_nodup _ hseed) hfind,
    says_of_sameReport hsame⟩

theorem onceEach_run (distinct : DistinctConditions stored) :
    OnceEach build.types (PublishedStatus.conditions (build.run clock stored)) := by
  intro type htype
  obtain ⟨report, hmem, rfl⟩ := List.mem_map.mp htype
  obtain ⟨c, hc, -⟩ := build.saysOnce_run clock distinct hmem
  exact ⟨c, hc⟩

theorem sameReports_run (distinct : DistinctConditions stored)
    (distinct' : DistinctConditions stored') :
    SameReports build.types (PublishedStatus.conditions (build.run clock stored))
      (PublishedStatus.conditions (build.run clock' stored')) := by
  intro type htype
  obtain ⟨report, hmem, rfl⟩ := List.mem_map.mp htype
  obtain ⟨c, hc, hsays⟩ := (build.saysOnce_run clock distinct hmem).findCondition
  obtain ⟨c', hc', hsays'⟩ := (build.saysOnce_run clock' distinct' hmem).findCondition
  exact ⟨c, c', hc, hc', hsays.conditionType.trans hsays'.conditionType.symm,
    hsays.status.trans hsays'.status.symm, hsays.reason.trans hsays'.reason.symm,
    hsays.message.trans hsays'.message.symm⟩

theorem others_run (keeps : ∀ type, build.keeps type = true) :
    (PublishedStatus.conditions (build.run clock stored)).filter
        (fun c => c.conditionType ∉ build.types) =
      (seededConditions stored).filter (fun c => c.conditionType ∉ build.types) := by
  have hseed : (seededConditions stored).filter (fun c => build.keeps c.conditionType) =
      seededConditions stored := by
    rw [List.filter_eq_self]
    exact fun c _ => keeps c.conditionType
  rw [conditions_run, conditions, hseed]
  apply filter_setConditions (fun type => decide (type ∉ build.types))
  intro new hnew
  have hmem : new.conditionType ∈ build.types := by
    rw [types, ← stampReports_types clock]
    exact List.mem_map_of_mem hnew
  simp [hmem]

end StatusBuild

end StreamlineOperator.Controllers
