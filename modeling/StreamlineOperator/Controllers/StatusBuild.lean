/- source: the status builders shared by src/src/controllers/{cluster,topic,user}.rs
   digest: Building a status over the stored one: settled builds repeat, histories date their changes. -/

import StreamlineOperator.Conditions
import StreamlineOperator.Crd.Status

set_option autoImplicit false
set_option relaxedAutoImplicit false

namespace StreamlineOperator.Controllers

open Conditions
open Crd

/-- A status type with the two parts a builder treats specially. -/
class PublishedStatus (S : Type) extends StatusCodec S where
  conditions : S → List ConditionFields
  lastUpdated : S → Option String
  setLastUpdated : S → Option String → S
  conditions_setLastUpdated : ∀ s t, conditions (setLastUpdated s t) = conditions s
  lastUpdated_setLastUpdated : ∀ s t, lastUpdated (setLastUpdated s t) = t
  setLastUpdated_setLastUpdated : ∀ s t t', setLastUpdated (setLastUpdated s t) t' =
    setLastUpdated s t'
  setLastUpdated_lastUpdated : ∀ s, setLastUpdated s (lastUpdated s) = s

export PublishedStatus (setLastUpdated)

attribute [simp] PublishedStatus.conditions_setLastUpdated
  PublishedStatus.lastUpdated_setLastUpdated PublishedStatus.setLastUpdated_setLastUpdated

variable {S : Type} [PublishedStatus S]

/-- The conditions already published. -/
def seededConditions (stored : Option S) : List ConditionFields :=
  (stored.map PublishedStatus.conditions).getD []

/-- Stamp `lastUpdated` only when the rest of the status actually changed. -/
def withStableTimestamp [DecidableEq S] (stored : Option S) (status : S) (now : String) : S :=
  let semanticChange := stored.all (fun current => setLastUpdated current none ≠ status)
  setLastUpdated status
    (if semanticChange then some now else stored.bind PublishedStatus.lastUpdated)

/-- What a builder says about one condition. -/
structure Report where
  conditionType : String
  status : String
  reason : String
  message : String

def Report.stamp (self : Report) (now : String) : ConditionFields :=
  buildCondition now self.conditionType self.status self.reason self.message

/-- The conditions of a build: the `n`-th one reads the clock for the `n`-th time. -/
def stampReports (clock : Clock) : List Report → List ConditionFields
  | [] => []
  | report :: reports => report.stamp (clock 0) :: stampReports (fun n => clock (n + 1)) reports

theorem stampReports_getElem? (clock : Clock) (reports : List Report) (n : Nat) :
    (stampReports clock reports)[n]? = reports[n]?.map (fun r => r.stamp (clock n)) := by
  induction reports generalizing clock n with
  | nil => rfl
  | cons report reports ih =>
    cases n with
    | zero => rfl
    | succ n => simpa [stampReports] using ih (fun n => clock (n + 1)) n

@[simp] theorem stampReports_types (clock : Clock) (reports : List Report) :
    (stampReports clock reports).map ConditionFields.conditionType =
      reports.map Report.conditionType := by
  induction reports generalizing clock with
  | nil => rfl
  | cons report reports ih =>
    rw [stampReports, List.map_cons, List.map_cons, ih]
    rfl

theorem stampReports_sameReport (clock clock' : Clock) (reports : List Report) :
    List.Forall₂ SameReport (stampReports clock reports) (stampReports clock' reports) := by
  induction reports generalizing clock clock' with
  | nil => exact .nil
  | cons report reports ih => exact .cons ⟨rfl, rfl, rfl, rfl⟩ (ih _ _)

/-- One status build: what it reports, which of the stored conditions it starts
from, and the status it wraps around the resulting conditions. -/
structure StatusBuild (S : Type) [PublishedStatus S] where
  reports : List Report
  keeps : String → Bool
  body : List ConditionFields → S
  types_nodup : (reports.map Report.conditionType).Nodup
  keeps_types : ∀ type ∈ reports.map Report.conditionType, keeps type = true
  conditions_body : ∀ cs, PublishedStatus.conditions (body cs) = cs
  lastUpdated_body : ∀ cs, PublishedStatus.lastUpdated (body cs) = none

namespace StatusBuild

def types (self : StatusBuild S) : List String := self.reports.map Report.conditionType

/-- The conditions the build leaves, from those it is seeded with. -/
def conditions (self : StatusBuild S) (clock : Clock) (seed : List ConditionFields) :
    List ConditionFields :=
  setConditions (seed.filter (fun c => self.keeps c.conditionType))
    (stampReports clock self.reports)

def run [DecidableEq S] (self : StatusBuild S) (clock : Clock) (stored : Option S) : S :=
  withStableTimestamp stored (self.body (self.conditions clock (seededConditions stored)))
    (clock self.reports.length)

variable (build : StatusBuild S) (clock clock' : Clock)

theorem keeps_of_mem_conditions (seed : List ConditionFields) {c : ConditionFields}
    (h : c ∈ build.conditions clock seed) : build.keeps c.conditionType = true := by
  have hseed : ∀ d ∈ seed.filter (fun c => build.keeps c.conditionType),
      build.keeps d.conditionType = true := fun d hd => (List.mem_filter.mp hd).2
  have hnews : ∀ d ∈ stampReports clock build.reports, build.keeps d.conditionType = true := by
    intro d hd
    apply build.keeps_types
    rw [← stampReports_types clock]
    exact List.mem_map_of_mem hd
  exact setConditions_forall_type (fun type => build.keeps type = true) hseed hnews c h

theorem conditions_conditions (seed : List ConditionFields) :
    build.conditions clock' (build.conditions clock seed) = build.conditions clock seed := by
  have hkept : (build.conditions clock seed).filter (fun c => build.keeps c.conditionType) =
      build.conditions clock seed := by
    rw [List.filter_eq_self]
    exact fun c hc => build.keeps_of_mem_conditions clock seed hc
  rw [conditions, hkept]
  apply setConditions_repeat
  · rw [stampReports_types]
    exact build.types_nodup
  · exact stampReports_sameReport clock clock' build.reports

variable [DecidableEq S]

theorem run_eq (stored : Option S) : ∃ time,
    build.run clock stored =
      setLastUpdated (build.body (build.conditions clock (seededConditions stored))) time :=
  ⟨_, rfl⟩

theorem conditions_run (stored : Option S) :
    PublishedStatus.conditions (build.run clock stored) =
      build.conditions clock (seededConditions stored) := by
  obtain ⟨time, h⟩ := build.run_eq clock stored
  rw [h, PublishedStatus.conditions_setLastUpdated, build.conditions_body]

theorem setLastUpdated_run (stored : Option S) :
    setLastUpdated (build.run clock stored) none =
      build.body (build.conditions clock (seededConditions stored)) := by
  obtain ⟨time, h⟩ := build.run_eq clock stored
  rw [h, PublishedStatus.setLastUpdated_setLastUpdated]
  have hbody := PublishedStatus.setLastUpdated_lastUpdated
    (build.body (build.conditions clock (seededConditions stored)))
  rwa [build.lastUpdated_body] at hbody

/-- A build is a fixed point of itself, at any later clock reading. -/
theorem run_run (stored : Option S) :
    build.run clock' (some (build.run clock stored)) = build.run clock stored := by
  have hconds : build.conditions clock' (seededConditions (some (build.run clock stored))) =
      build.conditions clock (seededConditions stored) := by
    rw [seededConditions, Option.map_some, Option.getD_some, conditions_run,
      conditions_conditions]
  have hsame := build.setLastUpdated_run clock stored
  rw [run, hconds, withStableTimestamp]
  simp only [Option.all_some, hsame, ne_eq, not_true, decide_false, Bool.false_eq_true, if_false,
    Option.bind_some]
  rw [← hsame, PublishedStatus.setLastUpdated_setLastUpdated,
    PublishedStatus.setLastUpdated_lastUpdated]

end StatusBuild

end StreamlineOperator.Controllers
