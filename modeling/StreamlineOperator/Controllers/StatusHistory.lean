/- source: the status builders shared by src/src/controllers/{cluster,topic,user}.rs
   digest: What a sequence of status builds remembers: latest reports, dates of the last changes. -/

import StreamlineOperator.Controllers.StatusBuild

set_option autoImplicit false
set_option relaxedAutoImplicit false

namespace StreamlineOperator.Controllers

open Conditions
open Crd

/-- Of the builds `0` to `n`, `m` is the most recent one at which `value`
differed from the build before, or the first one. -/
structure LastChange {α : Type} (value : Nat → α) (n m : Nat) : Prop where
  le : m ≤ n
  changed : m = 0 ∨ value m ≠ value (m - 1)
  unchanged : ∀ k, m < k → k ≤ n → value k = value (k - 1)

/-- A stamp that is renewed exactly when the value changes is the reading of the
last change. -/
theorem exists_lastChange {α β : Type} (value : Nat → α) (stamp read : Nat → β)
    (first : stamp 0 = read 0)
    (kept : ∀ n, value (n + 1) = value n → stamp (n + 1) = stamp n)
    (renewed : ∀ n, value (n + 1) ≠ value n → stamp (n + 1) = read (n + 1)) (n : Nat) :
    ∃ m, LastChange value n m ∧ stamp n = read m := by
  induction n with
  | zero => exact ⟨0, ⟨Nat.le_refl 0, .inl rfl, fun k hk hk' => absurd hk (by omega)⟩, first⟩
  | succ n ih =>
    obtain ⟨m, hm, hstamp⟩ := ih
    by_cases h : value (n + 1) = value n
    · refine ⟨m, ⟨by have := hm.le; omega, hm.changed, ?_⟩, (kept n h).trans hstamp⟩
      intro k hk hk'
      rcases Nat.lt_or_ge n k with hn | hn
      · obtain rfl : k = n + 1 := by omega
        exact h
      · exact hm.unchanged k hk hn
    · exact ⟨n + 1, ⟨Nat.le_refl _, .inr h, fun k hk hk' => absurd hk (by omega)⟩, renewed n h⟩

/-! The condition a sequence of updates leaves under one type. -/

def updates (new : Nat → ConditionFields) : Nat → ConditionFields
  | 0 => new 0
  | n + 1 => updateCondition (updates new n) (new (n + 1))

theorem updates_sameReport {new : Nat → ConditionFields} {type : String}
    (htype : ∀ n, (new n).conditionType = type) (n : Nat) :
    SameReport (updates new n) (new n) := by
  induction n with
  | zero => exact ⟨rfl, rfl, rfl, rfl⟩
  | succ n ih =>
    apply updateCondition_sameReport
    rw [ih.conditionType, htype, htype]

theorem updates_lastTransitionTime {new : Nat → ConditionFields} {type : String}
    (htype : ∀ n, (new n).conditionType = type) (n : Nat) :
    ∃ m, LastChange (fun k => (updates new k).status) n m ∧
      (updates new n).lastTransitionTime = (new m).lastTransitionTime := by
  apply exists_lastChange (fun k => (updates new k).status)
    (fun k => (updates new k).lastTransitionTime) (fun k => (new k).lastTransitionTime) rfl
  · intro k hk
    have hstatus := (updates_sameReport htype (k + 1)).status
    rw [updates, updateCondition_lastTransitionTime, if_pos (hk.symm.trans hstatus)]
  · intro k hk
    have hstatus := (updates_sameReport htype (k + 1)).status
    rw [updates, updateCondition_lastTransitionTime, if_neg]
    intro he
    exact hk (hstatus.trans he.symm)

variable {S : Type} [PublishedStatus S] [DecidableEq S]
variable (builds : Nat → StatusBuild S) (clocks : Nat → Clock)

/-- Every build starts from the status the one before it left, the first one from
none. -/
def history : Nat → S
  | 0 => (builds 0).run (clocks 0) none
  | n + 1 => (builds (n + 1)).run (clocks (n + 1)) (some (history n))

/-- The conditions found in the `n`-th status. -/
def conditionAt (type : String) (n : Nat) : Option ConditionFields :=
  findCondition (PublishedStatus.conditions (history builds clocks n)) type

variable {builds clocks} {types : List String}

private theorem conditions_history_zero :
    PublishedStatus.conditions (history builds clocks 0) =
      stampReports (clocks 0) (builds 0).reports := by
  rw [history, StatusBuild.conditions_run, StatusBuild.conditions]
  apply setConditions_empty
  rw [stampReports_types]
  exact (builds 0).types_nodup

theorem history_types (managed : ∀ n, (builds n).types = types) (n : Nat) :
    (PublishedStatus.conditions (history builds clocks n)).map ConditionFields.conditionType =
      types := by
  induction n with
  | zero => rw [conditions_history_zero, stampReports_types, ← managed 0, StatusBuild.types]
  | succ n ih =>
    have hkept : (PublishedStatus.conditions (history builds clocks n)).filter
        (fun c => (builds (n + 1)).keeps c.conditionType) =
          PublishedStatus.conditions (history builds clocks n) := by
      rw [List.filter_eq_self]
      intro c hc
      apply (builds (n + 1)).keeps_types
      change c.conditionType ∈ (builds (n + 1)).types
      rw [managed, ← ih]
      exact List.mem_map_of_mem hc
    rw [history, StatusBuild.conditions_run, StatusBuild.conditions, seededConditions,
      Option.map_some, Option.getD_some, hkept, setConditions_types, ih]
    intro new hnew
    have hmem := List.mem_map_of_mem (f := ConditionFields.conditionType) hnew
    rwa [stampReports_types, ← StatusBuild.types, managed, ← ih] at hmem

private theorem conditions_history_succ (managed : ∀ n, (builds n).types = types) (n : Nat) :
    PublishedStatus.conditions (history builds clocks (n + 1)) =
      setConditions (PublishedStatus.conditions (history builds clocks n))
        (stampReports (clocks (n + 1)) (builds (n + 1)).reports) := by
  have hkept : (PublishedStatus.conditions (history builds clocks n)).filter
      (fun c => (builds (n + 1)).keeps c.conditionType) =
        PublishedStatus.conditions (history builds clocks n) := by
    rw [List.filter_eq_self]
    intro c hc
    apply (builds (n + 1)).keeps_types
    change c.conditionType ∈ (builds (n + 1)).types
    rw [managed, ← history_types managed n]
    exact List.mem_map_of_mem hc
  rw [history, StatusBuild.conditions_run, StatusBuild.conditions, seededConditions,
    Option.map_some, Option.getD_some, hkept]

private theorem stamp_mem (clock : Clock) {reports : List Report} {j : Nat} {r : Report}
    (h : reports[j]? = some r) : r.stamp (clock j) ∈ stampReports clock reports := by
  apply List.mem_of_getElem? (i := j)
  rw [stampReports_getElem?, h]
  rfl

omit [DecidableEq S] in
private theorem stampReports_nodup (build : StatusBuild S) (clock : Clock) :
    ((stampReports clock build.reports).map ConditionFields.conditionType).Nodup := by
  rw [stampReports_types]
  exact build.types_nodup

private theorem conditionAt_zero {j : Nat} {r : Report} (h : (builds 0).reports[j]? = some r) :
    conditionAt builds clocks r.conditionType 0 = some (r.stamp (clocks 0 j)) := by
  rw [conditionAt, conditions_history_zero, ← setConditions_empty (stampReports_nodup _ _)]
  exact findCondition_setConditions [] (stampReports_nodup _ _) (stamp_mem _ h)

private theorem conditionAt_succ (managed : ∀ n, (builds n).types = types) {n j : Nat}
    {r : Report} (h : (builds (n + 1)).reports[j]? = some r) {c : ConditionFields}
    (hc : conditionAt builds clocks r.conditionType n = some c) :
    conditionAt builds clocks r.conditionType (n + 1) =
      some (updateCondition c (r.stamp (clocks (n + 1) j))) := by
  rw [conditionAt, conditions_history_succ managed]
  have hfind := findCondition_setConditions
    (PublishedStatus.conditions (history builds clocks n)) (stampReports_nodup (builds (n + 1)) _)
    (stamp_mem (clocks (n + 1)) h)
  change findCondition _ r.conditionType = some (((conditionAt builds clocks r.conditionType n).map
    (updateCondition · _)).getD _) at hfind
  rw [hfind, hc]
  rfl

/-- The condition of one managed type after each build. It says what the latest
build reports, and its transition time was read at the last change of its status. -/
structure TrackedCondition (builds : Nat → StatusBuild S) (clocks : Nat → Clock) (j : Nat)
    (type : String) (c : Nat → ConditionFields) : Prop where
  found : ∀ n, conditionAt builds clocks type n = some (c n)
  reported : ∀ n, ∃ r, (builds n).reports[j]? = some r ∧ SameReport (c n) (r.stamp (clocks n j))
  transition : ∀ n, ∃ m, LastChange (fun k => (c k).status) n m ∧
    (c n).lastTransitionTime = some (clocks m j)

theorem history_condition (clocks : Nat → Clock) (managed : ∀ n, (builds n).types = types) {j : Nat} {type : String}
    (h : types[j]? = some type) : ∃ c, TrackedCondition builds clocks j type c := by
  have hreport : ∀ n, ∃ r, (builds n).reports[j]? = some r ∧ r.conditionType = type := by
    intro n
    rwa [← managed n, StatusBuild.types, List.getElem?_map, Option.map_eq_some_iff] at h
  choose r hr htype using hreport
  let new n := (r n).stamp (clocks n j)
  let c := updates new
  have hfound : ∀ n, conditionAt builds clocks type n = some (c n) := by
    intro n
    induction n with
    | zero => exact htype 0 ▸ conditionAt_zero (hr 0)
    | succ n ih => exact htype (n + 1) ▸ conditionAt_succ managed (hr (n + 1)) (htype (n + 1) ▸ ih)
  have hnew : ∀ n, (new n).conditionType = type := htype
  refine ⟨c, hfound, fun n => ⟨r n, hr n, updates_sameReport hnew n⟩, fun n => ?_⟩
  obtain ⟨m, hm, htime⟩ := updates_lastTransitionTime hnew n
  exact ⟨m, hm, htime⟩

theorem history_lastUpdated (builds : Nat → StatusBuild S) (clocks : Nat → Clock) (n : Nat) :
    ∃ m, LastChange (fun k => setLastUpdated (history builds clocks k) none) n m ∧
      PublishedStatus.lastUpdated (history builds clocks n) =
        some (clocks m (builds m).reports.length) := by
  apply exists_lastChange (fun k => setLastUpdated (history builds clocks k) none)
    (fun k => PublishedStatus.lastUpdated (history builds clocks k))
    (fun k => some (clocks k (builds k).reports.length))
  · rw [history, StatusBuild.run, withStableTimestamp,
      PublishedStatus.lastUpdated_setLastUpdated]
    rfl
  · intro k hk
    rw [history, StatusBuild.setLastUpdated_run] at hk
    rw [history, StatusBuild.run, withStableTimestamp,
      PublishedStatus.lastUpdated_setLastUpdated, hk]
    simp
  · intro k hk
    rw [history, StatusBuild.setLastUpdated_run] at hk
    rw [history, StatusBuild.run, withStableTimestamp,
      PublishedStatus.lastUpdated_setLastUpdated]
    simp [Ne.symm hk]

end StreamlineOperator.Controllers
