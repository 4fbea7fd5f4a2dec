/- source: general support, no source file
   digest: Objects whose fields remember who set them, and configurations applied to them. -/

import Mathlib.Tactic.Common

set_option autoImplicit false
set_option relaxedAutoImplicit false

namespace StreamlineOperator.Foundation

inductive WriteOperation where
  | update
  | apply
  deriving DecidableEq, Repr

/-- One of the owners of a field: a manager and the operation it wrote with. -/
structure Owner where
  manager : String
  operation : WriteOperation
  deriving DecidableEq, Repr

variable {Field : Type}

/-- What a writer sets: a value for some of the fields. -/
abbrev Configuration (Value : Field → Type) : Type := (field : Field) → Option (Value field)

/-- A stored object: the values of its fields and their owners. -/
structure Owned (Value : Field → Type) where
  value : Configuration Value
  owners : Field → List Owner

variable {Value : Field → Type}

/-- The second configuration sets all the first one does, to the same values. -/
def Configuration.Extends (base config : Configuration Value) : Prop :=
  ∀ field v, base field = some v → config field = some v

/-- Both configurations together. The first one decides where both set a field. -/
def Configuration.merge (base config : Configuration Value) : Configuration Value :=
  fun field => (base field).or (config field)

/-- Where both configurations set a field, they set it to the same value. -/
def Configuration.Agrees (base config : Configuration Value) : Prop :=
  ∀ field v w, base field = some v → config field = some w → v = w

theorem Configuration.merge_self (config : Configuration Value) :
    config.merge config = config := by
  funext field
  exact Option.or_self

theorem Configuration.Agrees.rfl {config : Configuration Value} : config.Agrees config := by
  intro field v w hv hw
  exact Option.some.inj (hv.symm.trans hw)

namespace Owned

/-- Nothing is stored. -/
def absent : Owned Value where
  value _ := none
  owners _ := []

/-- Creating an object makes its requester the owner of every field it sets. -/
def create (requester : String) (config : Configuration Value) : Owned Value where
  value := config
  owners field := if (config field).isSome then [⟨requester, .update⟩] else []

/-- The configuration sets a field to another value than the stored one, and somebody
other than the applier owns it. -/
def Conflicts (self : Owned Value) (applier : Owner) (config : Configuration Value) : Prop :=
  ∃ field v, config field = some v ∧ self.value field ≠ some v ∧
    ∃ owner ∈ self.owners field, owner ≠ applier

/-- Nobody but the applier owns the field, and it does. -/
def ownsAlone (self : Owned Value) (applier : Owner) (field : Field) : Bool :=
  applier ∈ self.owners field && (self.owners field).all (fun owner => owner = applier)

/-- What an apply without a conflict stores: the values it sets, and the applier as an
owner of these fields alone. What only the applier owned and it sets no more goes. -/
def applied (self : Owned Value) (applier : Owner) (config : Configuration Value) : Owned Value where
  value field :=
    match config field with
    | some v => some v
    | none => if self.ownsAlone applier field then none else self.value field
  owners field :=
    let others := (self.owners field).filter (fun owner => owner ≠ applier)
    if (config field).isSome then applier :: others else others

/-- The object was created as `base`, and since then only `applier` has written to it,
by applies. -/
structure Since (requester : String) (applier : Owner) (base : Configuration Value)
    (stored : Owned Value) : Prop where
  kept : ∀ field v, base field = some v →
    stored.value field = some v ∧ ⟨requester, .update⟩ ∈ stored.owners field
  alone : ∀ field, base field = none → ∀ owner ∈ stored.owners field, owner = applier
  owned : ∀ field, base field = none → (stored.value field).isSome = true →
    applier ∈ stored.owners field

variable {requester : String} {applier : Owner} {base config : Configuration Value}
variable {self : Owned Value}

theorem since_create : Since requester applier config (create requester config) where
  kept field v hfield := by simp [create, hfield]
  alone field hfield := by simp [create, hfield]
  owned field hfield := by simp [create, hfield]

theorem Since.ownsAlone {field : Field} (h : Since requester applier base self)
    (hbase : base field = none) (hvalue : (self.value field).isSome = true) :
    self.ownsAlone applier field = true := by
  have hmine := h.owned field hbase hvalue
  have hothers := h.alone field hbase
  rw [Owned.ownsAlone, Bool.and_eq_true, List.all_eq_true]
  exact ⟨by simpa using hmine, fun owner howner => by simpa using hothers owner howner⟩

/-- An apply that extends the creation meets no conflict. -/
theorem Since.not_conflicts (h : Since requester applier base self) (hext : base.Extends config) :
    ¬ self.Conflicts applier config := by
  rintro ⟨field, v, hset, hdiffers, owner, howner, hother⟩
  cases hbase : base field with
  | some w =>
    obtain rfl : w = v := Option.some.inj ((hext field w hbase).symm.trans hset)
    exact hdiffers (h.kept field w hbase).1
  | none => exact hother (h.alone field hbase owner howner)

theorem Since.applied (h : Since requester applier base self)
    (hrequester : applier ≠ ⟨requester, .update⟩) (hfree : ¬ self.Conflicts applier config) :
    Since requester applier base (self.applied applier config) where
  kept field v hbase := by
    obtain ⟨hvalue, howner⟩ := h.kept field v hbase
    have hstays : (⟨requester, .update⟩ : Owner) ∈
        (self.owners field).filter (fun owner => owner ≠ applier) :=
      List.mem_filter.mpr ⟨howner, by simpa using hrequester.symm⟩
    cases hset : config field with
    | some w =>
      -- the creator still owns the field, so the apply cannot have changed it
      have hsame : self.value field = some w := by
        by_contra hdiffers
        exact hfree ⟨field, w, hset, hdiffers, _, howner, hrequester.symm⟩
      refine ⟨?_, ?_⟩
      · simp [Owned.applied, hset, ← hsame, hvalue]
      · simpa [Owned.applied, hset] using Or.inr ⟨howner, hrequester.symm⟩
    | none =>
      have hshared : self.ownsAlone applier field = false := by
        rw [Owned.ownsAlone, Bool.and_eq_false_iff]
        right
        rw [List.all_eq_false]
        exact ⟨_, howner, by simpa using hrequester.symm⟩
      refine ⟨?_, ?_⟩
      · simp [Owned.applied, hset, hshared, hvalue]
      · simpa [Owned.applied, hset] using ⟨howner, hrequester.symm⟩
  alone field hbase owner hmem := by
    cases hset : config field with
    | some w =>
      have hcases : owner = applier ∨ owner ∈ self.owners field ∧ ¬ owner = applier := by
        simpa [Owned.applied, hset] using hmem
      exact hcases.elim id (fun hother => h.alone field hbase owner hother.1)
    | none =>
      have hother : owner ∈ self.owners field ∧ ¬ owner = applier := by
        simpa [Owned.applied, hset] using hmem
      exact h.alone field hbase owner hother.1
  owned field hbase hvalue := by
    cases hset : config field with
    | some w => simp [Owned.applied, hset]
    | none =>
      cases hstored : self.value field with
      | none => simp [Owned.applied, hset, hstored] at hvalue
      | some w =>
        have halone := h.ownsAlone hbase (by rw [hstored]; rfl)
        simp [Owned.applied, hset, halone] at hvalue

/-- After an apply that extends the creation, the object is what was applied. -/
theorem Since.applied_value (h : Since requester applier base self) (hext : base.Extends config) :
    (self.applied applier config).value = config := by
  funext field
  cases hset : config field with
  | some v => simp [Owned.applied, hset]
  | none =>
    have hbase : base field = none := by
      cases hbase : base field with
      | none => rfl
      | some v =>
        rw [hext field v hbase] at hset
        cases hset
    cases hstored : self.value field with
    | none => simp [Owned.applied, hset, hstored]
    | some v =>
      have halone := h.ownsAlone hbase (by rw [hstored]; rfl)
      simp [Owned.applied, hset, halone]

theorem Since.agrees (h : Since requester applier base self)
    (hrequester : applier ≠ ⟨requester, .update⟩) (hfree : ¬ self.Conflicts applier config) :
    base.Agrees config := by
  intro field v w hbase hset
  obtain ⟨hvalue, howner⟩ := h.kept field v hbase
  by_contra hdiffers
  refine hfree ⟨field, w, hset, ?_, _, howner, hrequester.symm⟩
  rw [hvalue]
  exact fun heq => hdiffers (Option.some.inj heq)

/-- After an apply, the object is what was created and what was applied. -/
theorem Since.applied_merge (h : Since requester applier base self)
    (hrequester : applier ≠ ⟨requester, .update⟩) (hfree : ¬ self.Conflicts applier config) :
    (self.applied applier config).value = base.merge config := by
  funext field
  cases hbase : base field with
  | some v =>
    have hkept := ((h.applied hrequester hfree).kept field v hbase).1
    simp [Configuration.merge, hbase, hkept]
  | none =>
    cases hset : config field with
    | some v => simp [Configuration.merge, Owned.applied, hbase, hset]
    | none =>
      cases hstored : self.value field with
      | none => simp [Configuration.merge, Owned.applied, hbase, hset, hstored]
      | some v =>
        have halone := h.ownsAlone hbase (by rw [hstored]; rfl)
        simp [Configuration.merge, Owned.applied, hbase, hset, halone]

theorem applied_applied (self : Owned Value) (applier : Owner) (config : Configuration Value) :
    (self.applied applier config).applied applier config = self.applied applier config := by
  have hvalue : ((self.applied applier config).applied applier config).value =
      (self.applied applier config).value := by
    funext field
    cases hset : config field with
    | some v => simp [Owned.applied, hset]
    | none =>
      -- the first apply gave the field up, so the second has nothing to remove
      have hgiven : (self.applied applier config).ownsAlone applier field = false := by
        simp [Owned.ownsAlone, Owned.applied, hset]
      rw [Owned.applied]
      simp only [hset, hgiven, Bool.false_eq_true, if_false]
  have howners : ((self.applied applier config).applied applier config).owners =
      (self.applied applier config).owners := by
    funext field
    cases hset : config field with
    | some v => simp [Owned.applied, hset, List.filter_filter]
    | none => simp [Owned.applied, hset, List.filter_filter]
  exact congrArg₂ Owned.mk hvalue howners

theorem not_conflicts_applied (self : Owned Value) (applier : Owner)
    (config : Configuration Value) :
    ¬ (self.applied applier config).Conflicts applier config := by
  rintro ⟨field, v, hset, hdiffers, -⟩
  exact hdiffers (by simp [Owned.applied, hset])

theorem Since.extends (h : Since requester applier base self) (hvalue : self.value = config) :
    base.Extends config := by
  intro field v hbase
  rw [← hvalue]
  exact (h.kept field v hbase).1

end Owned

end StreamlineOperator.Foundation
