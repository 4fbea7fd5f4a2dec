/- source: general support, no source file
   digest: Fixed-width integer arithmetic that reports what its results lose. -/

import StreamlineOperator.Foundation.NumberFormat

set_option autoImplicit false
set_option relaxedAutoImplicit false

namespace StreamlineOperator.Foundation

/-- What no build survives. -/
inductive ArithmeticFault where
  | divisionByZero
  | quotientOverflow
  deriving DecidableEq, Repr

/-- What an optimized build goes on after: a wrapped result, or a conversion to a
narrower type that changed the value. -/
inductive Incident where
  | overflow
  | narrowing
  deriving DecidableEq, Repr

/-- A computation on machine numbers: a fault, or a value and what was lost. -/
inductive Checked (α : Type) where
  | fault (e : ArithmeticFault)
  | value (a : α) (incidents : List Incident)
  deriving DecidableEq

namespace Checked

variable {α β : Type}

/-- What was lost before the rest, and then in it. -/
def after (incidents : List Incident) : Checked α → Checked α
  | .fault e => .fault e
  | .value a more => .value a (incidents ++ more)

def bind (x : Checked α) (f : α → Checked β) : Checked β :=
  match x with
  | .fault e => .fault e
  | .value a incidents => (f a).after incidents

instance : Monad Checked where
  pure a := .value a []
  bind := bind

/-- The value, with an incident unless it is what it should be. -/
def report (a : α) (asIntended : Bool) (incident : Incident) : Checked α :=
  .value a (if asIntended then [] else [incident])

/-- The computation returns the value, and nothing was lost. -/
def Exact (x : Checked α) (a : α) : Prop := x = .value a []

theorem exact_pure {a b : α} : Exact (pure a) b ↔ a = b := by
  constructor
  · intro h
    cases h
    rfl
  · rintro rfl
    rfl

private theorem exact_after {x : Checked α} {incidents : List Incident} {a : α} :
    Exact (x.after incidents) a ↔ incidents = [] ∧ Exact x a := by
  cases x with
  | fault e => simp [Exact, after]
  | value b more =>
    simp only [Exact, after, Checked.value.injEq, List.append_eq_nil_iff]
    tauto

theorem exact_bind {x : Checked α} {f : α → Checked β} {b : β} :
    Exact (x >>= f) b ↔ ∃ a, Exact x a ∧ Exact (f a) b := by
  cases x with
  | fault e =>
    refine iff_of_false (fun h => by cases h) ?_
    rintro ⟨a, ha, -⟩
    cases ha
  | value a incidents =>
    have hbind : (value a incidents >>= f) = (f a).after incidents := rfl
    rw [hbind, exact_after]
    constructor
    · rintro ⟨rfl, hf⟩
      exact ⟨a, rfl, hf⟩
    · rintro ⟨a', ha, hf⟩
      cases ha
      exact ⟨rfl, hf⟩

theorem exact_pure_bind {a : α} {f : α → Checked β} {b : β} :
    Exact (pure a >>= f) b ↔ Exact (f a) b := by
  rw [exact_bind]
  constructor
  · rintro ⟨a', ha, hf⟩
    rwa [exact_pure.mp ha]
  · intro hf
    exact ⟨a, exact_pure.mpr rfl, hf⟩

theorem not_exact_fault {e : ArithmeticFault} {a : α} : ¬ Exact (fault e) a := by
  intro h
  cases h

theorem exact_report {value a : α} {asIntended : Bool} {incident : Incident} :
    Exact (report value asIntended incident) a ↔ value = a ∧ asIntended = true := by
  unfold Exact report
  rw [Checked.value.injEq]
  cases asIntended <;> simp

/-- The computation returns something, and nothing was lost. -/
def Lossless (x : Checked α) : Prop := ∃ a, Exact x a

theorem lossless_pure {a : α} : Lossless (pure a) := ⟨a, rfl⟩

theorem lossless_bind {x : Checked α} {f : α → Checked β} :
    Lossless (x >>= f) ↔ ∃ a, Exact x a ∧ Lossless (f a) := by
  simp only [Lossless, exact_bind]
  constructor
  · rintro ⟨b, a, ha, hb⟩
    exact ⟨a, ha, b, hb⟩
  · rintro ⟨a, ha, b, hb⟩
    exact ⟨b, a, ha, hb⟩

end Checked

open Checked (Exact report)

/-! The operations, by the integers they stand for. -/

def mul64 (a b : Int64) : Checked Int64 :=
  report (Int64.ofInt (a.toInt * b.toInt)) ((Int64.ofInt (a.toInt * b.toInt)).toInt =
    a.toInt * b.toInt) .overflow

/-- The quotient, cut off towards zero. -/
def div64 (a b : Int64) : Checked Int64 :=
  if b = 0 then .fault .divisionByZero
  else if (Int64.ofInt (a.toInt.tdiv b.toInt)).toInt ≠ a.toInt.tdiv b.toInt then
    .fault .quotientOverflow
  else pure (Int64.ofInt (a.toInt.tdiv b.toInt))

def div32 (a b : Int32) : Checked Int32 :=
  if b = 0 then .fault .divisionByZero
  else if (Int32.ofInt (a.toInt.tdiv b.toInt)).toInt ≠ a.toInt.tdiv b.toInt then
    .fault .quotientOverflow
  else pure (Int32.ofInt (a.toInt.tdiv b.toInt))

/-- `as i32` of a wider integer keeps the low bits. -/
def narrow (a : Int64) : Checked Int32 :=
  report a.toInt32 (a.toInt32.toInt = a.toInt) .narrowing

/-- `.ceil() as i32` ends at the nearest integer of the type, `nan` at zero. -/
def ceilAsInt32 {format : NumberFormat} : format.Value → Checked Int32
  | .finite number =>
    report (Int32.ofIntClamp ⌈number.1⌉) ((Int32.ofIntClamp ⌈number.1⌉).toInt = ⌈number.1⌉)
      .narrowing
  | .infinite negative =>
    report (if negative then Int32.minValue else Int32.maxValue) false .narrowing
  | .nan => report 0 false .narrowing

section Operations

/-! What the types hold, as integers. -/

theorem exists_int64 {n : Int} (hlo : -9223372036854775808 ≤ n) (hhi : n ≤ 9223372036854775807) :
    ∃ a : Int64, a.toInt = n :=
  ⟨Int64.ofInt n, Int64.toInt_ofInt_of_le (by omega) (by omega)⟩

theorem exists_int32 {n : Int} (hlo : -2147483648 ≤ n) (hhi : n ≤ 2147483647) :
    ∃ a : Int32, a.toInt = n :=
  ⟨Int32.ofInt n, Int32.toInt_ofInt_of_le (by omega) (by omega)⟩

theorem toInt_max64 (a b : Int64) : (max a b).toInt = max a.toInt b.toInt := by
  have hmax : max a b = if a ≤ b then b else a := rfl
  rw [hmax]
  split_ifs with hle <;> rw [Int64.le_iff_toInt_le] at hle <;> omega

theorem toInt_max32 (a b : Int32) : (max a b).toInt = max a.toInt b.toInt := by
  have hmax : max a b = if a ≤ b then b else a := rfl
  rw [hmax]
  split_ifs with hle <;> rw [Int32.le_iff_toInt_le] at hle <;> omega

theorem toInt_min32 (a b : Int32) : (min a b).toInt = min a.toInt b.toInt := by
  have hmin : min a b = if a ≤ b then a else b := rfl
  rw [hmin]
  split_ifs with hle <;> rw [Int32.le_iff_toInt_le] at hle <;> omega

private theorem ofInt64_eq {c : Int64} {n : Int} :
    Int64.ofInt n = c ∧ (Int64.ofInt n).toInt = n ↔ c.toInt = n := by
  constructor
  · rintro ⟨rfl, h⟩
    exact h
  · rintro rfl
    rw [Int64.ofInt_toInt]
    exact ⟨rfl, rfl⟩

private theorem ofInt32_eq {c : Int32} {n : Int} :
    Int32.ofInt n = c ∧ (Int32.ofInt n).toInt = n ↔ c.toInt = n := by
  constructor
  · rintro ⟨rfl, h⟩
    exact h
  · rintro rfl
    rw [Int32.ofInt_toInt]
    exact ⟨rfl, rfl⟩

theorem exact_mul64 {a b c : Int64} :
    Exact (mul64 a b) c ↔ c.toInt = a.toInt * b.toInt := by
  rw [mul64, Checked.exact_report, decide_eq_true_eq, ofInt64_eq]

theorem exact_div64 {a b c : Int64} :
    Exact (div64 a b) c ↔ b ≠ 0 ∧ c.toInt = a.toInt.tdiv b.toInt := by
  unfold div64
  split_ifs with hzero hfits
  · exact iff_of_false Checked.not_exact_fault (by simp [hzero])
  · refine iff_of_false Checked.not_exact_fault ?_
    rintro ⟨-, hc⟩
    rw [← hc, Int64.ofInt_toInt] at hfits
    exact hfits rfl
  · rw [Checked.exact_pure, ← ofInt64_eq]
    simp only [not_not.mp hfits, hzero, ne_eq, not_false_eq_true, and_true, true_and]

theorem exact_div32 {a b c : Int32} :
    Exact (div32 a b) c ↔ b ≠ 0 ∧ c.toInt = a.toInt.tdiv b.toInt := by
  unfold div32
  split_ifs with hzero hfits
  · exact iff_of_false Checked.not_exact_fault (by simp [hzero])
  · refine iff_of_false Checked.not_exact_fault ?_
    rintro ⟨-, hc⟩
    rw [← hc, Int32.ofInt_toInt] at hfits
    exact hfits rfl
  · rw [Checked.exact_pure, ← ofInt32_eq]
    simp only [not_not.mp hfits, hzero, ne_eq, not_false_eq_true, and_true, true_and]

theorem exact_narrow {a : Int64} {c : Int32} : Exact (narrow a) c ↔ c.toInt = a.toInt := by
  rw [narrow, Checked.exact_report, decide_eq_true_eq]
  constructor
  · rintro ⟨rfl, h⟩
    exact h
  · intro h
    have hnarrow : a.toInt32 = c := by
      rw [← Int32.ofInt_int64ToInt, ← h, Int32.ofInt_toInt]
    exact ⟨hnarrow, by rw [hnarrow, h]⟩

theorem exact_ceilAsInt32 {format : NumberFormat} {x : format.Value} {c : Int32} :
    Exact (ceilAsInt32 x) c ↔ ∃ q, x.rational = some q ∧ c.toInt = ⌈q⌉ := by
  cases x with
  | finite number =>
    rw [ceilAsInt32, Checked.exact_report, decide_eq_true_eq]
    constructor
    · rintro ⟨rfl, h⟩
      exact ⟨number.1, rfl, h⟩
    · rintro ⟨q, hq, h⟩
      obtain rfl := Option.some.inj hq
      rw [← h, Int32.ofIntClamp_toInt]
      exact ⟨rfl, rfl⟩
  | infinite negative =>
    rw [ceilAsInt32, Checked.exact_report]
    simp [NumberFormat.Value.rational]
  | nan =>
    rw [ceilAsInt32, Checked.exact_report]
    simp [NumberFormat.Value.rational]

end Operations

end StreamlineOperator.Foundation
