/- source: general support, no source file
   digest: Counts per interval of an ordered type, and what their running totals count. -/

import Mathlib.Algebra.BigOperators.Group.List.Basic
import Mathlib.Algebra.Order.Ring.Nat

set_option autoImplicit false
set_option relaxedAutoImplicit false

namespace StreamlineOperator.Foundation.Histogram

private theorem countP_le_succ {β : Type} {xs : List β} (f : β → Nat) (i : Nat) :
    xs.countP (fun x => f x ≤ i + 1) =
      xs.countP (fun x => f x ≤ i) + xs.countP (fun x => f x = i + 1) := by
  induction xs with
  | nil => rfl
  | cons x xs ih =>
    simp only [List.countP_cons, ih, decide_eq_true_eq]
    by_cases hle : f x ≤ i
    · rw [if_pos hle, if_pos (Nat.le_succ_of_le hle), if_neg (by omega)]
      omega
    · by_cases heq : f x = i + 1
      · rw [if_neg hle, if_pos heq, if_pos (by omega)]
        omega
      · rw [if_neg hle, if_neg heq, if_neg (by omega)]
        omega

variable {α : Type} [LinearOrder α]

/-- The interval of a value: the first bound that is not below it, and one past the last
bound when every bound is below it. -/
def slot (bounds : List α) (x : α) : Nat := bounds.findIdx (fun bound => x ≤ bound)

/-- How many of the values lie in each interval. -/
def tally (bounds xs : List α) : List Nat :=
  (List.range (bounds.length + 1)).map fun i => xs.countP (fun x => slot bounds x = i)

variable {bounds xs : List α}

theorem slot_le_length (x : α) : slot bounds x ≤ bounds.length := List.findIdx_le_length

theorem slot_le_iff (hsorted : bounds.Pairwise (· ≤ ·)) {i : Nat} (hi : i < bounds.length)
    (x : α) : slot bounds x ≤ i ↔ x ≤ bounds[i] := by
  constructor
  · intro hle
    have hslot : slot bounds x < bounds.length := Nat.lt_of_le_of_lt hle hi
    have hx : x ≤ bounds[slot bounds x] := by
      have hfound : decide (x ≤ bounds[slot bounds x]) = true :=
        @List.findIdx_getElem α (fun bound => x ≤ bound) bounds hslot
      exact of_decide_eq_true hfound
    rcases Nat.lt_or_eq_of_le hle with hlt | heq
    · exact le_trans hx (List.pairwise_iff_getElem.mp hsorted _ _ hslot hi hlt)
    · simpa only [heq] using hx
  · intro hx
    by_contra hlt
    have hnot : decide (x ≤ bounds[i]) = false := List.not_of_lt_findIdx (Nat.lt_of_not_le hlt)
    exact absurd hx (of_decide_eq_false hnot)

@[simp] theorem length_tally : (tally bounds xs).length = bounds.length + 1 := by
  simp [tally]

theorem getElem_tally {i : Nat} (hi : i < (tally bounds xs).length) :
    (tally bounds xs)[i] = xs.countP (fun x => slot bounds x = i) := by
  simp [tally]

theorem tally_nil : tally bounds [] = List.replicate (bounds.length + 1) 0 := by
  refine List.ext_getElem (by simp) ?_
  intro i hi hi'
  rw [getElem_tally, List.getElem_replicate, List.countP_nil]

theorem tally_concat (x : α) :
    tally bounds (xs ++ [x]) = (tally bounds xs).modify (slot bounds x) (· + 1) := by
  refine List.ext_getElem (by simp) ?_
  intro i hi hi'
  rw [List.getElem_modify, getElem_tally, getElem_tally, List.countP_append, List.countP_singleton]
  by_cases hslot : slot bounds x = i
  · rw [if_pos hslot, if_pos (decide_eq_true hslot)]
  · rw [if_neg hslot, if_neg (by simpa using hslot), Nat.add_zero]

theorem sum_take_tally {i : Nat} (hi : i ≤ bounds.length) :
    ((tally bounds xs).take (i + 1)).sum = xs.countP (fun x => slot bounds x ≤ i) := by
  induction i with
  | zero =>
    have hpos : 0 < (tally bounds xs).length := by simp
    have htake : (tally bounds xs).take (0 + 1) = [(tally bounds xs)[0]] := by
      rw [List.take_succ_eq_append_getElem hpos]
      rfl
    rw [htake, List.sum_singleton, getElem_tally]
    simp only [Nat.le_zero_eq]
  | succ i ih =>
    rw [List.take_succ_eq_append_getElem (by rw [length_tally]; omega), List.sum_append,
      List.sum_singleton, ih (by omega), getElem_tally, countP_le_succ]

/-- Up to a bound the running total counts the values that are at most the bound. -/
theorem sum_take_tally_of_bound (hsorted : bounds.Pairwise (· ≤ ·)) {i : Nat}
    (hi : i < bounds.length) :
    ((tally bounds xs).take (i + 1)).sum = xs.countP (fun x => x ≤ bounds[i]) := by
  rw [sum_take_tally (Nat.le_of_lt hi)]
  refine List.countP_congr ?_
  intro x _
  rw [decide_eq_true_eq, decide_eq_true_eq]
  exact slot_le_iff hsorted hi x

theorem sum_tally : (tally bounds xs).sum = xs.length := by
  have hall : (tally bounds xs).take (bounds.length + 1) = tally bounds xs :=
    List.take_of_length_le (Nat.le_of_eq length_tally)
  rw [← hall, sum_take_tally (Nat.le_refl _), List.countP_eq_length]
  intro x _
  exact decide_eq_true (slot_le_length x)

end StreamlineOperator.Foundation.Histogram
