/- source: general support, no source file
   digest: A controller with thresholds: when its next size is final, and when more load makes it larger. -/

import Mathlib.Order.MinMax
import Mathlib.Tactic.Order

set_option autoImplicit false
set_option relaxedAutoImplicit false

namespace StreamlineOperator.Foundation

/-- The targets and bounds of a controller. A size is raised to `grown` while it
is overloaded, lowered to `shrunk` while it is idle, raised to `needed` while it is
saturated, and kept between the bounds. -/
structure ThresholdControl (α : Type) [LinearOrder α] where
  overloaded : α → Bool
  idle : α → Bool
  saturated : α → Bool
  grown : α
  shrunk : α
  needed : α
  least : α
  lowest : α
  highest : α

namespace ThresholdControl

variable {α : Type} [LinearOrder α] (c : ThresholdControl α) {n m : α}

def afterLoad (n : α) : α :=
  if c.overloaded n = true then max n c.grown
  else if c.idle n = true ∧ c.lowest < n then min n c.shrunk
  else n

def afterRate (n : α) : α :=
  if c.saturated n = true then max (c.afterLoad n) c.needed else c.afterLoad n

/-- The bounds, applied last. -/
def clamp (x : α) : α := min (max x c.lowest) c.highest

def next (n : α) : α := c.clamp (max (c.afterRate n) c.least)

/-- Larger sizes are less loaded, and the targets suffice. -/
structure Lawful : Prop where
  overloaded_antitone : ∀ {n m}, n ≤ m → c.overloaded m = true → c.overloaded n = true
  idle_monotone : ∀ {n m}, n ≤ m → c.idle n = true → c.idle m = true
  saturated_antitone : ∀ {n m}, n ≤ m → c.saturated m = true → c.saturated n = true
  not_idle : ∀ {n}, c.overloaded n = true → c.idle n = false
  grown_le_shrunk : c.grown ≤ c.shrunk
  grown_not_idle : c.lowest < c.grown → c.idle c.grown = false
  lt_needed : ∀ {n}, c.saturated n = true → n < c.needed
  lowest_le_highest : c.lowest ≤ c.highest

/-- The size shrinks to one that is saturated. -/
structure ShrinksTooFar (n : α) : Prop where
  notSaturated : c.saturated n = false
  idle : c.idle n = true
  lowest_lt : c.lowest < n
  shrunk_lt : c.shrunk < n
  lt_highest : max (max c.shrunk c.least) c.lowest < c.highest
  saturated : c.saturated (max (max c.shrunk c.least) c.lowest) = true

/-- The size grows to one that is idle. -/
structure GrowsTooFar (n : α) : Prop where
  saturated : c.saturated n = true
  idle : c.idle (min c.needed c.highest) = true
  lowest_lt : c.lowest < min c.needed c.highest
  shrunk_lt : c.shrunk < min c.needed c.highest
  least_lt : c.least < min c.needed c.highest
  notSaturated : c.saturated (min c.needed c.highest) = false

/-- A size is lowered for being idle. -/
structure Shrinks (n : α) : Prop where
  idle : c.idle n = true
  lowest_lt : c.lowest < n
  shrunk_lt : c.shrunk < n

variable {c}

theorem clamp_le_highest (x : α) : c.clamp x ≤ c.highest := min_le_right _ _

theorem lowest_le_clamp (h : c.Lawful) (x : α) : c.lowest ≤ c.clamp x :=
  le_min (le_max_right _ _) h.lowest_le_highest

theorem clamp_eq_iff {x : α} (hlowest : c.lowest ≤ n) (hhighest : n ≤ c.highest) :
    c.clamp x = n ↔ (n ≤ x ∨ n = c.lowest) ∧ (x ≤ n ∨ n = c.highest) := by
  unfold clamp
  constructor
  · intro hn
    constructor
    · by_cases hx : n ≤ x
      · exact .inl hx
      · right
        order
    · by_cases hx : x ≤ n
      · exact .inl hx
      · right
        order
  · rintro ⟨hbelow | hbelow, habove | habove⟩ <;> order

theorem afterRate_of_saturated (hrate : c.saturated n = true) :
    c.afterRate n = max (c.afterLoad n) c.needed := by
  rw [afterRate, if_pos hrate]

theorem afterRate_of_not_saturated (hrate : c.saturated n = false) :
    c.afterRate n = c.afterLoad n := by
  rw [afterRate, hrate, if_neg Bool.false_ne_true]

theorem afterLoad_le_afterRate (n : α) : c.afterLoad n ≤ c.afterRate n := by
  unfold afterRate
  split
  · exact le_max_left _ _
  · exact le_rfl

theorem afterLoad_cases (h : c.Lawful) (n : α) :
    (c.overloaded n = true ∧ ¬ c.Shrinks n ∧ c.afterLoad n = max n c.grown) ∨
      (c.Shrinks n ∧ c.afterLoad n = c.shrunk) ∨
      (c.overloaded n = false ∧ ¬ c.Shrinks n ∧ c.afterLoad n = n) := by
  unfold afterLoad
  by_cases hover : c.overloaded n = true
  · refine .inl ⟨hover, ?_, if_pos hover⟩
    intro hshrinks
    have hnot := h.not_idle hover
    rw [hshrinks.idle] at hnot
    cases hnot
  · rw [if_neg hover]
    have hnot : c.overloaded n = false := by simpa using hover
    by_cases hidle : c.idle n = true ∧ c.lowest < n
    · rw [if_pos hidle]
      rcases lt_or_ge c.shrunk n with hless | hmore
      · exact .inr (.inl ⟨⟨hidle.1, hidle.2, hless⟩, min_eq_right hless.le⟩)
      · refine .inr (.inr ⟨hnot, ?_, min_eq_left hmore⟩)
        intro hshrinks
        exact absurd hshrinks.shrunk_lt (not_lt.mpr hmore)
    · rw [if_neg hidle]
      refine .inr (.inr ⟨hnot, ?_, rfl⟩)
      intro hshrinks
      exact hidle ⟨hshrinks.idle, hshrinks.lowest_lt⟩

section Steady

variable (h : c.Lawful)

include h

theorem le_afterLoad (hnot : ¬ c.Shrinks n) : n ≤ c.afterLoad n := by
  rcases afterLoad_cases h n with ⟨-, -, hload⟩ | ⟨hshrinks, -⟩ | ⟨-, -, hload⟩
  · rw [hload]
    exact le_max_left _ _
  · exact absurd hshrinks hnot
  · exact hload.ge

theorem afterLoad_of_shrinks (hshrinks : c.Shrinks n) : c.afterLoad n = c.shrunk := by
  rcases afterLoad_cases h n with ⟨-, hnot, -⟩ | ⟨-, hload⟩ | ⟨-, hnot, -⟩
  · exact absurd hshrinks hnot
  · exact hload
  · exact absurd hshrinks hnot

theorem not_idle_of_raised (hraised : n < c.afterLoad n) (hmore : c.lowest < c.afterLoad n) :
    c.idle (c.afterLoad n) = false := by
  rcases afterLoad_cases h n with ⟨-, -, hload⟩ | ⟨hshrinks, hload⟩ | ⟨-, -, hload⟩
  · have hgrown : c.afterLoad n = c.grown := by
      rw [hload] at hraised ⊢
      exact max_eq_right ((lt_max_iff.mp hraised).resolve_left (lt_irrefl n)).le
    rw [hgrown] at hmore ⊢
    exact h.grown_not_idle hmore
  · exact absurd hraised (not_lt.mpr (hload ▸ hshrinks.shrunk_lt.le))
  · exact absurd hload hraised.ne'

theorem not_shrinks_of_le_afterLoad (hnot : ¬ c.Shrinks n) (hle : m ≤ c.afterLoad n) :
    ¬ c.Shrinks m := by
  intro hshrinks
  rcases (le_afterLoad h hnot).lt_or_eq with hraised | hsame
  · have hbusy := not_idle_of_raised h hraised (hshrinks.lowest_lt.trans_le hle)
    rw [h.idle_monotone hle hshrinks.idle] at hbusy
    cases hbusy
  · rw [← hsame] at hle
    exact hnot ⟨h.idle_monotone hle hshrinks.idle, hshrinks.lowest_lt.trans_le hle,
      hshrinks.shrunk_lt.trans_le hle⟩

theorem grown_le_afterLoad (hle : n ≤ m) (hover : c.overloaded m = true) :
    c.grown ≤ c.afterLoad n := by
  rw [afterLoad, if_pos (h.overloaded_antitone hle hover)]
  exact le_max_right _ _

theorem next_bounds (n : α) :
    c.lowest ≤ c.next n ∧ c.next n ≤ c.highest ∧
      (c.next n ≤ max (c.afterRate n) c.least ∨ c.next n = c.lowest) ∧
      (max (c.afterRate n) c.least ≤ c.next n ∨ c.next n = c.highest) := by
  have hlowest := lowest_le_clamp h (max (c.afterRate n) c.least)
  have hhighest := @clamp_le_highest _ _ c (max (c.afterRate n) c.least)
  exact ⟨hlowest, hhighest, (clamp_eq_iff hlowest hhighest).mp rfl⟩

theorem least_le_next (n : α) : c.least ≤ c.next n ∨ c.next n = c.highest := by
  obtain ⟨-, -, -, habove⟩ := next_bounds h n
  exact habove.imp_left (le_max_right _ _).trans

theorem afterRate_le_next (n : α) : c.afterRate n ≤ c.next n ∨ c.next n = c.highest := by
  obtain ⟨-, -, -, habove⟩ := next_bounds h n
  exact habove.imp_left (le_max_left _ _).trans

theorem grown_le_next (hgrew : n ≤ c.afterRate n) (hover : c.overloaded (c.next n) = true) :
    c.grown ≤ c.next n ∨ c.next n = c.highest := by
  refine (afterRate_le_next h n).imp_left fun hfits => ?_
  have hgrown := grown_le_afterLoad h (hgrew.trans hfits) hover
  exact hgrown.trans ((afterLoad_le_afterRate n).trans hfits)

theorem next_eq_self_of_saturated (hlowest : c.lowest ≤ m) (hhighest : m ≤ c.highest)
    (hrate : c.saturated m = true) : c.next m = m ↔ m = c.highest := by
  have hneeded := h.lt_needed hrate
  have hafter : c.needed ≤ c.afterRate m := by
    rw [afterRate_of_saturated hrate]
    exact le_max_right _ _
  have habove : m < max (c.afterRate m) c.least :=
    hneeded.trans_le (hafter.trans (le_max_left _ _))
  rw [next, clamp_eq_iff hlowest hhighest]
  constructor
  · rintro ⟨-, hbelow | heq⟩
    · exact absurd habove (not_lt.mpr hbelow)
    · exact heq
  · intro heq
    exact ⟨.inl habove.le, .inr heq⟩

theorem next_eq_self_iff (hlowest : c.lowest ≤ m) (hhighest : m ≤ c.highest)
    (hrate : c.saturated m = false) (hleast : c.least ≤ m ∨ m = c.highest)
    (hgrown : c.overloaded m = true → c.grown ≤ m ∨ m = c.highest) :
    c.next m = m ↔ (c.Shrinks m → m ≤ c.least) := by
  rw [next, clamp_eq_iff hlowest hhighest, afterRate_of_not_saturated hrate]
  rcases afterLoad_cases h m with ⟨hover, hnot, hload⟩ | ⟨hshrinks, hload⟩ | ⟨-, hnot, hload⟩
  · refine iff_of_true ⟨.inl ?_, ?_⟩ (fun hshrinks => absurd hshrinks hnot)
    · exact (le_afterLoad h hnot).trans (le_max_left _ _)
    · rw [hload]
      rcases hgrown hover with hfits | htop
      · exact hleast.imp_left (max_le (max_le le_rfl hfits))
      · exact .inr htop
  · rw [hload]
    have hshrunk := hshrinks.shrunk_lt
    constructor
    · rintro ⟨hbelow | heq, -⟩ -
      · exact (le_max_iff.mp hbelow).resolve_left (not_le.mpr hshrunk)
      · exact absurd heq hshrinks.lowest_lt.ne'
    · intro hfloor
      exact ⟨.inl ((hfloor hshrinks).trans (le_max_right _ _)),
        hleast.imp_left (max_le hshrunk.le)⟩
  · rw [hload]
    exact iff_of_true ⟨.inl (le_max_left _ _), hleast.imp_left (max_le le_rfl)⟩
      (fun hshrinks => absurd hshrinks hnot)

theorem next_eq_highest (hkept : c.saturated n = true ∨ ¬ c.Shrinks n)
    (hagain : c.saturated (c.next n) = true) : c.next n = c.highest := by
  refine (afterRate_le_next h n).resolve_left fun hfits => ?_
  cases hrate : c.saturated n with
  | true =>
    have hneeded := h.lt_needed hagain
    rw [afterRate_of_saturated hrate] at hfits
    exact absurd hneeded (not_lt.mpr ((le_max_right _ _).trans hfits))
  | false =>
    have hnot := hkept.resolve_left (by rw [hrate]; exact Bool.false_ne_true)
    have hgrew := (le_afterLoad h hnot).trans (afterLoad_le_afterRate n)
    have hbefore := h.saturated_antitone (hgrew.trans hfits) hagain
    rw [hrate] at hbefore
    cases hbefore

theorem growsTooFar_iff (hrate : c.saturated n = true) (hagain : c.saturated (c.next n) = false) :
    c.GrowsTooFar n ↔ c.Shrinks (c.next n) ∧ c.least < c.next n := by
  have htarget : min c.needed c.highest ≤ c.next n := by
    rcases afterRate_le_next h n with hfits | htop
    · rw [afterRate_of_saturated hrate] at hfits
      exact (min_le_left _ _).trans ((le_max_right _ _).trans hfits)
    · rw [htop]
      exact min_le_right _ _
  constructor
  · intro hgrows
    exact ⟨⟨h.idle_monotone htarget hgrows.idle, hgrows.lowest_lt.trans_le htarget,
      hgrows.shrunk_lt.trans_le htarget⟩, hgrows.least_lt.trans_le htarget⟩
  · rintro ⟨hshrinks, hleast⟩
    obtain ⟨-, hhighest, hbelow, -⟩ := next_bounds h n
    rw [afterRate_of_saturated hrate] at hbelow
    have hdemand := hbelow.resolve_right hshrinks.lowest_lt.ne'
    have hraised := (le_max_iff.mp hdemand).resolve_right (not_le.mpr hleast)
    -- The load did not lead there, since it would not have made the size idle.
    have hneeded : c.next n ≤ c.needed := by
      rcases le_max_iff.mp hraised with hload | hneeded
      · by_contra hmore
        have hgrew := (h.lt_needed hrate).trans ((not_le.mp hmore).trans_le hload)
        have hnot : ¬ c.Shrinks n := by
          intro hlowered
          rw [afterLoad_of_shrinks h hlowered] at hgrew
          exact absurd hlowered.shrunk_lt (not_lt.mpr hgrew.le)
        exact not_shrinks_of_le_afterLoad h hnot hload hshrinks
      · exact hneeded
    have hsame : min c.needed c.highest = c.next n :=
      le_antisymm htarget (le_min hneeded hhighest)
    refine ⟨hrate, ?_, ?_, ?_, ?_, ?_⟩ <;> rw [hsame]
    · exact hshrinks.idle
    · exact hshrinks.lowest_lt
    · exact hshrinks.shrunk_lt
    · exact hleast
    · exact hagain

theorem next_next_of_saturated (hrate : c.saturated n = true) :
    c.next (c.next n) = c.next n ↔ ¬ c.GrowsTooFar n := by
  obtain ⟨hlowest, hhighest, -⟩ := next_bounds h n
  cases hagain : c.saturated (c.next n) with
  | true =>
    have htop := next_eq_highest h (.inl hrate) hagain
    refine iff_of_true ((next_eq_self_of_saturated h hlowest hhighest hagain).mpr htop) ?_
    intro hgrows
    have hless := h.lt_needed hagain
    have hnot := hgrows.notSaturated
    rw [htop] at hless hagain
    rw [min_eq_right hless.le, hagain] at hnot
    cases hnot
  | false =>
    have hgrew : n ≤ c.afterRate n := by
      rw [afterRate_of_saturated hrate]
      exact (h.lt_needed hrate).le.trans (le_max_right _ _)
    rw [next_eq_self_iff h hlowest hhighest hagain (least_le_next h n) (grown_le_next h hgrew),
      growsTooFar_iff h hrate hagain, not_and, not_lt]

theorem next_next_of_shrinks (hrate : c.saturated n = false) (hshrinks : c.Shrinks n) :
    c.next (c.next n) = c.next n ↔ ¬ c.ShrinksTooFar n := by
  obtain ⟨hlowest, hhighest, hbelow, -⟩ := next_bounds h n
  have hafter : c.afterRate n = c.shrunk := by
    rw [afterRate_of_not_saturated hrate, afterLoad_of_shrinks h hshrinks]
  have hnext : c.next n = min (max (max c.shrunk c.least) c.lowest) c.highest := by
    rw [next, hafter, clamp]
  rw [hafter] at hbelow
  cases hagain : c.saturated (c.next n) with
  | true =>
    rw [next_eq_self_of_saturated h hlowest hhighest hagain]
    constructor
    · intro htop hfar
      rw [hnext, min_eq_left hfar.lt_highest.le] at htop
      exact hfar.lt_highest.ne htop
    · intro hnever
      by_contra hroom
      have hless : max (max c.shrunk c.least) c.lowest < c.highest := by
        by_contra hfull
        rw [hnext, min_eq_right (not_lt.mp hfull)] at hroom
        exact hroom rfl
      rw [min_eq_left hless.le] at hnext
      exact hnever ⟨hrate, hshrinks.idle, hshrinks.lowest_lt, hshrinks.shrunk_lt, hless,
        hnext ▸ hagain⟩
  | false =>
    have hgrown : c.overloaded (c.next n) = true → c.grown ≤ c.next n ∨ c.next n = c.highest := by
      intro _
      refine (afterRate_le_next h n).imp_left fun hfits => ?_
      exact h.grown_le_shrunk.trans (hafter ▸ hfits)
    rw [next_eq_self_iff h hlowest hhighest hagain (least_le_next h n) hgrown]
    refine iff_of_true ?_ ?_
    · intro hagain'
      have hdemand := hbelow.resolve_right hagain'.lowest_lt.ne'
      exact (le_max_iff.mp hdemand).resolve_left (not_le.mpr hagain'.shrunk_lt)
    · intro hfar
      have hsaturated := hfar.saturated
      rw [min_eq_left hfar.lt_highest.le] at hnext
      rw [← hnext, hagain] at hsaturated
      cases hsaturated

theorem next_next_of_kept (hrate : c.saturated n = false) (hnot : ¬ c.Shrinks n) :
    c.next (c.next n) = c.next n := by
  obtain ⟨hlowest, hhighest, hbelow, -⟩ := next_bounds h n
  cases hagain : c.saturated (c.next n) with
  | true =>
    have htop := next_eq_highest h (.inr hnot) hagain
    exact (next_eq_self_of_saturated h hlowest hhighest hagain).mpr htop
  | false =>
    have hgrew := (le_afterLoad h hnot).trans (afterLoad_le_afterRate n)
    apply (next_eq_self_iff h hlowest hhighest hagain (least_le_next h n)
      (grown_le_next h hgrew)).mpr
    intro hshrinks
    rw [afterRate_of_not_saturated hrate] at hbelow
    rcases le_max_iff.mp (hbelow.resolve_right hshrinks.lowest_lt.ne') with hload | hleast
    · exact absurd hshrinks (not_shrinks_of_le_afterLoad h hnot hload)
    · exact hleast

/-- The next size is final exactly when it neither shrinks nor grows too far. -/
theorem next_next_eq_iff (n : α) :
    c.next (c.next n) = c.next n ↔ ¬ c.ShrinksTooFar n ∧ ¬ c.GrowsTooFar n := by
  cases hrate : c.saturated n with
  | true =>
    have hfar : ¬ c.ShrinksTooFar n := by
      intro hfar
      have hnot := hfar.notSaturated
      rw [hrate] at hnot
      cases hnot
    rw [next_next_of_saturated h hrate]
    exact (and_iff_right hfar).symm
  | false =>
    have hfar : ¬ c.GrowsTooFar n := by
      intro hfar
      have hsaturated := hfar.saturated
      rw [hrate] at hsaturated
      cases hsaturated
    rw [and_iff_left hfar]
    by_cases hshrinks : c.Shrinks n
    · exact next_next_of_shrinks h hrate hshrinks
    · refine iff_of_true (next_next_of_kept h hrate hshrinks) ?_
      intro hfar'
      exact hshrinks ⟨hfar'.idle, hfar'.lowest_lt, hfar'.shrunk_lt⟩

end Steady

section Comparison

/-- The size demanded whatever the load is. -/
def demanded (c : ThresholdControl α) (n : α) : α :=
  max (if c.saturated n = true then max c.needed c.least else c.least) c.lowest

theorem next_eq_min (n : α) : c.next n = min (max (c.afterLoad n) (c.demanded n)) c.highest := by
  unfold next clamp demanded afterRate
  split_ifs
  · rw [max_assoc, max_assoc, max_assoc]
  · rw [max_assoc]

private theorem min_max_le_iff {a b f t : α} :
    min (max a f) t ≤ min (max b f) t ↔ a ≤ b ∨ a ≤ f ∨ t ≤ max b f := by
  constructor
  · intro hle
    rcases le_or_gt t (max b f) with htop | hroom
    · exact .inr (.inr htop)
    rw [min_eq_left hroom.le] at hle
    rcases min_le_iff.mp hle with ha | ht
    · exact (le_max_iff.mp ((le_max_left _ _).trans ha)).imp_right .inl
    · exact absurd ht (not_le.mpr hroom)
  · rintro (hle | hle | htop)
    · exact le_min ((min_le_left _ _).trans (max_le_max_right f hle)) (min_le_right _ _)
    · exact le_min ((min_le_left _ _).trans (max_le (hle.trans (le_max_right _ _))
        (le_max_right _ _))) (min_le_right _ _)
    · exact (min_le_right _ _).trans (le_min htop le_rfl)

/-- Two controllers that agree on everything but the load. -/
structure SameDemand (c c' : ThresholdControl α) : Prop where
  saturated : c.saturated = c'.saturated
  needed : c.needed = c'.needed
  least : c.least = c'.least
  lowest : c.lowest = c'.lowest
  highest : c.highest = c'.highest

/-- The second controller sees more load at every size. -/
structure MoreLoad (c c' : ThresholdControl α) : Prop where
  overloaded : ∀ {n}, c.overloaded n = true → c'.overloaded n = true
  idle : ∀ {n}, c'.idle n = true → c.idle n = true
  grown_le : c.grown ≤ c'.grown
  shrunk_le : c.shrunk ≤ c'.shrunk

variable {c' : ThresholdControl α}

theorem SameDemand.demanded_eq (hsame : SameDemand c c') (n : α) :
    c.demanded n = c'.demanded n := by
  unfold demanded
  rw [hsame.saturated, hsame.needed, hsame.least, hsame.lowest]

theorem next_le_next_iff (hsame : SameDemand c c') (n : α) :
    c.next n ≤ c'.next n ↔ c.afterLoad n ≤ c'.afterLoad n ∨ c.afterLoad n ≤ c'.demanded n ∨
      c'.highest ≤ max (c'.afterLoad n) (c'.demanded n) := by
  rw [next_eq_min, next_eq_min, hsame.demanded_eq, hsame.highest, min_max_le_iff]

/-- More load never leads to a smaller size. -/
theorem MoreLoad.next_le (hmore : MoreLoad c c') (hsame : SameDemand c c') (h : c.Lawful)
    (h' : c'.Lawful) (n : α) : c.next n ≤ c'.next n := by
  rw [next_le_next_iff hsame]
  left
  rcases afterLoad_cases h' n with ⟨hover', -, hload'⟩ | ⟨hshrinks', hload'⟩ | ⟨hover', -, hload'⟩
  · rw [hload']
    rcases afterLoad_cases h n with ⟨-, -, hload⟩ | ⟨hshrinks, hload⟩ | ⟨-, -, hload⟩
    · exact hload ▸ max_le_max_left n hmore.grown_le
    · exact hload ▸ hshrinks.shrunk_lt.le.trans (le_max_left _ _)
    · exact hload.le.trans (le_max_left _ _)
  · have hshrinks : c.Shrinks n := ⟨hmore.idle hshrinks'.idle,
      hsame.lowest ▸ hshrinks'.lowest_lt, hmore.shrunk_le.trans_lt hshrinks'.shrunk_lt⟩
    rw [hload', afterLoad_of_shrinks h hshrinks]
    exact hmore.shrunk_le
  · rw [hload']
    rcases afterLoad_cases h n with ⟨hover, -, -⟩ | ⟨hshrinks, hload⟩ | ⟨-, -, hload⟩
    · rw [hmore.overloaded hover] at hover'
      cases hover'
    · exact hload ▸ hshrinks.shrunk_lt.le
    · exact hload.le

theorem next_le_next_iff_of_unloaded (hsame : SameDemand c c') (h' : c'.Lawful) {n : α}
    (hover : c.overloaded n = false) (hidle : c.idle n = false) :
    c.next n ≤ c'.next n ↔ ¬ (c'.Shrinks n ∧ c'.demanded n < n ∧
      max c'.shrunk (c'.demanded n) < c'.highest) := by
  have hload : c.afterLoad n = n := by
    rw [afterLoad, hover, hidle, if_neg Bool.false_ne_true,
      if_neg (fun hboth => Bool.false_ne_true hboth.1)]
  rw [next_le_next_iff hsame, hload]
  rcases afterLoad_cases h' n with ⟨-, hnot, hload'⟩ | ⟨hshrinks, hload'⟩ | ⟨-, hnot, hload'⟩
  · exact iff_of_true (.inl (hload' ▸ le_max_left _ _)) (fun hall => hnot hall.1)
  · rw [hload']
    constructor
    · rintro (hle | hle | hle) ⟨-, hdemand, hroom⟩
      · exact absurd hle (not_le.mpr hshrinks.shrunk_lt)
      · exact absurd hle (not_le.mpr hdemand)
      · exact absurd hle (not_le.mpr hroom)
    · intro hnever
      by_contra hall
      simp only [not_or, not_le] at hall
      exact hnever ⟨hshrinks, hall.2.1, hall.2.2⟩
  · exact iff_of_true (.inl hload'.ge) (fun hall => hnot hall.1)

end Comparison

end ThresholdControl

end StreamlineOperator.Foundation
