/- source: general support, no source file
   digest: Rational arithmetic rounded to a number format: binary64, and no rounding at all. -/

import Mathlib.Algebra.Order.Field.Power
import Mathlib.Data.Int.Log
import Mathlib.Data.Rat.Floor
import Mathlib.Tactic.Linarith
import Mathlib.Tactic.Positivity

set_option autoImplicit false
set_option relaxedAutoImplicit false

namespace StreamlineOperator.Foundation

/-- The nearest integer, the even one of two. -/
def roundHalfEven (q : ℚ) : ℤ :=
  if q - ⌊q⌋ < 1 / 2 then ⌊q⌋
  else if 1 / 2 < q - ⌊q⌋ then ⌊q⌋ + 1
  else if ⌊q⌋ % 2 = 0 then ⌊q⌋
  else ⌊q⌋ + 1

section RoundHalfEven

theorem roundHalfEven_intCast (n : ℤ) : roundHalfEven n = n := by
  unfold roundHalfEven
  rw [Int.floor_intCast, sub_self, if_pos (by norm_num)]

theorem floor_le_roundHalfEven (q : ℚ) : ⌊q⌋ ≤ roundHalfEven q := by
  unfold roundHalfEven
  split_ifs <;> omega

theorem roundHalfEven_le_floor_add_one (q : ℚ) : roundHalfEven q ≤ ⌊q⌋ + 1 := by
  unfold roundHalfEven
  split_ifs <;> omega

theorem roundHalfEven_mono {a b : ℚ} (h : a ≤ b) : roundHalfEven a ≤ roundHalfEven b := by
  rcases (Int.floor_le_floor h).lt_or_eq with hless | hsame
  · have ha := roundHalfEven_le_floor_add_one a
    have hb := floor_le_roundHalfEven b
    omega
  · have hrest : a - ⌊b⌋ ≤ b - ⌊b⌋ := sub_le_sub_right h _
    unfold roundHalfEven
    rw [hsame]
    split_ifs <;> first | omega | (exfalso; linarith)

theorem roundHalfEven_nonneg {q : ℚ} (h : 0 ≤ q) : 0 ≤ roundHalfEven q :=
  (Int.floor_nonneg.mpr h).trans (floor_le_roundHalfEven q)

theorem roundHalfEven_le_double {q : ℚ} (h : 0 ≤ q) : (roundHalfEven q : ℚ) ≤ 2 * q := by
  have hfloor : (0 : ℚ) ≤ ⌊q⌋ := by exact_mod_cast Int.floor_nonneg.mpr h
  have hbelow := Int.floor_le q
  by_cases hrest : q - ⌊q⌋ < 1 / 2
  · rw [roundHalfEven, if_pos hrest]
    linarith
  · have habove : (roundHalfEven q : ℚ) ≤ ⌊q⌋ + 1 := by
      exact_mod_cast roundHalfEven_le_floor_add_one q
    linarith

end RoundHalfEven

/-- How results are rounded, and which rounded results are finite. The laws are
those of a format at least as wide as binary64. -/
structure NumberFormat where
  round : ℚ → ℚ
  bounded : ℚ → Bool
  round_round : ∀ q, round (round q) = round q
  round_mono : ∀ {a b : ℚ}, 0 ≤ a → a ≤ b → round a ≤ round b
  round_le_double : ∀ {a : ℚ}, 0 ≤ a → round a ≤ 2 * a
  round_natCast : ∀ {n : ℕ}, n < 2 ^ 53 → round n = n
  bounded_mono : ∀ {a b : ℚ}, 0 ≤ a → a ≤ b → bounded b = true → bounded a = true
  bounded_natCast : ∀ {n : ℕ}, n < 2 ^ 100 → bounded n = true

namespace NumberFormat

/-- No rounding: every rational is a number of the format. -/
def exact : NumberFormat where
  round q := q
  bounded _ := true
  round_round _ := rfl
  round_mono _ h := h
  round_le_double h := by linarith
  round_natCast _ := rfl
  bounded_mono _ _ _ := rfl
  bounded_natCast _ := rfl

section Binary

variable (precision : ℕ) (minExponent : ℤ)

/-- The exponent of the last place kept of a positive number. -/
def lastPlace (q : ℚ) : ℤ := max (Int.log 2 q + 1 - precision) minExponent

def roundMagnitude (q : ℚ) : ℚ :=
  roundHalfEven (q / 2 ^ lastPlace precision minExponent q) *
    2 ^ lastPlace precision minExponent q

/-- Rounding to the nearest multiple of the last place, by magnitude and sign. -/
def roundBinary (q : ℚ) : ℚ :=
  if q < 0 then -roundMagnitude precision minExponent (-q)
  else roundMagnitude precision minExponent q

variable {precision minExponent}

theorem lastPlace_mono {a b : ℚ} (ha : 0 < a) (h : a ≤ b) :
    lastPlace precision minExponent a ≤ lastPlace precision minExponent b := by
  have hlog := @Int.log_mono_right ℚ _ _ _ _ 2 a b ha h
  unfold lastPlace
  omega

theorem roundMagnitude_nonneg {q : ℚ} (h : 0 ≤ q) : 0 ≤ roundMagnitude precision minExponent q := by
  have hscale : (0 : ℚ) < 2 ^ lastPlace precision minExponent q := by positivity
  have hrounded := roundHalfEven_nonneg (div_nonneg h hscale.le)
  exact mul_nonneg (by exact_mod_cast hrounded) hscale.le

theorem roundMagnitude_of_multiple {q : ℚ} {n e : ℤ} (hq : q = n * 2 ^ e)
    (he : lastPlace precision minExponent q ≤ e) :
    roundMagnitude precision minExponent q = q := by
  obtain ⟨d, hd⟩ := Int.le.dest he
  have hscale : (2 : ℚ) ^ lastPlace precision minExponent q ≠ 0 := by positivity
  have hmultiple : q / 2 ^ lastPlace precision minExponent q = ((n * 2 ^ d : ℤ) : ℚ) := by
    rw [div_eq_iff hscale]
    push_cast
    rw [mul_assoc, ← zpow_natCast (2 : ℚ) d, ← zpow_add₀ two_ne_zero, add_comm (d : ℤ), hd, hq]
  rw [roundMagnitude, hmultiple, roundHalfEven_intCast, ← hmultiple, div_mul_cancel₀ _ hscale]

private theorem zpow_div_zpow {t e : ℤ} (h : e ≤ t) :
    (2 : ℚ) ^ t / 2 ^ e = ((2 ^ (t - e).toNat : ℤ) : ℚ) := by
  have hnat : ((t - e).toNat : ℤ) = t - e := Int.toNat_of_nonneg (by omega)
  rw [← zpow_sub₀ two_ne_zero, ← hnat, zpow_natCast]
  push_cast
  rfl

theorem roundMagnitude_le_zpow {q : ℚ} {t : ℤ} (h : q ≤ 2 ^ t)
    (ht : lastPlace precision minExponent q ≤ t) :
    roundMagnitude precision minExponent q ≤ 2 ^ t := by
  have hscale : (0 : ℚ) < 2 ^ lastPlace precision minExponent q := by positivity
  have hle := roundHalfEven_mono (div_le_div_of_nonneg_right h hscale.le)
  rw [zpow_div_zpow ht, roundHalfEven_intCast] at hle
  have hcast : (roundHalfEven (q / 2 ^ lastPlace precision minExponent q) : ℚ) ≤
      2 ^ t / 2 ^ lastPlace precision minExponent q := by
    rw [zpow_div_zpow ht]
    exact_mod_cast hle
  rw [roundMagnitude]
  exact (le_div_iff₀ hscale).mp hcast

theorem zpow_le_roundMagnitude {q : ℚ} {t : ℤ} (h : 2 ^ t ≤ q)
    (ht : lastPlace precision minExponent q ≤ t) :
    2 ^ t ≤ roundMagnitude precision minExponent q := by
  have hscale : (0 : ℚ) < 2 ^ lastPlace precision minExponent q := by positivity
  have hle := roundHalfEven_mono (div_le_div_of_nonneg_right h hscale.le)
  rw [zpow_div_zpow ht, roundHalfEven_intCast] at hle
  have hcast : (2 : ℚ) ^ t / 2 ^ lastPlace precision minExponent q ≤
      roundHalfEven (q / 2 ^ lastPlace precision minExponent q) := by
    rw [zpow_div_zpow ht]
    exact_mod_cast hle
  rw [roundMagnitude]
  exact (div_le_iff₀ hscale).mp hcast

theorem roundMagnitude_zero : roundMagnitude precision minExponent 0 = 0 := by
  have hzero : roundHalfEven 0 = 0 := by exact_mod_cast roundHalfEven_intCast 0
  rw [roundMagnitude, zero_div, hzero, Int.cast_zero, zero_mul]

theorem roundMagnitude_mono (hprecision : 1 ≤ precision) {a b : ℚ} (ha : 0 ≤ a) (h : a ≤ b) :
    roundMagnitude precision minExponent a ≤ roundMagnitude precision minExponent b := by
  rcases ha.eq_or_lt with rfl | hpos
  · rw [roundMagnitude_zero]
    exact roundMagnitude_nonneg h
  have hplaces := @lastPlace_mono precision minExponent a b hpos h
  rcases hplaces.eq_or_lt with hsame | hless
  · have hscale : (0 : ℚ) < 2 ^ lastPlace precision minExponent b := by positivity
    have hle := roundHalfEven_mono (div_le_div_of_nonneg_right h hscale.le)
    rw [roundMagnitude, roundMagnitude, hsame]
    exact mul_le_mul_of_nonneg_right (by exact_mod_cast hle) hscale.le
  · have hb := hpos.trans_le h
    have hlog : Int.log 2 a + 1 ≤ Int.log 2 b := by
      have hmono := @Int.log_mono_right ℚ _ _ _ _ 2 a b hpos h
      unfold lastPlace at hless
      omega
    have hbelow : a ≤ 2 ^ Int.log 2 b := by
      have hnext := Int.lt_zpow_succ_log_self one_lt_two a
      exact hnext.le.trans (zpow_le_zpow_right₀ one_le_two hlog)
    have hplace : lastPlace precision minExponent b ≤ Int.log 2 b := by
      unfold lastPlace at hless ⊢
      omega
    calc roundMagnitude precision minExponent a ≤ 2 ^ Int.log 2 b :=
          roundMagnitude_le_zpow hbelow (hless.le.trans hplace)
      _ ≤ roundMagnitude precision minExponent b :=
          zpow_le_roundMagnitude (Int.zpow_log_le_self one_lt_two hb) hplace

theorem roundMagnitude_le_double {q : ℚ} (h : 0 ≤ q) :
    roundMagnitude precision minExponent q ≤ 2 * q := by
  have hscale : (0 : ℚ) < 2 ^ lastPlace precision minExponent q := by positivity
  have hle := roundHalfEven_le_double (div_nonneg h hscale.le)
  rw [← mul_div_assoc, le_div_iff₀ hscale] at hle
  exact hle

theorem roundMagnitude_roundMagnitude (hprecision : 1 ≤ precision) {q : ℚ} (h : 0 ≤ q) :
    roundMagnitude precision minExponent (roundMagnitude precision minExponent q) =
      roundMagnitude precision minExponent q := by
  rcases h.eq_or_lt with rfl | hq
  · rw [roundMagnitude_zero, roundMagnitude_zero]
  have hnonneg := @roundMagnitude_nonneg precision minExponent q h
  rcases hnonneg.eq_or_lt with hzero | hpos
  · rw [← hzero, roundMagnitude_zero]
  -- The least power of two that is above `q` and can be written at its place.
  obtain ⟨t, htop⟩ : ∃ t, t = max (Int.log 2 q + 1) minExponent := ⟨_, rfl⟩
  have hplace : lastPlace precision minExponent q ≤ t := by
    unfold lastPlace
    omega
  have hbelow : q ≤ 2 ^ t := by
    have hnext := Int.lt_zpow_succ_log_self one_lt_two q
    exact hnext.le.trans (zpow_le_zpow_right₀ one_le_two (by omega))
  rcases (roundMagnitude_le_zpow hbelow hplace).lt_or_eq with hless | htop'
  · have hlog : Int.log 2 (roundMagnitude precision minExponent q) < t :=
      (Int.lt_zpow_iff_log_lt one_lt_two hpos).mp hless
    have hfiner : lastPlace precision minExponent (roundMagnitude precision minExponent q) ≤
        lastPlace precision minExponent q := by
      unfold lastPlace at hplace ⊢
      generalize Int.log 2 (roundMagnitude precision minExponent q) = l at hlog ⊢
      omega
    exact roundMagnitude_of_multiple rfl hfiner
  · rw [htop']
    apply @roundMagnitude_of_multiple _ _ _ 1 t (by rw [Int.cast_one, one_mul])
    have hlog := @Int.log_zpow ℚ _ _ _ _ 2 one_lt_two t
    rw [Nat.cast_ofNat] at hlog
    unfold lastPlace at hplace ⊢
    omega

theorem roundMagnitude_natCast (hmin : minExponent ≤ 0) {n : ℕ} (h : n < 2 ^ precision) :
    roundMagnitude precision minExponent n = n := by
  rcases Nat.eq_zero_or_pos n with rfl | hpos
  · exact_mod_cast roundMagnitude_zero
  apply @roundMagnitude_of_multiple _ _ _ n 0 (by simp)
  have hlog : Int.log 2 (n : ℚ) < precision := by
    apply (Int.lt_zpow_iff_log_lt one_lt_two (by exact_mod_cast hpos)).mp
    exact_mod_cast h
  unfold lastPlace
  omega

end Binary

/-- A binary format with the given precision and range of exponents. -/
def binary (precision : ℕ) (minExponent : ℤ) (maxExponent : ℕ) (hprecision : 53 ≤ precision)
    (hmin : minExponent ≤ 0) (hmax : 100 ≤ maxExponent) : NumberFormat where
  round := roundBinary precision minExponent
  bounded q := |q| < 2 ^ maxExponent
  round_round q := by
    have hagain : ∀ {a : ℚ}, 0 ≤ a → roundMagnitude precision minExponent
        (roundMagnitude precision minExponent a) = roundMagnitude precision minExponent a :=
      fun ha => roundMagnitude_roundMagnitude (by omega) ha
    unfold roundBinary
    split
    · rename_i hq
      have hflip : 0 ≤ -q := by linarith
      rcases (@roundMagnitude_nonneg precision minExponent _ hflip).eq_or_lt with hzero | hpos
      · rw [← hzero, neg_zero, if_neg (lt_irrefl 0), roundMagnitude_zero]
      · rw [if_pos (neg_neg_of_pos hpos), neg_neg, hagain hflip]
    · rename_i hq
      have hnonneg := @roundMagnitude_nonneg precision minExponent q (not_lt.mp hq)
      rw [if_neg (not_lt.mpr hnonneg), hagain (not_lt.mp hq)]
  round_mono := by
    intro a b ha h
    rw [roundBinary, roundBinary, if_neg (not_lt.mpr ha), if_neg (not_lt.mpr (ha.trans h))]
    exact roundMagnitude_mono (by omega) ha h
  round_le_double := by
    intro a ha
    rw [roundBinary, if_neg (not_lt.mpr ha)]
    exact roundMagnitude_le_double ha
  round_natCast := by
    intro n hn
    rw [roundBinary, if_neg (not_lt.mpr n.cast_nonneg)]
    exact roundMagnitude_natCast hmin (hn.trans_le (Nat.pow_le_pow_right two_pos hprecision))
  bounded_mono := by
    intro a b ha h hb
    simp only [decide_eq_true_eq] at hb ⊢
    rw [abs_of_nonneg (ha.trans h)] at hb
    rw [abs_of_nonneg ha]
    exact h.trans_lt hb
  bounded_natCast := by
    intro n hn
    simp only [decide_eq_true_eq]
    rw [abs_of_nonneg n.cast_nonneg]
    exact_mod_cast hn.trans_le (Nat.pow_le_pow_right two_pos hmax)

/-- IEEE 754 double precision. -/
def binary64 : NumberFormat := binary 53 (-1074) 1024 (by decide) (by decide) (by decide)

variable (format : NumberFormat)

theorem round_zero : format.round 0 = 0 := by
  exact_mod_cast @round_natCast format 0 (by norm_num)

theorem round_one : format.round 1 = 1 := by
  exact_mod_cast @round_natCast format 1 (by norm_num)

theorem round_nonneg {q : ℚ} (h : 0 ≤ q) : 0 ≤ format.round q := by
  have hle := format.round_mono le_rfl h
  rwa [format.round_zero] at hle

/-- The finite numbers of a format. -/
def Number : Type := { q : ℚ // format.round q = q ∧ format.bounded q = true }

/-- The values of a format. A zero has no sign here. -/
inductive Value where
  | finite (number : format.Number)
  | infinite (negative : Bool)
  | nan

/-- The digits of a whole number of the format: the shortest ones that round to
it, the nearest of these, filled up with zeros. -/
def shortest (n : ℕ) : ℕ → ℕ
  | 0 => n
  | places + 1 =>
    let below := n / 10 ^ (places + 1) * 10 ^ (places + 1)
    let above := below + 10 ^ (places + 1)
    if format.round below = n ∧ (format.round above ≠ n ∨ n - below ≤ above - n) then below
    else if format.round above = n then above
    else shortest n places

namespace Value

variable {format}

/-- The number a value stands for, if it is finite. -/
def rational : format.Value → Option ℚ
  | finite number => some number.1
  | _ => none

/-- The value nearest to a number. -/
def ofRat (q : ℚ) : format.Value :=
  if h : format.bounded (format.round q) = true then
    finite ⟨format.round q, format.round_round q, h⟩
  else infinite (q < 0)

def ofInt (n : ℤ) : format.Value := ofRat n

/-- Neither side of a comparison with `nan` is less. -/
def less : format.Value → format.Value → Bool
  | finite a, finite b => a.1 < b.1
  | finite _, infinite negative => !negative
  | infinite negative, finite _ => negative
  | infinite negative, infinite negative' => negative && !negative'
  | _, _ => false

def mul : format.Value → format.Value → format.Value
  | finite a, finite b => ofRat (a.1 * b.1)
  | finite a, infinite negative | infinite negative, finite a =>
    if a.1 = 0 then nan else infinite (negative != decide (a.1 < 0))
  | infinite negative, infinite negative' => infinite (negative != negative')
  | _, _ => nan

def div : format.Value → format.Value → format.Value
  | finite a, finite b =>
    if b.1 ≠ 0 then ofRat (a.1 / b.1) else if a.1 = 0 then nan else infinite (a.1 < 0)
  | finite _, infinite _ => ofRat 0
  | infinite negative, finite b => infinite (negative != decide (b.1 < 0))
  | _, _ => nan

/-- The text without decimals. -/
def wholeText : format.Value → String
  | finite number =>
    (if number.1 < 0 then "-" else "") ++ toString (roundHalfEven |number.1|)
  | infinite negative => (if negative then "-" else "") ++ "inf"
  | nan => "NaN"

/-- The text of a whole number, as it is displayed without a precision. -/
def displayText : format.Value → String
  | finite number =>
    let digits := number.1.num.natAbs
    (if number.1 < 0 then "-" else "") ++
      toString (format.shortest digits (Nat.log 10 digits + 1))
  | infinite negative => (if negative then "-" else "") ++ "inf"
  | nan => "NaN"

theorem rational_ofRat {q : ℚ} (h : format.bounded (format.round q) = true) :
    (ofRat q : format.Value).rational = some (format.round q) := by
  rw [ofRat, dif_pos h]
  rfl

theorem less_eq {x y : format.Value} {a b : ℚ} (hx : x.rational = some a)
    (hy : y.rational = some b) : x.less y = decide (a < b) := by
  cases x <;> cases y <;> cases hx <;> cases hy
  rfl

theorem mul_eq {x y : format.Value} {a b : ℚ} (hx : x.rational = some a)
    (hy : y.rational = some b) : x.mul y = ofRat (a * b) := by
  cases x <;> cases y <;> cases hx <;> cases hy
  rfl

theorem div_eq {x y : format.Value} {a b : ℚ} (hx : x.rational = some a)
    (hy : y.rational = some b) (hb : b ≠ 0) : x.div y = ofRat (a / b) := by
  cases x <;> cases y <;> cases hx <;> cases hy
  exact if_pos hb

theorem div_zero {x y : format.Value} {a : ℚ} (hx : x.rational = some a)
    (hy : y.rational = some 0) (ha : a ≠ 0) : (x.div y).rational = none := by
  cases x <;> cases hx
  rename_i number
  cases y with
  | finite number' =>
    have hzero : number'.1 = 0 := Option.some.inj hy
    rw [div, if_neg (not_not.mpr hzero), if_neg ha]
    rfl
  | infinite negative => cases hy
  | nan => cases hy

/-- A finite value is rounded and bounded. -/
theorem round_of_rational {x : format.Value} {a : ℚ} (h : x.rational = some a) :
    format.round a = a ∧ format.bounded a = true := by
  cases x <;> cases h
  rename_i number
  exact number.2

theorem rational_ofRat_of_le {x : format.Value} {a q : ℚ} (h : x.rational = some a) (hq : 0 ≤ q)
    (hle : q ≤ a) : (ofRat q : format.Value).rational = some (format.round q) := by
  obtain ⟨hround, hbounded⟩ := round_of_rational h
  have hrounded : format.round q ≤ a := hround ▸ format.round_mono hq hle
  exact rational_ofRat (format.bounded_mono (format.round_nonneg hq) hrounded hbounded)

theorem rational_ofRat_of_lt {q : ℚ} (hq : 0 ≤ q) (hlt : q < 2 ^ 98) :
    (ofRat q : format.Value).rational = some (format.round q) := by
  have hrounded : format.round q ≤ ((2 ^ 99 : ℕ) : ℚ) := by
    have hdouble := format.round_le_double hq
    push_cast
    linarith
  exact rational_ofRat (format.bounded_mono (format.round_nonneg hq) hrounded
    (format.bounded_natCast (by norm_num)))

theorem rational_ofInt {n : ℤ} (hlo : 0 ≤ n) (hhi : n < 2 ^ 63) :
    (ofInt n : format.Value).rational = some (format.round n) := by
  apply rational_ofRat_of_lt (by exact_mod_cast hlo)
  have hcast : (n : ℚ) < 2 ^ 63 := by exact_mod_cast hhi
  linarith

theorem round_intCast {n : ℤ} (hlo : 0 ≤ n) (hhi : n < 2 ^ 53) : format.round n = n := by
  obtain ⟨k, rfl⟩ := Int.eq_ofNat_of_zero_le hlo
  exact_mod_cast @round_natCast format k (by exact_mod_cast hhi)

end Value

end NumberFormat

end StreamlineOperator.Foundation
