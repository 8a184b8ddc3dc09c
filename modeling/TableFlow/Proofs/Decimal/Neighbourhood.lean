import Mathlib.Algebra.Order.Field.Power
import Mathlib.Data.Rat.Cast.Order
import Mathlib.Tactic.FieldSimp
import Mathlib.Tactic.Linarith
import Mathlib.Tactic.NormNum
import Mathlib.Tactic.Positivity
import Mathlib.Tactic.Ring
import TableFlow.Decimal.Shortest

namespace TableFlow.Decimal

-- A power as a ratio of natural numbers.
theorem zpow_eq_div {b : ℚ} (hb : b ≠ 0) (e : Int) : b ^ e = b ^ e.toNat / b ^ (-e).toNat := by
  conv_lhs => rw [← Int.toNat_sub_toNat_neg e, zpow_sub₀ hb, zpow_natCast, zpow_natCast]

-- The number lies between the ends, and is none of them if these are left out.
structure Neighbourhood.Holds (i : Neighbourhood) (x : ℚ) : Prop where
  low : (i.low : ℚ) ≤ x * i.den
  high : x * i.den ≤ i.high
  inner : i.closed = false → (i.low : ℚ) < x * i.den ∧ x * i.den < i.high

variable {m m' : Nat} {e e' : Int} {x x' : ℚ}

theorem den_pos (m : Nat) (e : Int) : (0 : ℚ) < (neighbourhood double m e).den := by
  have hpos : 0 < 4 * 2 ^ (-e).toNat := by positivity
  exact_mod_cast hpos

theorem mul_den (m : Nat) (e : Int) :
    (2 : ℚ) ^ e * (neighbourhood double m e).den = 4 * 2 ^ e.toNat := by
  have hden : ((neighbourhood double m e).den : ℚ) = 4 * 2 ^ (-e).toNat := by
    rw [neighbourhood]
    push_cast
    rfl
  rw [hden, zpow_eq_div (by norm_num)]
  field_simp

theorem closed_eq_false (hodd : m % 2 = 1) : (neighbourhood double m e).closed = false := by
  simp [neighbourhood, hodd]

-- The ends of a neighbourhood. Below a power of two the steps are smaller.
theorem cast_low (hm : m ≠ 0) (e : Int) : ((neighbourhood double m e).low : ℚ) =
    (m - if m = 2 ^ 52 ∧ -1074 < e then (1 / 4 : ℚ) else 1 / 2) * 2 ^ e *
      (neighbourhood double m e).den := by
  have hlow : (neighbourhood double m e).low =
      (4 * m - if m = 2 ^ 52 ∧ -1074 < e then 1 else 2) * 2 ^ e.toNat := rfl
  rw [mul_assoc, mul_den, hlow, Nat.cast_mul, Nat.cast_sub (by split <;> omega)]
  split <;> push_cast <;> ring

theorem cast_high (m : Nat) (e : Int) : ((neighbourhood double m e).high : ℚ) =
    (m + 1 / 2) * 2 ^ e * (neighbourhood double m e).den := by
  rw [mul_assoc, mul_den, neighbourhood]
  push_cast
  ring

-- A number that rounds to a decimal is at most half a step above it, and less if the mantissa is
-- odd.
theorem Neighbourhood.Holds.le (h : (neighbourhood double m e).Holds x) :
    x ≤ (m + 1 / 2) * 2 ^ e ∧ (m % 2 = 1 → x < (m + 1 / 2) * 2 ^ e) := by
  have hden := den_pos m e
  constructor
  · have hle := h.high
    rw [cast_high] at hle
    exact le_of_mul_le_mul_right hle hden
  · intro hodd
    have hlt := (h.inner (closed_eq_false hodd)).2
    rw [cast_high] at hlt
    exact lt_of_mul_lt_mul_right hlt hden.le

theorem Neighbourhood.Holds.nonneg (h : (neighbourhood double m e).Holds x) : 0 ≤ x :=
  nonneg_of_mul_nonneg_left ((Nat.cast_nonneg _).trans h.low) (den_pos m e)

-- It is at most half a step below it, and a quarter where the steps below are smaller.
theorem Neighbourhood.Holds.ge (h : (neighbourhood double m e).Holds x) :
    let below : ℚ := if m = 2 ^ 52 ∧ -1074 < e then 1 / 4 else 1 / 2
    (m - below) * 2 ^ e ≤ x ∧ (m % 2 = 1 → (m - below) * 2 ^ e < x) := by
  intro below
  have hden := den_pos m e
  by_cases hm : m = 0
  · refine ⟨le_trans ?_ h.nonneg, by omega⟩
    have hbelow : 0 ≤ below := by
      simp only [below]
      split <;> norm_num
    rw [hm, Nat.cast_zero, zero_sub, neg_mul, neg_nonpos]
    positivity
  · have hlow := cast_low hm e
    refine ⟨le_of_mul_le_mul_right (hlow.symm.le.trans h.low) hden, fun hodd => ?_⟩
    exact lt_of_mul_lt_mul_right (hlow.symm.trans_lt (h.inner (closed_eq_false hodd)).1) hden.le

-- What lies between these bounds rounds to the decimal.
theorem holds_of_le (hx : 0 ≤ x)
    (hge : (m - if m = 2 ^ 52 ∧ -1074 < e then (1 / 4 : ℚ) else 1 / 2) * 2 ^ e ≤ x)
    (hle : x ≤ (m + 1 / 2) * 2 ^ e)
    (hodd : m % 2 = 1 → (m - 1 / 2) * 2 ^ e < x ∧ x < (m + 1 / 2) * 2 ^ e) :
    (neighbourhood double m e).Holds x := by
  have hden := den_pos m e
  refine ⟨?_, ?_, fun hopen => ?_⟩
  · by_cases hm : m = 0
    · have hlow : (neighbourhood double m e).low = 0 := by simp [neighbourhood, hm]
      rw [hlow, Nat.cast_zero]
      exact mul_nonneg hx hden.le
    · rw [cast_low hm]
      exact mul_le_mul_of_nonneg_right hge hden.le
  · rw [cast_high]
    exact mul_le_mul_of_nonneg_right hle hden.le
  · have hm : m % 2 = 1 := by simpa [neighbourhood] using hopen
    obtain ⟨hlow, hhigh⟩ := hodd hm
    rw [cast_low (by omega), cast_high, if_neg (by omega)]
    exact ⟨mul_lt_mul_of_pos_right hlow hden, mul_lt_mul_of_pos_right hhigh hden⟩

-- A decimal rounds to itself.
theorem holds_self (m : Nat) (e : Int) : (neighbourhood double m e).Holds (m * 2 ^ e) := by
  have hu : (0 : ℚ) < 2 ^ e := by positivity
  refine holds_of_le (by positivity) ?_ ?_ fun _ => ⟨?_, ?_⟩
  · refine mul_le_mul_of_nonneg_right ?_ hu.le
    split <;> linarith
  · exact mul_le_mul_of_nonneg_right (by linarith) hu.le
  · exact mul_lt_mul_of_pos_right (by linarith) hu
  · exact mul_lt_mul_of_pos_right (by linarith) hu

-- Decimals of one exponent: an end that two neighbourhoods share is left out of one of them.
theorem lt_of_holds_of_mantissa (hlt : m < m') (h : (neighbourhood double m e).Holds x)
    (h' : (neighbourhood double m' e).Holds x') : x < x' := by
  have hu : (0 : ℚ) < 2 ^ e := by positivity
  obtain ⟨hle, hltOdd⟩ := h.le
  obtain ⟨hge, hgtOdd⟩ := h'.ge
  have hsucc : (m : ℚ) + 1 ≤ m' := by exact_mod_cast hlt
  generalize hbelow : (if m' = 2 ^ 52 ∧ -1074 < e then 1 / 4 else 1 / 2 : ℚ) = below at hge hgtOdd
  have hhalf : below ≤ 1 / 2 := by
    rw [← hbelow]
    split <;> norm_num
  have hstep : ((m : ℚ) + 1 / 2) * 2 ^ e ≤ (m' - below) * 2 ^ e :=
    mul_le_mul_of_nonneg_right (by linarith) hu.le
  by_cases hodd : m % 2 = 1
  · exact (hltOdd hodd).trans_le (hstep.trans hge)
  · by_cases hodd' : m' % 2 = 1
    · exact (hle.trans hstep).trans_lt (hgtOdd hodd')
    · have hsucc' : (m : ℚ) + 2 ≤ m' := by exact_mod_cast (by omega : m + 2 ≤ m')
      have hstrict : ((m : ℚ) + 1 / 2) * 2 ^ e < (m' - below) * 2 ^ e :=
        mul_lt_mul_of_pos_right (by linarith) hu
      exact hle.trans_lt (hstrict.trans_le hge)

-- The canonical form without a bound on the exponent from above.
def Normalized (m : Nat) (e : Int) : Prop :=
  m < 2 ^ 53 ∧ -1074 ≤ e ∧ (2 ^ 52 ≤ m ∨ e = -1074)

theorem Canonical.normalized (h : Canonical m e) : Normalized m e := ⟨h.1, h.2.1, h.2.2.2⟩

-- What is rounded to an exponent is below the middle between the greatest number of the exponent and
-- the least of the next one.
theorem lt_of_normalized (hc : Normalized m e) (h : (neighbourhood double m e).Holds x) :
    x < (2 ^ 53 - 1 / 2) * 2 ^ e := by
  have hwidth := hc.1
  have hu : (0 : ℚ) < 2 ^ e := by positivity
  obtain ⟨hle, hltOdd⟩ := h.le
  by_cases hlast : m = 2 ^ 53 - 1
  · have hodd := hltOdd (by omega)
    rw [hlast] at hodd
    norm_num at hodd ⊢
    exact hodd
  · have hm : (m : ℚ) + 2 ≤ 2 ^ 53 := by exact_mod_cast (by omega : m + 2 ≤ 2 ^ 53)
    exact hle.trans_lt (mul_lt_mul_of_pos_right (by linarith) hu)

-- And it is not below the middle between the exponent before and the least number of the exponent.
theorem le_of_normalized (hc : Normalized m e) (he : -1074 < e)
    (h : (neighbourhood double m e).Holds x) : (2 ^ 52 - 1 / 4) * 2 ^ e ≤ x := by
  have hm : 2 ^ 52 ≤ m := hc.2.2.resolve_right (by omega)
  refine le_trans (mul_le_mul_of_nonneg_right ?_ (by positivity)) h.ge.1
  by_cases hfirst : m = 2 ^ 52
  · rw [if_pos ⟨hfirst, he⟩, hfirst]
    norm_num
  · have hm' : (2 : ℚ) ^ 52 + 1 ≤ m := by exact_mod_cast (by omega : 2 ^ 52 + 1 ≤ m)
    rw [if_neg fun hnarrow => hfirst hnarrow.1]
    linarith

-- Decimals of different exponents, of which the greater one has a mantissa of full width.
theorem lt_of_holds_of_exponent (hc : Normalized m e) (hc' : Normalized m' e') (hlt : e < e')
    (h : (neighbourhood double m e).Holds x) (h' : (neighbourhood double m' e').Holds x') :
    x < x' := by
  have hleast := hc.2.1
  have hpow : 2 * (2 : ℚ) ^ e ≤ 2 ^ e' := by
    rw [mul_comm, ← zpow_add_one₀ (by norm_num)]
    exact zpow_le_zpow_right₀ (by norm_num) hlt
  calc x < (2 ^ 53 - 1 / 2) * 2 ^ e := lt_of_normalized hc h
    _ = (2 ^ 52 - 1 / 4) * (2 * 2 ^ e) := by ring
    _ ≤ (2 ^ 52 - 1 / 4) * 2 ^ e' := mul_le_mul_of_nonneg_left hpow (by norm_num)
    _ ≤ x' := le_of_normalized hc' (by omega) h'

-- The neighbourhoods of the smaller decimals are below those of the greater ones.
theorem lt_of_holds (hc : Normalized m e) (hc' : Normalized m' e')
    (hlt : e < e' ∨ (e = e' ∧ m < m')) (h : (neighbourhood double m e).Holds x)
    (h' : (neighbourhood double m' e').Holds x') : x < x' := by
  rcases hlt with hlt | ⟨rfl, hlt⟩
  · exact lt_of_holds_of_exponent hc hc' hlt h h'
  · exact lt_of_holds_of_mantissa hlt h h'

theorem Normalized.eq_of_holds (hc : Normalized m e) (hc' : Normalized m' e')
    (h : (neighbourhood double m e).Holds x) (h' : (neighbourhood double m' e').Holds x) :
    m = m' ∧ e = e' := by
  have hnot : ¬ (e < e' ∨ (e = e' ∧ m < m')) :=
    fun hlt => lt_irrefl x (lt_of_holds hc hc' hlt h h')
  have hnot' : ¬ (e' < e ∨ (e' = e ∧ m' < m)) :=
    fun hlt => lt_irrefl x (lt_of_holds hc' hc hlt h' h)
  omega

-- A number rounds to one decimal only.
theorem eq_of_holds (hc : Canonical m e) (hc' : Canonical m' e')
    (h : (neighbourhood double m e).Holds x) (h' : (neighbourhood double m' e').Holds x) :
    m = m' ∧ e = e' :=
  hc.normalized.eq_of_holds hc'.normalized h h'

-- Rounding passes no decimal.
theorem mul_le_of_holds (hc : Normalized m e) (hc' : Normalized m' e')
    (h : (neighbourhood double m e).Holds x) (hle : x ≤ m' * 2 ^ e') :
    (m * 2 ^ e : ℚ) ≤ m' * 2 ^ e' ∧ e ≤ e' := by
  have hnot : ¬ (e' < e ∨ (e' = e ∧ m' < m)) :=
    fun hlt => (lt_of_holds hc' hc hlt (holds_self m' e') h).not_ge hle
  by_cases hlt : e < e' ∨ (e = e' ∧ m < m')
  · exact ⟨(lt_of_holds hc hc' hlt (holds_self m e) (holds_self m' e')).le, by omega⟩
  · obtain ⟨rfl, rfl⟩ : m = m' ∧ e = e' := by omega
    exact ⟨le_rfl, le_rfl⟩

theorem le_mul_of_holds (hc : Normalized m e) (hc' : Normalized m' e')
    (h : (neighbourhood double m e).Holds x) (hle : m' * 2 ^ e' ≤ x) :
    (m' * 2 ^ e' : ℚ) ≤ m * 2 ^ e := by
  have hnot : ¬ (e < e' ∨ (e = e' ∧ m < m')) :=
    fun hlt => (lt_of_holds hc hc' hlt h (holds_self m' e')).not_ge hle
  by_cases hlt : e' < e ∨ (e' = e ∧ m' < m)
  · exact (lt_of_holds hc' hc hlt (holds_self m' e') (holds_self m e)).le
  · obtain ⟨rfl, rfl⟩ : m = m' ∧ e = e' := by omega
    exact le_rfl

end TableFlow.Decimal
