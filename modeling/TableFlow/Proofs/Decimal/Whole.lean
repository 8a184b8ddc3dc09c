import Mathlib.Data.Rat.Floor
import TableFlow.Formula.Eval
import TableFlow.Proofs.Decimal.Nearest

namespace TableFlow

namespace Decimal

variable {p : Decimal} {n : Int}

theorem natAbs_signed (negative : Bool) (m : Nat) : (signed negative m).natAbs = m := by
  cases negative <;> simp [signed]

-- Without places behind the point a decimal is an integer; with such places it is small.
theorem value_of_nonneg {s : Bool} {m : Nat} {e : Int} {hc : Canonical m e} (he : 0 ≤ e) :
    (finite s m e hc).value = (signed s m * 2 ^ e.toNat : Int) := by
  rw [value, zpow_eq_div (by norm_num), Int.toNat_of_nonpos (by omega : -e ≤ 0)]
  push_cast
  ring

theorem abs_value_le {s : Bool} {m : Nat} {e : Int} {hc : Canonical m e} (he : e ≤ 0) :
    |(finite s m e hc).value| ≤ m := by
  have hpow : (2 : ℚ) ^ e ≤ 1 := zpow_le_one_of_nonpos₀ (by norm_num) he
  rw [value, abs_mul, abs_of_pos (by positivity : (0 : ℚ) < 2 ^ e), ← Int.cast_abs,
    ← Nat.cast_natAbs, natAbs_signed]
  exact mul_le_of_le_one_right (Nat.cast_nonneg m) hpow

theorem floor?_eq (hp : p.isFinite = true) : p.floor? = some ⌊p.value⌋ := by
  obtain ⟨s, m, e, hc, rfl⟩ := exists_finite hp
  have hvalue : (finite s m e hc).value =
      (signed s (m * 2 ^ e.toNat) : ℚ) / (2 ^ (-e).toNat : ℕ) := by
    rw [value_finite, zpow_eq_div (by norm_num)]
    cases s <;> simp [signed] <;> ring
  rw [hvalue, Rat.floor_intCast_div_natCast]
  rfl

theorem ceil?_eq (hp : p.isFinite = true) : p.ceil? = some ⌈p.value⌉ := by
  rw [ceil?, floor?_eq ((isFinite_neg p).trans hp), value_neg, Int.floor_neg, Option.map_some,
    neg_neg]

-- Only a decimal that denotes an integer is one.
theorem toInt?_eq_some_iff : p.toInt? = some n ↔ p.isFinite = true ∧ p.value = n := by
  cases hp : p.isFinite with
  | false => simp [toInt?, floor?_eq_none p hp]
  | true =>
    rw [toInt?, floor?_eq hp, ceil?_eq hp]
    dsimp only
    rw [Option.ite_none_right_eq_some]
    constructor
    · rintro ⟨heq, hn⟩
      cases hn
      have hle := Int.floor_le p.value
      have hge := Int.le_ceil p.value
      rw [← heq] at hge
      exact ⟨rfl, le_antisymm hge hle⟩
    · rintro ⟨-, hn⟩
      rw [hn, Int.floor_intCast, Int.ceil_intCast]
      exact ⟨rfl, rfl⟩

end Decimal

theorem Integer.exists_toInt {n : Int} (hlow : -2 ^ 63 ≤ n) (hhigh : n < 2 ^ 63) :
    ∃ a : Int64, a.toInt = n :=
  ⟨Int64.ofInt n, Int64.toInt_ofInt_of_le hlow hhigh⟩

-- Integers become words except for the least one.
theorem Formula.roundedInteger?_eq_some_iff {n? : Option Int} {a : Int64} :
    roundedInteger? n? = some a ↔ n? = some a.toInt ∧ a ≠ Int64.minValue := by
  have hleast : a ≠ Int64.minValue ↔ a.toInt ≠ -2 ^ 63 := not_congr (by
    rw [← Int64.toInt_inj]
    rfl)
  have hbounds := Integer.toInt_bounds a
  rw [roundedInteger?, Option.bind_eq_some_iff, hleast]
  constructor
  · rintro ⟨n, rfl, h⟩
    obtain ⟨hn, h⟩ := Option.ite_none_right_eq_some.mp h
    obtain rfl := Integer.ofInt?_eq_some_iff.mp h
    exact ⟨rfl, by omega⟩
  · rintro ⟨rfl, hne⟩
    refine ⟨_, rfl, Option.ite_none_right_eq_some.mpr ⟨by omega, Integer.ofInt?_toInt a⟩⟩

theorem Primitive.wholeNumber?_eq_some_iff {p : Decimal} {a : Int64} :
    wholeNumber? p = some a ↔
      (p.isFinite = true ∧ p.value = a.toInt) ∧ a ≠ Int64.minValue := by
  rw [← Decimal.toInt?_eq_some_iff]
  exact Formula.roundedInteger?_eq_some_iff

end TableFlow
