import TableFlow.Proofs.Decimal.Neighbourhood

namespace TableFlow.Decimal

-- The number that digits denote.
def Digits.value (d : Digits) : ℚ := d.digits * (10 : ℚ) ^ d.exponent

theorem Digits.value_strip (fuel : Nat) (d : Digits) : (d.strip fuel).value = d.value := by
  induction fuel generalizing d with
  | zero => rfl
  | succ fuel ih =>
      rw [strip]
      split
      next h =>
        have hdigits : (d.digits : ℚ) = 10 * (d.digits / 10 : ℕ) := by
          have hnat : d.digits = 10 * (d.digits / 10) := by omega
          exact_mod_cast hnat
        rw [ih, value, value, hdigits, zpow_add_one₀ (by norm_num)]
        ring
      next => rfl

namespace Neighbourhood

variable {i : Neighbourhood} {tie : Tie} {n : Nat} {exponent : Int}

theorem holds_of_contains (h : i.contains n exponent = true) :
    i.Holds (Digits.mk n exponent).value := by
  have hunit : (0 : ℚ) < (10 ^ (-exponent).toNat : ℕ) := by positivity
  have hvalue : (Digits.mk n exponent).value * i.den =
      (n * 10 ^ exponent.toNat * i.den : ℕ) / (10 ^ (-exponent).toNat : ℕ) := by
    rw [Digits.value, zpow_eq_div (by norm_num)]
    push_cast
    ring
  have hlow (a : Nat) : (a : ℚ) ≤ (Digits.mk n exponent).value * i.den ↔
      a * 10 ^ (-exponent).toNat ≤ n * 10 ^ exponent.toNat * i.den := by
    rw [hvalue, le_div_iff₀ hunit]
    exact_mod_cast Iff.rfl
  have hhigh (a : Nat) : (Digits.mk n exponent).value * i.den ≤ a ↔
      n * 10 ^ exponent.toNat * i.den ≤ a * 10 ^ (-exponent).toNat := by
    rw [hvalue, div_le_iff₀ hunit]
    exact_mod_cast Iff.rfl
  rw [contains] at h
  split at h
  next hclosed =>
    obtain ⟨hl, hh⟩ := of_decide_eq_true h
    exact ⟨(hlow _).mpr hl, (hhigh _).mpr hh, fun hopen => by simp [hopen] at hclosed⟩
  next =>
    obtain ⟨hl, hh⟩ := of_decide_eq_true h
    have hinner : (i.low : ℚ) < (Digits.mk n exponent).value * i.den ∧
        (Digits.mk n exponent).value * i.den < i.high := by
      rw [← not_le, ← not_le, hhigh, hlow]
      omega
    exact ⟨hinner.1.le, hinner.2.le, fun _ => hinner⟩

theorem contains_of_nearest? (h : i.nearest? tie exponent = some n) :
    i.contains n exponent = true := by
  rw [nearest?] at h
  split at h
  next hbelow habove =>
    cases h
    split
    · exact hbelow
    · exact habove
  next hbelow _ =>
    cases h
    exact hbelow
  next habove =>
    cases h
    exact habove
  next => cases h

-- A power of ten that fits between the lower end and the value has a multiple there.
theorem exists_nearest? (tie : Tie) (hden : 0 < i.den) (hvalue : i.value < i.high)
    (hwidth : i.low * 10 ^ (-exponent).toNat + i.den * 10 ^ exponent.toNat ≤
      i.value * 10 ^ (-exponent).toNat) :
    ∃ n, n ≠ 0 ∧ i.nearest? tie exponent = some n := by
  have hpositive : 0 < i.den * 10 ^ exponent.toNat := by positivity
  have hunit : 0 < 10 ^ (-exponent).toNat := by positivity
  generalize hbelow : i.value * 10 ^ (-exponent).toNat / (i.den * 10 ^ exponent.toNat) = below
  have hne : below ≠ 0 := by
    have := Nat.div_pos (le_of_add_le_right hwidth) hpositive
    omega
  have hcontains : i.contains below exponent = true := by
    have hle := Nat.div_mul_le_self (i.value * 10 ^ (-exponent).toNat)
      (i.den * 10 ^ exponent.toNat)
    have hlt := Nat.lt_div_mul_add (a := i.value * 10 ^ (-exponent).toNat) hpositive
    have hhigh := Nat.mul_lt_mul_of_pos_right hvalue hunit
    have hmul : below * 10 ^ exponent.toNat * i.den = below * (i.den * 10 ^ exponent.toNat) := by
      ring
    rw [hbelow] at hle hlt
    rw [contains, hmul]
    split <;> exact decide_eq_true (by omega)
  rw [nearest?, hbelow, hcontains]
  cases i.contains (below + 1) exponent with
  | false => exact ⟨below, hne, rfl⟩
  | true =>
      refine ⟨_, ?_, rfl⟩
      split <;> omega

end Neighbourhood

-- Three digits are less than ten bits, and 28 digits are more than 93 bits.
theorem ten_pow_le {n k : Nat} (h : 10 * n ≤ 3 * k) : 10 ^ n ≤ 2 ^ k := by
  refine (Nat.pow_le_pow_iff_left (n := 3) (by decide)).mp ?_
  calc (10 ^ n) ^ 3 = (10 ^ 3) ^ n := Nat.pow_right_comm ..
    _ ≤ (2 ^ 10) ^ n := Nat.pow_le_pow_left (by decide) n
    _ = 2 ^ (10 * n) := (Nat.pow_mul ..).symm
    _ ≤ 2 ^ (k * 3) := Nat.pow_le_pow_right (by decide) (by omega)
    _ = (2 ^ k) ^ 3 := Nat.pow_mul ..

theorem two_pow_le {n k : Nat} (h : 28 * k ≤ 93 * n) : 2 ^ k ≤ 10 ^ n := by
  refine (Nat.pow_le_pow_iff_left (n := 28) (by decide)).mp ?_
  calc (2 ^ k) ^ 28 = 2 ^ (k * 28) := (Nat.pow_mul ..).symm
    _ ≤ 2 ^ (93 * n) := Nat.pow_le_pow_right (by decide) (by omega)
    _ = (2 ^ 93) ^ n := Nat.pow_mul ..
    _ ≤ (10 ^ 28) ^ n := Nat.pow_le_pow_left (by decide) n
    _ = (10 ^ n) ^ 28 := Nat.pow_right_comm ..

-- The power of ten is at most a quarter of the power of two.
theorem four_mul_ten_pow_le (e exponent : Int)
    (hpos : 10 * exponent ≤ 3 * (e - 2) ∨ exponent < 0)
    (hneg : 28 * (2 - e) ≤ 93 * -exponent ∨ 0 ≤ exponent) :
    4 * 2 ^ (-e).toNat * 10 ^ exponent.toNat ≤ 2 ^ e.toNat * 10 ^ (-exponent).toNat := by
  have hfour (k : Nat) : 4 * 2 ^ k = 2 ^ (2 + k) := by rw [Nat.pow_add]
  rcases le_or_gt 0 exponent with h | h
  · have hzero : (-exponent).toNat = 0 := by omega
    calc 4 * 2 ^ (-e).toNat * 10 ^ exponent.toNat
        ≤ 2 ^ (2 + (-e).toNat) * 2 ^ (e - 2).toNat := by
          rw [hfour]
          exact Nat.mul_le_mul_left _ (ten_pow_le (by omega))
      _ = 2 ^ (2 + (-e).toNat + (e - 2).toNat) := (Nat.pow_add ..).symm
      _ ≤ 2 ^ e.toNat := Nat.pow_le_pow_right (by decide) (by omega)
      _ = 2 ^ e.toNat * 10 ^ (-exponent).toNat := by rw [hzero, Nat.pow_zero, Nat.mul_one]
  · have hzero : exponent.toNat = 0 := by omega
    calc 4 * 2 ^ (-e).toNat * 10 ^ exponent.toNat = 2 ^ (2 + (-e).toNat) := by
          rw [hzero, Nat.pow_zero, Nat.mul_one, hfour]
      _ ≤ 2 ^ (e.toNat + (2 - e).toNat) := Nat.pow_le_pow_right (by decide) (by omega)
      _ = 2 ^ e.toNat * 2 ^ (2 - e).toNat := Nat.pow_add ..
      _ ≤ 2 ^ e.toNat * 10 ^ (-exponent).toNat :=
          Nat.mul_le_mul_left _ (two_pow_le (by omega))

variable {m : Nat} {e : Int}

theorem top_le (hc : Canonical m e) (hm : m ≠ 0) :
    (neighbourhood double m e).top ≤ (52 + e) * 30103 / 100000 + 2 := by
  have hvalue : (neighbourhood double m e).value.log2 < 55 + e.toNat := by
    have hpos : 0 < 4 * m * 2 ^ e.toNat := by positivity
    refine (Nat.log2_lt hpos.ne').mpr ?_
    calc 4 * m * 2 ^ e.toNat < 2 ^ 55 * 2 ^ e.toNat :=
          Nat.mul_lt_mul_of_pos_right (by have := hc.1; omega) (Nat.two_pow_pos _)
      _ = 2 ^ (55 + e.toNat) := (Nat.pow_add ..).symm
  have hden : (neighbourhood double m e).den.log2 = 2 + (-e).toNat := by
    have hpow : (neighbourhood double m e).den = 2 ^ (2 + (-e).toNat) := by
      rw [Nat.pow_add]
      rfl
    rw [hpow, Nat.log2_two_pow]
  rw [Neighbourhood.top]
  omega

-- One of the powers of ten that are tried fits below every decimal.
theorem exists_found (tie : Tie) (hc : Canonical m e) (hm : m ≠ 0) :
    ∃ n, n ≠ 0 ∧ (neighbourhood double m e).nearest? tie ((neighbourhood double m e).top - 21) =
      some n := by
  have htop := top_le hc hm
  obtain ⟨-, hleast, hgreatest, -⟩ := hc
  have hpow := four_mul_ten_pow_le e ((neighbourhood double m e).top - 21)
    (by omega) (by omega)
  refine Neighbourhood.exists_nearest? tie ?_ ?_ ?_
  · show 0 < 4 * 2 ^ (-e).toNat
    positivity
  · exact Nat.mul_lt_mul_of_pos_right (by omega) (Nat.two_pow_pos _)
  · have hlow : (neighbourhood double m e).low ≤ (4 * m - 1) * 2 ^ e.toNat := by
      refine Nat.mul_le_mul_right _ ?_
      split <;> omega
    have hm' : 4 * m - 1 + 1 = 4 * m := by omega
    calc (neighbourhood double m e).low * 10 ^ (-((neighbourhood double m e).top - 21)).toNat +
          4 * 2 ^ (-e).toNat * 10 ^ ((neighbourhood double m e).top - 21).toNat
        ≤ (4 * m - 1) * 2 ^ e.toNat * 10 ^ (-((neighbourhood double m e).top - 21)).toNat +
          2 ^ e.toNat * 10 ^ (-((neighbourhood double m e).top - 21)).toNat :=
          Nat.add_le_add (Nat.mul_le_mul_right _ hlow) hpow
      _ = (4 * m - 1 + 1) * 2 ^ e.toNat * 10 ^ (-((neighbourhood double m e).top - 21)).toNat := by
          ring
      _ = 4 * m * 2 ^ e.toNat * 10 ^ (-((neighbourhood double m e).top - 21)).toNat := by rw [hm']

-- The digits that are found denote a number that rounds to the decimal.
theorem holds_shortest (tie : Tie) (hc : Canonical m e) (hm : m ≠ 0) :
    (neighbourhood double m e).Holds (shortest double tie m e).value := by
  rw [shortest]
  dsimp only
  rw [Digits.value_strip]
  generalize hfound : (List.range 22).findSome? _ = found
  cases found with
  | none =>
      obtain ⟨n, hn, hnearest⟩ := exists_found tie hc hm
      have hnone := List.findSome?_eq_none_iff.mp hfound 21 (by decide)
      have hcast : (neighbourhood double m e).top - (21 : Nat) =
        (neighbourhood double m e).top - 21 := rfl
      rw [hcast, hnearest, Option.bind_some, if_neg hn] at hnone
      cases hnone
  | some d =>
      obtain ⟨k, -, hd⟩ := List.exists_of_findSome?_eq_some hfound
      obtain ⟨n, hn, hd⟩ := Option.bind_eq_some_iff.mp hd
      split at hd
      next => cases hd
      next =>
        cases hd
        exact Neighbourhood.holds_of_contains (Neighbourhood.contains_of_nearest? hn)

end TableFlow.Decimal
