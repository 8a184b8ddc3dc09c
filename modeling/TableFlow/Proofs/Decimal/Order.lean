import TableFlow.Proofs.Decimal.Rounding

namespace TableFlow.Decimal

-- Two orders of integers that agree on both strict inequalities compare alike.
private theorem compare_congr {x y r s : Int} (hlt : x < y ↔ r < s) (hgt : y < x ↔ s < r) :
    Ord.compare x y = Ord.compare r s := by
  rcases Int.lt_trichotomy x y with h | h | h
  · rw [compare_lt_iff_lt.mpr h, compare_lt_iff_lt.mpr (hlt.mp h)]
  · have hr : r = s := by
      by_contra hne
      rcases Int.lt_or_gt_of_ne hne with hr | hr
      · exact absurd (hlt.mpr hr) (by omega)
      · exact absurd (hgt.mpr hr) (by omega)
    rw [compare_eq_iff_eq.mpr h, compare_eq_iff_eq.mpr hr]
  · rw [compare_gt_iff_gt.mpr h, compare_gt_iff_gt.mpr (hgt.mp h)]

-- A mantissa over a smaller exponent, and the bit pattern of a magnitude.
private def aligned (m : Nat) (e least : Int) : Nat := m * 2 ^ (e - least).toNat

private def pattern (m : Nat) (e : Int) : Nat := (e + 1074).toNat * 2 ^ 52 + m

private theorem aligned_eq_zero (m : Nat) (e least : Int) : aligned m e least = 0 ↔ m = 0 := by
  simp [aligned]

private theorem aligned_lt_of_exponent_lt {m m' : Nat} {e e' : Int} (hc : Canonical m e)
    (hc' : Canonical m' e') (he : e < e') :
    aligned m e (min e e') < aligned m' e' (min e e') ∧ pattern m e < pattern m' e' := by
  obtain ⟨hm, he0, -, -⟩ := hc
  obtain ⟨-, -, -, hfull⟩ := hc'
  have hm' : 2 ^ 52 ≤ m' := hfull.resolve_right (by omega)
  have hmin : min e e' = e := min_eq_left (Int.le_of_lt he)
  constructor
  · have hpow : 2 ^ 1 ≤ 2 ^ (e' - e).toNat := Nat.pow_le_pow_right (by decide) (by omega)
    calc aligned m e (min e e') = m := by simp [aligned, hmin]
      _ < 2 ^ 52 * 2 ^ 1 := hm
      _ ≤ m' * 2 ^ (e' - e).toNat := Nat.mul_le_mul hm' hpow
      _ = aligned m' e' (min e e') := by rw [aligned, hmin]
  · have hstep : (e + 1074).toNat + 1 ≤ (e' + 1074).toNat := by omega
    have hmul := Nat.mul_le_mul_right (2 ^ 52) hstep
    simp only [pattern]
    omega

private theorem aligned_lt_iff {m m' : Nat} {e e' : Int} (hc : Canonical m e)
    (hc' : Canonical m' e') :
    aligned m e (min e e') < aligned m' e' (min e e') ↔ pattern m e < pattern m' e' := by
  rcases Int.lt_trichotomy e e' with he | he | he
  · have h := aligned_lt_of_exponent_lt hc hc' he
    exact ⟨fun _ => h.2, fun _ => h.1⟩
  · subst he
    simp [aligned, pattern]
  · have h := aligned_lt_of_exponent_lt hc' hc he
    rw [min_comm] at h
    exact ⟨fun hlt => absurd hlt (by omega), fun hlt => absurd hlt (by omega)⟩

-- Zeros of different signs, which are equal as numbers and different as bit patterns.
def OppositeZeros (a b : Decimal) : Prop :=
  a.isZero = true ∧ b.isZero = true ∧ a.isNegative ≠ b.isNegative

private theorem signed_mul (s : Bool) (m k : Nat) :
    signed s m * 2 ^ k = if s then -((m * 2 ^ k : Nat) : Int) else ((m * 2 ^ k : Nat) : Int) := by
  cases s <;> simp [signed]

private theorem align_fst (s : Bool) (m : Nat) (e e' x : Int) :
    (align (signed s m) e x e').1 =
      if s then -(aligned m e (min e e') : Int) else (aligned m e (min e e') : Int) :=
  signed_mul s m _

private theorem align_snd (s : Bool) (m : Nat) (e e' x : Int) :
    (align x e (signed s m) e').2 =
      if s then -(aligned m e' (min e e') : Int) else (aligned m e' (min e e') : Int) :=
  signed_mul s m _

private theorem compare?_finite (s s' : Bool) (m m' : Nat) (e e' : Int) (hc : Canonical m e)
    (hc' : Canonical m' e') :
    (finite s m e hc).compare? (finite s' m' e' hc') =
      some (Ord.compare
        (if s then -(aligned m e (min e e') : Int) else (aligned m e (min e e') : Int))
        (if s' then -(aligned m' e' (min e e') : Int) else (aligned m' e' (min e e') : Int))) := by
  rw [← align_fst s m e e' (signed s' m'), ← align_snd s' m' e e' (signed s m)]
  rfl

theorem isZero_finite (s : Bool) (m : Nat) (e : Int) (hc : Canonical m e) :
    (finite s m e hc).isZero = true ↔ m = 0 := by
  have hz : aligned 0 (-1074) (min e (-1074)) = 0 := Nat.zero_mul _
  have hm := aligned_eq_zero m e (min e (-1074))
  simp only [isZero, same, zero, compare?_finite, hz, decide_eq_true_eq, Option.some.injEq,
    compare_eq_iff_eq]
  cases s <;> simp <;> omega

-- Apart from the zeros the two orders agree.
theorem compare?_eq_totalCompare {a b : Decimal} (ha : a.isFinite = true) (hb : b.isFinite = true)
    (hzeros : ¬ OppositeZeros a b) : a.compare? b = some (a.totalCompare b) := by
  cases a with
  | nan s => cases ha
  | infinite s => cases ha
  | finite s m e hc =>
      cases b with
      | nan s' => cases hb
      | infinite s' => cases hb
      | finite s' m' e' hc' =>
          have hlt := aligned_lt_iff hc hc'
          have hgt := aligned_lt_iff hc' hc
          rw [min_comm] at hgt
          have hzero := aligned_eq_zero m e (min e e')
          have hzero' := aligned_eq_zero m' e' (min e e')
          have hrank : (finite s m e hc).magnitude = pattern m e := rfl
          have hrank' : (finite s' m' e' hc').magnitude = pattern m' e' := rfl
          rw [compare?_finite]
          simp only [totalCompare, rank, isNegative, hrank, hrank', Option.some.injEq]
          simp only [OppositeZeros, isZero_finite, isNegative] at hzeros
          apply compare_congr <;> cases s <;> cases s' <;> simp at hzeros ⊢ <;> omega

-- A negative zero is not below zero.
theorem compare?_zero_eq_lt (s : Bool) (m : Nat) (e : Int) (hc : Canonical m e) :
    (finite s m e hc).compare? (zero false) = some .lt ↔ s = true ∧ m ≠ 0 := by
  have hz : aligned 0 (-1074) (min e (-1074)) = 0 := Nat.zero_mul _
  have hm := aligned_eq_zero m e (min e (-1074))
  simp only [zero, compare?_finite, hz, Option.some.injEq, compare_lt_iff_lt]
  cases s with
  | false => simp
  | true =>
      simp
      omega

-- Only the word zero becomes a decimal zero.
theorem isZero_ofInt64 (n : Int64) : (ofInt64 n).isZero = true ↔ n.toInt = 0 := by
  constructor
  · intro hz
    by_contra hn
    obtain ⟨m, e, hc, he, hm⟩ := ofInt_of_ne_zero n.toInt hn (natAbs_toInt_lt n)
    rw [ofInt64, he, isZero_finite] at hz
    exact hm hz
  · intro hn
    rw [ofInt64, hn]
    decide

end TableFlow.Decimal
