import TableFlow.Proofs.Decimal.Whole

namespace TableFlow.Decimal

variable {p q r : Decimal} {x : ℚ}

theorem isFinite_half : half.isFinite = true := by decide

theorem value_half : half.value = 1 / 2 := by
  have hhalf : half = .finite false (2 ^ 52) (-53) (by decide) := by decide
  rw [hhalf, value_finite]
  norm_num

theorem round?_of_roundsTo (hp : p.isFinite = true) (h : RoundsTo (p.value + 1 / 2) r) :
    p.round? = some ⌊r.value⌋ := by
  rw [← value_half] at h
  obtain ⟨hfinite, hvalue⟩ := value_add hp isFinite_half h
  rw [round?, floor?_eq hfinite, hvalue]

-- The sum does not reach the next integer if there is a decimal in between.
theorem round?_of_le (hp : p.isFinite = true) (hq : q.isFinite = true)
    (hfloor : ⌊p.value + 1 / 2⌋.natAbs ≤ 2 ^ 53) (hle : p.value + 1 / 2 ≤ q.value)
    (hlt : q.value < ⌊p.value + 1 / 2⌋ + 1) : p.round? = some ⌊p.value + 1 / 2⌋ := by
  obtain ⟨l, hl, hlvalue⟩ := exists_value (e := 0) hfloor (by decide) (by decide)
  rw [zpow_zero, mul_one] at hlvalue
  have hlow : l.value ≤ p.value + 1 / 2 := hlvalue.trans_le (Int.floor_le _)
  obtain ⟨r, hr⟩ := exists_roundsTo hl hq hlow hle
  rw [round?_of_roundsTo hp hr, Option.some.injEq, Int.floor_eq_iff, ← hlvalue]
  refine ⟨hr.le_value hl hlow, (hr.value_le hq hle).trans_lt ?_⟩
  rwa [hlvalue]

-- Where the sum with one half is rounded up to the next integer.
def Misrounds (x : ℚ) : Prop :=
  x = 1 / 2 - 1 / 2 ^ 54 ∨ ∃ n : Int, x = n ∧ n % 2 = 1 ∧ 2 ^ 52 < n.natAbs ∧ n.natAbs < 2 ^ 53

theorem succ_mul_le {k j : Nat} (hk : k ≠ 0) (h : k * 2 ^ j < 2 ^ 53) :
    (k + 1) * 2 ^ j ≤ 2 ^ 53 := by
  have hj : j ≤ 53 := by
    by_contra hj
    have hpow : 2 ^ 53 ≤ 2 ^ j := Nat.pow_le_pow_right (by decide) (by omega)
    have hmul : 2 ^ j ≤ k * 2 ^ j := Nat.le_mul_of_pos_left _ (by omega)
    omega
  have hsplit : 2 ^ 53 = 2 ^ (53 - j) * 2 ^ j := by
    rw [← Nat.pow_add, Nat.sub_add_cancel hj]
  rw [hsplit] at h ⊢
  exact Nat.mul_le_mul_right _ (Nat.lt_of_mul_lt_mul_right h)

theorem natAbs_floor_le (hx : |x| ≤ 2 ^ 52 - 1 / 2) : ⌊x + 1 / 2⌋.natAbs ≤ 2 ^ 52 := by
  obtain ⟨hlow, hhigh⟩ := abs_le.mp hx
  have hlow' : -2 ^ 52 ≤ ⌊x + 1 / 2⌋ := by
    rw [Int.le_floor]
    push_cast
    linarith
  have hhigh' : ⌊x + 1 / 2⌋ ≤ 2 ^ 52 := by
    rw [Int.floor_le_iff]
    push_cast
    linarith
  omega

-- Up to half of the way from one integer to the next, the middle is not passed.
theorem exists_middle (hx : |x| ≤ 2 ^ 52 - 1 / 2) (hle : x ≤ ⌊x + 1 / 2⌋) :
    ∃ q : Decimal, q.isFinite = true ∧ x + 1 / 2 ≤ q.value ∧ q.value < ⌊x + 1 / 2⌋ + 1 := by
  have hfloor := natAbs_floor_le hx
  have hhigh : ⌊x + 1 / 2⌋ ≤ 2 ^ 52 := by omega
  rcases hhigh.lt_or_eq with hlt | heq
  · obtain ⟨q, hq, hvalue⟩ := exists_value (n := 2 * ⌊x + 1 / 2⌋ + 1) (e := -1) (by omega)
      (by decide) (by decide)
    have hmiddle : q.value = ⌊x + 1 / 2⌋ + 1 / 2 := by
      rw [hvalue, zpow_neg_one]
      push_cast
      ring
    exact ⟨q, hq, by linarith, by linarith⟩
  · obtain ⟨q, hq, hvalue⟩ := exists_value (n := 2 ^ 52) (e := 0) (by decide) (by decide)
      (by decide)
    rw [zpow_zero, mul_one] at hvalue
    push_cast at hvalue
    refine ⟨q, hq, by linarith [(abs_le.mp hx).2], ?_⟩
    rw [hvalue, heq]
    push_cast
    linarith

-- The last of the places of `2 ^ i` before the next integer has a mantissa that is not too wide.
theorem natAbs_last_le {k M : Int} {i : Nat} (hM : M.natAbs < 2 ^ 53) (hbelow : k * 2 ^ (i + 1) < M)
    (hsum : M + 2 ^ i < (k + 1) * 2 ^ (i + 1)) (hplaces : k ≠ 0 ∨ i + 1 ≤ 53) :
    ((k + 1) * 2 ^ (i + 1) - 1).natAbs ≤ 2 ^ 53 := by
  have hhalf : (0 : Int) < 2 ^ i := by positivity
  have hwhole : (0 : Int) < 2 ^ (i + 1) := by positivity
  rcases lt_or_ge k 0 with hk | hk
  · have hupper : (k + 1) * 2 ^ (i + 1) ≤ 0 :=
      mul_nonpos_of_nonpos_of_nonneg (by omega) hwhole.le
    omega
  · have hlower : 0 ≤ k * 2 ^ (i + 1) := mul_nonneg hk hwhole.le
    have hupper : (k + 1) * 2 ^ (i + 1) ≤ 2 ^ 53 := by
      obtain ⟨k, rfl⟩ := Int.eq_ofNat_of_zero_le hk
      rcases Nat.eq_zero_or_pos k with rfl | hk
      · have hpow : 2 ^ (i + 1) ≤ 2 ^ 53 := Nat.pow_le_pow_right (by decide) (by omega)
        rw [Int.ofNat_zero, zero_add, one_mul]
        exact_mod_cast hpow
      · have hlt : k * 2 ^ (i + 1) < 2 ^ 53 := by zify; omega
        exact_mod_cast succ_mul_le hk.ne' hlt
    omega

-- Otherwise the last place before the next integer is not passed, where it is a decimal.
theorem exists_last {M : Int} {j : Nat} (hM : M.natAbs < 2 ^ 53) (hj : 1 ≤ j) (hj' : j ≤ 1074)
    (hx : x = M / 2 ^ j) (hlt : ⌊x + 1 / 2⌋ < x) (hplaces : ⌊x + 1 / 2⌋ ≠ 0 ∨ j ≤ 53) :
    ∃ q : Decimal, q.isFinite = true ∧ x + 1 / 2 ≤ q.value ∧ q.value < ⌊x + 1 / 2⌋ + 1 := by
  have hfloor := Int.lt_floor_add_one (x + 1 / 2)
  generalize ⌊x + 1 / 2⌋ = k at *
  have hpos : (0 : ℚ) < 2 ^ j := by positivity
  obtain ⟨i, rfl⟩ : ∃ i, j = i + 1 := ⟨j - 1, by omega⟩
  have hbelow : k * 2 ^ (i + 1) < M := by
    rw [hx, lt_div_iff₀ hpos] at hlt
    exact_mod_cast hlt
  have hsum : M + 2 ^ i < (k + 1) * 2 ^ (i + 1) := by
    rw [hx] at hfloor
    have hsum' : (M / 2 ^ (i + 1) + 1 / 2 : ℚ) = (M + 2 ^ i) / 2 ^ (i + 1) := by
      rw [pow_succ]
      field_simp
    rw [hsum', div_lt_iff₀ hpos] at hfloor
    exact_mod_cast hfloor
  have hn := natAbs_last_le hM hbelow hsum hplaces
  obtain ⟨q, hq, hvalue⟩ := exists_value (e := -((i + 1 : ℕ) : Int)) hn (by omega) (by omega)
  have hlast : q.value = ((k + 1) * 2 ^ (i + 1) - 1) / 2 ^ (i + 1) := by
    rw [hvalue, zpow_neg, zpow_natCast]
    push_cast
    rfl
  refine ⟨q, hq, ?_, ?_⟩
  · rw [hlast, hx, le_div_iff₀ hpos]
    have hle : (M + 2 ^ i : ℚ) ≤ (k + 1) * 2 ^ (i + 1) - 1 := by
      exact_mod_cast Int.le_sub_one_of_lt hsum
    refine le_trans (le_of_eq ?_) hle
    rw [pow_succ]
    field_simp
  · rw [hlast, div_lt_iff₀ hpos]
    linarith

-- Below one the places are denser than the decimals; only the last one is too near.
theorem add_half_le {M : Int} {j : Nat} (hM : M.natAbs < 2 ^ 53) (hj : 54 ≤ j)
    (hx : x = M / 2 ^ j) (hne : x ≠ 1 / 2 - 1 / 2 ^ 54) : x + 1 / 2 ≤ 1 - 1 / 2 ^ 53 := by
  have hM' : (M : ℚ) ≤ 2 ^ 53 - 1 := by exact_mod_cast (by omega : M ≤ 2 ^ 53 - 1)
  rcases hj.eq_or_lt with rfl | hj
  · rw [hx] at hne ⊢
    have hlast : M ≠ 2 ^ 53 - 1 := by
      rintro rfl
      exact hne (by norm_num)
    have hM'' : (M : ℚ) ≤ 2 ^ 53 - 2 := by exact_mod_cast (by omega : M ≤ 2 ^ 53 - 2)
    have hdiv : (M / 2 ^ 54 : ℚ) ≤ (2 ^ 53 - 2) / 2 ^ 54 := by gcongr
    norm_num at hdiv ⊢
    linarith
  · have hpow : (2 : ℚ) ^ 55 ≤ 2 ^ j := pow_le_pow_right₀ (by norm_num) hj
    have hdiv : (M / 2 ^ j : ℚ) ≤ 1 / 4 := by
      rw [div_le_iff₀ (by positivity)]
      linarith
    rw [hx]
    norm_num
    linarith

-- A decimal with a fraction is rounded to the nearest integer, with one exception.
theorem round?_of_fraction {M : Int} {j : Nat} (hp : p.isFinite = true) (hM : M.natAbs < 2 ^ 53)
    (hj : 1 ≤ j) (hj' : j ≤ 1074) (hx : p.value = M / 2 ^ j)
    (hne : p.value ≠ 1 / 2 - 1 / 2 ^ 54) : p.round? = some ⌊p.value + 1 / 2⌋ := by
  have hbound : |p.value| ≤ 2 ^ 52 - 1 / 2 := by
    have hM' : (|M| : ℚ) ≤ 2 ^ 53 - 1 := by
      rw [← Int.cast_abs, ← Nat.cast_natAbs, le_sub_iff_add_le]
      exact_mod_cast hM
    have hpow : (2 : ℚ) ^ 1 ≤ 2 ^ j := pow_le_pow_right₀ (by norm_num) hj
    rw [hx, abs_div, abs_of_pos (by positivity : (0 : ℚ) < 2 ^ j), div_le_iff₀ (by positivity)]
    linarith
  have hfloor := natAbs_floor_le hbound
  rcases le_or_gt p.value ⌊p.value + 1 / 2⌋ with hle | hlt
  · obtain ⟨q, hq, hmiddle, hbefore⟩ := exists_middle hbound hle
    exact round?_of_le hp hq (by omega) hmiddle hbefore
  · by_cases hplaces : ⌊p.value + 1 / 2⌋ ≠ 0 ∨ j ≤ 53
    · obtain ⟨q, hq, hlast, hbefore⟩ := exists_last hM hj hj' hx hlt hplaces
      exact round?_of_le hp hq (by omega) hlast hbefore
    · obtain ⟨hzero, hdense⟩ := not_or.mp hplaces
      obtain ⟨q, hq, hvalue⟩ := exists_value (n := 2 ^ 53 - 1) (e := -53) (by decide) (by decide)
        (by decide)
      have hlast : q.value = 1 - 1 / 2 ^ 53 := by
        rw [hvalue]
        norm_num
      refine round?_of_le hp hq (by omega) ?_ ?_
      · rw [hlast]
        exact add_half_le hM (by omega) hx hne
      · rw [hlast, not_not.mp hzero]
        norm_num

theorem floor_add_half (n : Int) : ⌊(n + 1 / 2 : ℚ)⌋ = n := by
  rw [Int.floor_eq_iff]
  constructor <;> linarith

section Integers

variable {m : Nat} {e : Int}

theorem roundsTo_self {s : Bool} {hc : Canonical m e} (he : 1 ≤ e ∨ (e = 0 ∧ m % 2 = 0))
    (hfirst : ¬ (s = true ∧ m = 2 ^ 52 ∧ e = 0)) :
    RoundsTo ((finite s m e hc).value + 1 / 2) (finite s m e hc) := by
  have hm : 2 ^ 52 ≤ m := hc.2.2.2.resolve_right (by omega)
  have hm' : (2 ^ 52 : ℚ) ≤ m := by exact_mod_cast hm
  have hu : (1 : ℚ) ≤ 2 ^ e := one_le_zpow₀ (by norm_num) (by omega)
  have hu' (h : 1 ≤ e) : (2 : ℚ) ≤ 2 ^ e := by
    have hpow : (2 : ℚ) ^ (1 : Int) ≤ 2 ^ e := zpow_le_zpow_right₀ (by norm_num) h
    rwa [zpow_one] at hpow
  have hmul : (2 ^ 52 * 1 : ℚ) ≤ m * 2 ^ e := mul_le_mul hm' hu (by norm_num) (by positivity)
  rw [value_finite, RoundsTo]
  cases s with
  | false =>
      rw [if_neg Bool.false_ne_true, if_neg Bool.false_ne_true]
      refine holds_of_le (by linarith) ?_ (by linarith) fun hodd => ?_
      · split_ifs <;> linarith
      · have hstep := hu' (by omega)
        constructor <;> linarith
  | true =>
      rw [if_pos rfl, if_pos rfl, neg_add, neg_neg]
      refine holds_of_le (by linarith) ?_ (by linarith) fun hodd => ?_
      · split_ifs with hnarrow
        · have hstep := hu' (by
            by_contra hlt
            exact hfirst ⟨rfl, hnarrow.1, by omega⟩)
          linarith
        · linarith
      · have hstep := hu' (by omega)
        constructor <;> linarith

-- An integer is rounded to itself, unless it is odd and the steps are of one. The negative number
-- at which steps of one begin stands alone, because there are halves above it.
theorem round?_of_nonneg {s : Bool} {hc : Canonical m e} (he : 0 ≤ e)
    (h : ¬ Misrounds (finite s m e hc).value) :
    (finite s m e hc).round? = some ⌊(finite s m e hc).value + 1 / 2⌋ := by
  have hwhole : (finite s m e hc).value = (signed s m * 2 ^ e.toNat : Int) := value_of_nonneg he
  have hfloor : ⌊(finite s m e hc).value + 1 / 2⌋ = signed s m * 2 ^ e.toNat := by
    rw [hwhole, floor_add_half]
  by_cases hfirst : s = true ∧ m = 2 ^ 52 ∧ e = 0
  · obtain ⟨rfl, rfl, rfl⟩ := hfirst
    rw [hfloor]
    rfl
  · by_cases hself : 1 ≤ e ∨ (e = 0 ∧ m % 2 = 0)
    · rw [round?_of_roundsTo rfl (roundsTo_self hself hfirst), hfloor, hwhole, Int.floor_intCast]
    · have hfull : 2 ^ 52 ≤ m := hc.2.2.2.resolve_right (by omega)
      have hwidth := hc.1
      obtain rfl : e = 0 := by omega
      refine absurd (.inr ⟨_, hwhole, ?_⟩) h
      cases s <;> simp [signed] <;> omega

-- An odd integer with steps of one has an even neighbour above, to which the middle is rounded.
theorem exists_roundsTo_succ {n : Int} (hodd : n % 2 = 1) (hlow : 2 ^ 52 < n.natAbs)
    (hhigh : n.natAbs < 2 ^ 53) : ∃ r, RoundsTo (n + 1 / 2) r ∧ r.value = n + 1 := by
  rcases lt_or_ge n 0 with hn | hn
  · obtain ⟨m, rfl⟩ : ∃ m : Nat, n = -(m + 1 : ℕ) := ⟨n.natAbs - 1, by omega⟩
    have hc : Canonical m 0 := ⟨by omega, by decide, by decide, .inl (by omega)⟩
    refine ⟨.finite true m 0 hc, ?_, ?_⟩
    · rw [RoundsTo, if_pos rfl]
      push_cast
      refine holds_of_le (by linarith [m.cast_nonneg (α := ℚ)]) ?_ ?_ fun h => by omega
      · rw [zpow_zero]
        split_ifs <;> linarith
      · rw [zpow_zero]
        linarith
    · rw [value_finite, if_pos rfl, zpow_zero]
      push_cast
      ring
  · obtain ⟨m, rfl⟩ := Int.eq_ofNat_of_zero_le hn
    by_cases hlast : m = 2 ^ 53 - 1
    · subst hlast
      refine ⟨.finite false (2 ^ 52) 1 (by decide), ?_, ?_⟩
      · rw [RoundsTo, if_neg Bool.false_ne_true]
        refine holds_of_le ?_ ?_ ?_ fun h => absurd h (by decide) <;> norm_num
      · rw [value_finite, if_neg Bool.false_ne_true]
        norm_num
    · have hc : Canonical (m + 1) 0 := ⟨by omega, by decide, by decide, .inl (by omega)⟩
      refine ⟨.finite false (m + 1) 0 hc, ?_, ?_⟩
      · rw [RoundsTo, if_neg Bool.false_ne_true]
        refine holds_of_le (by positivity) ?_ ?_ fun h => by omega
        · rw [if_neg (by omega), zpow_zero]
          push_cast
          linarith
        · rw [zpow_zero]
          push_cast
          linarith
      · rw [value_finite, if_neg Bool.false_ne_true, zpow_zero]
        push_cast
        ring

end Integers

theorem floor_of_misrounds (h : Misrounds x) : ⌊x + 1 / 2⌋ < 2 ^ 53 := by
  rcases h with rfl | ⟨n, rfl, -, -, hn⟩
  · rw [Int.floor_lt]
    norm_num
  · rw [floor_add_half]
    omega

theorem round?_of_misrounds (hp : p.isFinite = true) (h : Misrounds p.value) :
    p.round? = some (⌊p.value + 1 / 2⌋ + 1) := by
  rcases h with h | ⟨n, hn, hodd, hlow, hhigh⟩
  · have hone : RoundsTo (p.value + 1 / 2) (.finite false (2 ^ 52) (-52) (by decide)) := by
      rw [h, RoundsTo, if_neg Bool.false_ne_true]
      refine holds_of_le ?_ ?_ ?_ fun h => absurd h (by decide) <;> norm_num
    have hfloor : ⌊(1 / 2 - 1 / 2 ^ 54 + 1 / 2 : ℚ)⌋ = 0 := by
      rw [Int.floor_eq_iff]
      norm_num
    rw [round?_of_roundsTo hp hone, value_finite, h, hfloor]
    norm_num
  · obtain ⟨r, hr, hvalue⟩ := exists_roundsTo_succ hodd hlow hhigh
    rw [← hn] at hr
    rw [round?_of_roundsTo hp hr, hvalue, hn, floor_add_half]
    exact congrArg some (by exact_mod_cast Int.floor_intCast (n + 1))

theorem round?_of_not_misrounds (hp : p.isFinite = true) (h : ¬ Misrounds p.value) :
    p.round? = some ⌊p.value + 1 / 2⌋ := by
  obtain ⟨s, m, e, hc, rfl⟩ := exists_finite hp
  rcases lt_or_ge e 0 with he | he
  · have hleast := hc.2.1
    have hsigned : (signed s m).natAbs < 2 ^ 53 := by
      rw [natAbs_signed]
      exact hc.1
    refine round?_of_fraction (M := signed s m) (j := (-e).toNat) hp hsigned (by omega) (by omega)
      ?_ fun heq => h (.inl heq)
    rw [value, zpow_eq_div (by norm_num), Int.toNat_of_nonpos he.le, pow_zero, mul_one_div]
  · exact round?_of_nonneg he h

-- The result for a number that is rounded: the next integer, or the one that is asked for.
def IsRounded (x : ℚ) (n : Int) : Prop :=
  (Misrounds x ∧ n = ⌊x + 1 / 2⌋ + 1) ∨ (¬ Misrounds x ∧ n = ⌊x + 1 / 2⌋)

theorem exists_round? (hp : p.isFinite = true) :
    ∃ n, p.round? = some n ∧ IsRounded p.value n := by
  by_cases h : Misrounds p.value
  · exact ⟨_, round?_of_misrounds hp h, .inl ⟨h, rfl⟩⟩
  · exact ⟨_, round?_of_not_misrounds hp h, .inr ⟨h, rfl⟩⟩

-- A misrounded decimal has passed the middle between its neighbours; no other decimal has.
theorem IsRounded.nearest_iff {n : Int} (hn : IsRounded x n) :
    (n = ⌊x + 1 / 2⌋ ↔ ¬ Misrounds x) ∧ (|n - x| ≤ 1 / 2 ↔ ¬ Misrounds x) ∧
      ((∃ k : Int, x = k) → ((n : ℚ) = x ↔ ¬ Misrounds x)) := by
  have hlow := Int.floor_le (x + 1 / 2)
  have hhigh := Int.lt_floor_add_one (x + 1 / 2)
  rcases hn with ⟨hmisrounds, rfl⟩ | ⟨hrounds, rfl⟩
  · refine ⟨by simp [hmisrounds], ?_, ?_⟩
    · simp only [hmisrounds, not_true, iff_false, not_le]
      push_cast
      exact lt_abs.mpr (.inl (by linarith))
    · rintro ⟨k, rfl⟩
      simp only [floor_add_half, hmisrounds, not_true, iff_false]
      push_cast
      linarith
  · refine ⟨by simp [hrounds], ?_, ?_⟩
    · simp only [hrounds, not_false_eq_true, iff_true, abs_le]
      constructor <;> linarith
    · rintro ⟨k, rfl⟩
      simp only [floor_add_half, hrounds, not_false_eq_true]

end TableFlow.Decimal
