import TableFlow.Proofs.Decimal.Nearest
import TableFlow.Proofs.Decimal.Recognition

namespace TableFlow.Decimal

variable {negative : Bool} {x : ℚ} {d p : Decimal} {n width : Nat} {e : Int}

-- What the number of the given sign and magnitude is rounded to, which is not finite from the
-- overflow on.
structure IsRounding (negative : Bool) (x : ℚ) (d : Decimal) : Prop where
  isNegative : d.isNegative = negative
  isFinite_iff : d.isFinite = true ↔ x < overflow
  roundsTo : d.isFinite = true → RoundsTo (if negative then -x else x) d

namespace IsRounding

theorem infinite (negative : Bool) (hx : overflow ≤ x) : IsRounding negative x (.infinite negative) :=
  ⟨rfl, iff_of_false Bool.false_ne_true hx.not_gt, fun h => absurd h Bool.false_ne_true⟩

theorem finite {m : Nat} (negative : Bool) (hc : Canonical m e)
    (h : (neighbourhood double m e).Holds x) : IsRounding negative x (.finite negative m e hc) := by
  refine ⟨rfl, iff_of_true rfl ((canonical_iff_lt_overflow hc.normalized h).mp hc), fun _ => ?_⟩
  cases negative
  · exact h
  · simpa [RoundsTo] using h

theorem ofRatio {m : Nat} (negative : Bool) (hn : n ≠ 0) (hm : m ≠ 0) :
    IsRounding negative (n / m) (Decimal.ofRatio negative n m) := by
  have hnormalized := normalized_nearest hn hm
  have hholds := holds_nearest hn hm
  rw [Decimal.ofRatio, if_neg hn]
  dsimp only
  rw [pack]
  split
  next hc => exact finite negative hc hholds
  next hc =>
    refine infinite negative (not_lt.mp fun hlt => hc ?_)
    exact (canonical_iff_lt_overflow hnormalized hholds).mpr hlt

-- Up to half of the least decimal, numbers are rounded to zero.
theorem zero (negative : Bool) (hx : 0 ≤ x) (hle : x ≤ 1 / 2 * 2 ^ (-1074 : Int)) :
    IsRounding negative x (Decimal.zero negative) := by
  refine finite negative _ (holds_of_le hx ?_ ?_ fun hodd => absurd hodd (by decide))
  · refine le_trans (mul_nonpos_of_nonpos_of_nonneg ?_ (by positivity)) hx
    norm_num
  · rwa [Nat.cast_zero, zero_add]

-- The shortcuts are taken for numbers that are too small and too large.
theorem ofDigits (negative : Bool) (hn : n < 10 ^ width) :
    IsRounding negative (n * 10 ^ e) (Decimal.ofDigits negative n width e) := by
  rw [Decimal.ofDigits]
  by_cases hzero : n = 0
  · rw [if_pos (.inl hzero), hzero, Nat.cast_zero, zero_mul]
    exact zero negative le_rfl (by positivity)
  by_cases hsmall : e < -400 - width
  · rw [if_pos (.inr hsmall)]
    refine zero negative (by positivity) ?_
    have hwidth : (n : ℚ) ≤ 10 ^ width := by exact_mod_cast hn.le
    have hpow : (2 : ℚ) ^ 1075 ≤ 10 ^ 401 := by exact_mod_cast two_pow_le (by decide)
    calc (n * 10 ^ e : ℚ) ≤ 10 ^ (width : Int) * 10 ^ e := by
          rw [zpow_natCast]
          exact mul_le_mul_of_nonneg_right hwidth (by positivity)
      _ = 10 ^ (width + e) := (zpow_add₀ (by norm_num) _ _).symm
      _ ≤ 10 ^ (-401 : Int) := zpow_le_zpow_right₀ (by norm_num) (by omega)
      _ = (10 ^ 401)⁻¹ := zpow_neg 10 401
      _ ≤ (2 ^ 1075)⁻¹ := inv_anti₀ (by positivity) hpow
      _ = 2⁻¹ * (2 ^ 1074)⁻¹ := by rw [pow_succ, mul_inv_rev]
      _ = 1 / 2 * 2 ^ (-1074 : Int) := by rw [one_div, zpow_neg, zpow_ofNat]
  rw [if_neg (not_or.mpr ⟨hzero, hsmall⟩)]
  by_cases hlarge : 400 < e
  · rw [if_pos hlarge]
    have hpow : (2 : ℚ) ^ 1024 ≤ 10 ^ 401 := by exact_mod_cast two_pow_le (by decide)
    have hone : (1 : ℚ) ≤ n := by exact_mod_cast Nat.pos_of_ne_zero hzero
    refine infinite negative ?_
    calc overflow ≤ 2 ^ 1024 := sub_le_self _ (by positivity)
      _ ≤ 10 ^ (401 : Int) := hpow
      _ ≤ 10 ^ e := zpow_le_zpow_right₀ (by norm_num) (by omega)
      _ ≤ n * 10 ^ e := le_mul_of_one_le_left (by positivity) hone
  · rw [if_neg hlarge]
    have hratio : ((n * 10 ^ e.toNat : ℕ) / (10 ^ (-e).toNat : ℕ) : ℚ) = n * 10 ^ e := by
      rw [zpow_eq_div (by norm_num)]
      push_cast
      ring
    rw [← hratio]
    exact ofRatio negative (by positivity) (by positivity)

end IsRounding

theorem ofDigits_lt {digits : List Char} (h : ∀ c ∈ digits, c.isDigit = true) :
    Integer.ofDigits digits < 10 ^ digits.length := by
  induction digits using List.reverseRecOn with
  | nil => decide
  | append_singleton digits c ih =>
      have hlt := ih fun c hc => h c (List.mem_append_left _ hc)
      have hc := (Text.isDigit_bounds (h c (by simp))).2
      have hdigit : Integer.ofDigits [c] < 10 := by
        simp only [Integer.ofDigits, List.foldl_cons, List.foldl_nil, Char.reduceToNat]
        omega
      rw [ofDigits_append, List.length_append, List.length_singleton, pow_succ]
      omega

-- The number that a numeral denotes.
def Numeral.value (n : Numeral) : ℚ :=
  Integer.ofDigits (n.whole ++ n.fraction) * 10 ^ (n.exponent - n.fraction.length)

theorem isRounding_toDecimal (u : UnsignedNumber) (negative : Bool) :
    IsRounding negative u.numeral.value (u.numeral.toDecimal negative) := by
  refine IsRounding.ofDigits negative (ofDigits_lt ?_)
  rw [UnsignedNumber.numeral]
  split
  next whole separator hfront =>
    intro c hc
    exact (List.mem_append.mp hc).elim ((u.front_written _ hfront).1 c) (u.digits_written.2 c)
  next =>
    rw [List.append_nil]
    exact u.digits_written.2

-- The number that a spelling denotes.
def Spelling.value (w : Spelling) : ℚ :=
  if w.negative then -w.number.numeral.value else w.number.numeral.value

theorem Spelling.abs_value (w : Spelling) : |w.value| = w.number.numeral.value := by
  have hnonneg : 0 ≤ w.number.numeral.value := by
    rw [Numeral.value]
    positivity
  rw [value]
  split_ifs
  · rw [abs_neg, abs_of_nonneg hnonneg]
  · exact abs_of_nonneg hnonneg

-- The decimals that texts are read as.
theorem ofText?_eq_some_iff {text : String} : ofText? text = some d ↔ ∃ w : Spelling,
    text.toList = w.chars ∧ RoundsTo w.value d ∧ d.isNegative = w.negative := by
  rw [ofText?_eq_some_iff_exists]
  constructor
  · rintro ⟨w, htext, rfl, hfinite⟩
    have hrounding := isRounding_toDecimal w.number w.negative
    exact ⟨w, htext, hrounding.roundsTo hfinite, hrounding.isNegative⟩
  · rintro ⟨w, htext, hrounds, hsign⟩
    have hrounding := isRounding_toDecimal w.number w.negative
    have hlt := hrounds.abs_lt_overflow
    rw [w.abs_value] at hlt
    have hfinite := hrounding.isFinite_iff.mpr hlt
    exact ⟨w, htext, (hrounding.roundsTo hfinite).eq hrounds (hrounding.isNegative.trans hsign.symm),
      hrounds.isFinite⟩

-- A spelling is read unless its number is beyond the decimals.
theorem exists_ofText?_iff {text : String} : (∃ d, ofText? text = some d) ↔
    ∃ w : Spelling, text.toList = w.chars ∧ |w.value| < overflow := by
  constructor
  · rintro ⟨d, hd⟩
    obtain ⟨w, htext, hrounds, -⟩ := ofText?_eq_some_iff.mp hd
    exact ⟨w, htext, hrounds.abs_lt_overflow⟩
  · rintro ⟨w, htext, hlt⟩
    rw [w.abs_value] at hlt
    have hrounding := isRounding_toDecimal w.number w.negative
    exact ⟨_, ofText?_eq_some_iff_exists.mpr ⟨w, htext, rfl, hrounding.isFinite_iff.mpr hlt⟩⟩

end TableFlow.Decimal
