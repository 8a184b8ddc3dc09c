import TableFlow.Proofs.Decimal.Whole
import TableFlow.Proofs.Scalar

namespace TableFlow

-- The integer is a multiple of a power of two with a factor of at most 53 bits.
def Integer.FitsMantissa (n : Int) : Prop := ∃ k : Nat, (2 ^ k : Int) ∣ n ∧ n.natAbs < 2 ^ (53 + k)

namespace Decimal

open Integer

variable {p : Decimal} {n : Int}

theorem fitsMantissa_of_value (hp : p.isFinite = true) (h : p.value = n) : FitsMantissa n := by
  obtain ⟨s, m, e, hc, rfl⟩ := exists_finite hp
  have hm := hc.1
  rcases lt_or_ge e 0 with he | he
  · have hle : |(finite s m e hc).value| ≤ m := abs_value_le he.le
    rw [h, ← Int.cast_abs, ← Nat.cast_natAbs, Nat.cast_le] at hle
    exact ⟨0, by simp, by omega⟩
  · rw [value_of_nonneg he, Int.cast_inj, Int.mul_comm] at h
    refine ⟨e.toNat, ⟨_, h.symm⟩, ?_⟩
    rw [← h, Int.natAbs_mul, natAbs_signed, Int.natAbs_pow, Nat.pow_add, Nat.mul_comm]
    exact Nat.mul_lt_mul_of_pos_right hm (Nat.two_pow_pos _)

theorem value_ofInt_of_fitsMantissa (hlt : n.natAbs < 2 ^ 64) (hn : FitsMantissa n) :
    (ofInt n).value = n := by
  obtain ⟨k, ⟨c, rfl⟩, hwidth⟩ := hn
  rw [Int.natAbs_mul, Int.natAbs_pow] at hlt hwidth
  rw [Nat.add_comm, Nat.pow_add] at hwidth
  have hc : c.natAbs < 2 ^ 53 := Nat.lt_of_mul_lt_mul_left hwidth
  rcases eq_or_ne c 0 with rfl | hne
  · rw [mul_zero]
    exact zero_mul _
  · have hk : k < 64 := by
      refine (Nat.pow_lt_pow_iff_right (by decide : 1 < 2)).mp (lt_of_le_of_lt ?_ hlt)
      exact Nat.le_mul_of_pos_right _ (by omega)
    obtain ⟨q, hq, hvalue⟩ := exists_value (n := c) (e := k) (by omega) (by omega) (by omega)
    have hvalue' : q.value = (2 ^ k * c : Int) := by
      rw [hvalue, zpow_natCast]
      push_cast
      ring
    have hrounds := roundsTo_ofInt (n := 2 ^ k * c) (by rwa [Int.natAbs_mul, Int.natAbs_pow])
    rw [← hvalue'] at hrounds ⊢
    exact hrounds.value_eq hq

-- An integer that a decimal denotes becomes this decimal.
theorem ofInt_eq (hn : n ≠ 0) (hp : p.isFinite = true) (h : p.value = n) : ofInt n = p := by
  have hrounds := roundsTo_value hp
  rw [h] at hrounds
  refine ofRatio_of_roundsTo (by omega) one_ne_zero ?_
  rw [Nat.cast_one, div_one, Nat.cast_natAbs, Int.cast_abs]
  simp only [decide_eq_true_eq]
  split_ifs with hneg
  · rwa [abs_of_neg (by exact_mod_cast hneg), neg_neg]
  · rwa [abs_of_nonneg (by exact_mod_cast not_lt.mp hneg)]

theorem exists_value_two_pow (k : Nat) (hk : k ≤ 970) :
    ∃ q : Decimal, q.isFinite = true ∧ q.value = 2 ^ k := by
  obtain ⟨q, hq, hvalue⟩ := exists_value (n := 1) (e := k) (by decide) (by omega) (by omega)
  refine ⟨q, hq, ?_⟩
  rw [hvalue, zpow_natCast, Int.cast_one, one_mul]

-- Rounding passes no power of two.
theorem abs_value_ofInt64 (n : Int64) (h : 2 ^ 53 ≤ n.toInt.natAbs) :
    2 ^ 53 ≤ |(ofInt64 n).value| ∧ |(ofInt64 n).value| ≤ 2 ^ 63 := by
  have hrounds : RoundsTo n.toInt (ofInt64 n) := roundsTo_ofInt (natAbs_toInt_lt n)
  have hbounds := Integer.toInt_bounds n
  obtain ⟨a, ha, hlow⟩ := exists_value_two_pow 53 (by decide)
  obtain ⟨b, hb, hhigh⟩ := exists_value_two_pow 63 (by decide)
  have ha' := (isFinite_neg a).trans ha
  have hb' := (isFinite_neg b).trans hb
  have hupper := hrounds.value_le hb (by rw [hhigh]; exact_mod_cast hbounds.2.le)
  have hlower := hrounds.le_value hb' (by rw [value_neg, hhigh]; exact_mod_cast hbounds.1)
  rw [hhigh] at hupper
  rw [value_neg, hhigh] at hlower
  refine ⟨?_, abs_le.mpr ⟨hlower, hupper⟩⟩
  rcases le_or_gt 0 n.toInt with hn | hn
  · have hlarge := hrounds.le_value ha (by rw [hlow]; exact_mod_cast (by omega : 2 ^ 53 ≤ n.toInt))
    rw [hlow] at hlarge
    exact hlarge.trans (le_abs_self _)
  · have hlarge := hrounds.value_le ha'
      (by rw [value_neg, hlow]; exact_mod_cast (by omega : n.toInt ≤ -2 ^ 53))
    rw [value_neg, hlow] at hlarge
    exact le_abs.mpr (.inr (by linarith))

-- A word of more significant bits shares its decimal with another one.
theorem exists_ne_ofInt64 (n : Int64) (h : ¬ FitsMantissa n.toInt) :
    ∃ m, m ≠ n ∧ ofInt64 m = ofInt64 n := by
  have hn : 2 ^ 53 ≤ n.toInt.natAbs := by
    by_contra hlt
    exact h ⟨0, by simp, by omega⟩
  obtain ⟨hlow, hhigh⟩ := abs_value_ofInt64 n hn
  have hfinite := ofInt64_isFinite n
  obtain ⟨N, hN⟩ : ∃ N : Int, (ofInt64 n).value = N := by
    obtain ⟨s, m, e, hc, hdecimal⟩ := exists_finite hfinite
    rw [hdecimal] at hlow ⊢
    rcases lt_or_ge e 0 with he | he
    · have hle := hlow.trans (abs_value_le he.le)
      have hlt : (m : ℚ) < 2 ^ 53 := by exact_mod_cast hc.1
      linarith
    · exact ⟨_, value_of_nonneg he⟩
  rw [hN] at hlow hhigh
  have hN' : 2 ^ 53 ≤ |N| ∧ |N| ≤ 2 ^ 63 := by
    constructor
    · exact_mod_cast hlow
    · exact_mod_cast hhigh
  have hsame : ofInt N = ofInt64 n := ofInt_eq (by rintro rfl; simp at hN') hfinite hN
  have hne : N ≠ n.toInt := by
    rintro rfl
    exact h (fitsMantissa_of_value hfinite hN)
  rw [abs_le, le_abs] at hN'
  rcases (hN'.2.2).lt_or_eq with hlt | rfl
  · obtain ⟨m, rfl⟩ := Integer.exists_toInt hN'.2.1 hlt
    exact ⟨m, fun heq => hne (by rw [heq]), hsame⟩
  -- Beyond the greatest word: the last words are all rounded to `2 ^ 63`.
  · by_cases hlast : n = Int64.maxValue
    · exact ⟨Int64.maxValue - 1, by rw [hlast]; decide, .trans (by decide) hsame⟩
    · exact ⟨Int64.maxValue, Ne.symm hlast, .trans (by decide) hsame⟩

end Decimal

namespace ValueType

open Integer

variable {t u : ValueType} {n : Int64}

theorem normalize_integer_decimal (hu : u.scalarType? = some .decimal) (n : Int64) :
    u.normalize (.integer n) = .decimal (.ofInt64 n) :=
  u.normalize_of_scalarType? hu _

theorem normalize_decimal_eq_iff (ht : t.scalarType? = some .integer) {d : Decimal} :
    t.normalize (.decimal d) = .integer n ↔
      (d.isFinite = true ∧ d.value = n.toInt) ∧ n ≠ Int64.minValue := by
  rw [t.normalize_of_scalarType? ht, ← Primitive.wholeNumber?_eq_some_iff]
  simp only [ScalarType.primitive, Primitive.normalize]
  cases Primitive.wholeNumber? d <;> simp

-- Which words come back from decimals: those that fit the mantissa, without the least one. No two
-- words that fit become the same decimal, and every other one shares its decimal.
theorem normalize_normalize_iff (ht : t.scalarType? = some .integer)
    (hu : u.scalarType? = some .decimal) (n : Int64) :
    (t.normalize (u.normalize (.integer n)) = .integer n ↔
      FitsMantissa n.toInt ∧ n ≠ Int64.minValue) ∧
    (FitsMantissa n.toInt → ∀ m : Int64, FitsMantissa m.toInt →
      u.normalize (.integer m) = u.normalize (.integer n) → m = n) ∧
    (¬ FitsMantissa n.toInt →
      ∃ m : Int64, m ≠ n ∧ u.normalize (.integer m) = u.normalize (.integer n)) := by
  have hfinite := Decimal.ofInt64_isFinite n
  have hexact (k : Int64) (hk : FitsMantissa k.toInt) : (Decimal.ofInt64 k).value = k.toInt :=
    Decimal.value_ofInt_of_fitsMantissa (Decimal.natAbs_toInt_lt k) hk
  simp only [normalize_integer_decimal hu, normalize_decimal_eq_iff ht]
  refine ⟨and_congr_left fun _ => ?_, fun hn m hm h => ?_, fun hn => ?_⟩
  · exact ⟨fun h => Decimal.fitsMantissa_of_value h.1 h.2, fun hn => ⟨hfinite, hexact n hn⟩⟩
  · have hvalue := congrArg Decimal.value (Value.decimal.inj h)
    rw [hexact m hm, hexact n hn] at hvalue
    exact Int64.toInt_inj.mp (by exact_mod_cast hvalue)
  · obtain ⟨m, hne, hsame⟩ := Decimal.exists_ne_ofInt64 n hn
    exact ⟨m, hne, congrArg Value.decimal hsame⟩

-- The first words beyond `2 ^ 53`: the odd one is rounded, the even one fits.
theorem normalize_normalize_iff_beyond :
    ValueType.integer.normalize (ValueType.decimal.normalize (.integer 9007199254740994)) =
        .integer 9007199254740994 ∧
    ∃ m : Int64, m ≠ 9007199254740993 ∧
      ValueType.decimal.normalize (.integer m) =
        ValueType.decimal.normalize (.integer 9007199254740993) := by
  have heven : FitsMantissa (9007199254740994 : Int64).toInt := ⟨1, by decide, by decide⟩
  have hodd : ¬ FitsMantissa (9007199254740993 : Int64).toInt := by
    rintro ⟨k, hdvd, hlt⟩
    cases k with
    | zero => exact absurd hlt (by decide)
    | succ k =>
        have htwo : 2 ∣ (9007199254740993 : Int64).toInt :=
          (dvd_pow_self 2 (Nat.succ_ne_zero k)).trans hdvd
        exact absurd htwo (by decide)
  constructor
  · exact (normalize_normalize_iff rfl rfl _).1.mpr ⟨heven, by decide⟩
  · exact (normalize_normalize_iff (t := .integer) rfl rfl _).2.2 hodd

-- One word comes back as its neighbour, with which it shares a decimal, and the least one stays a
-- decimal.
theorem words_lost_as_decimals :
    ValueType.integer.normalize (ValueType.decimal.normalize (.integer 9007199254740993)) =
        .integer 9007199254740992 ∧
    ValueType.decimal.normalize (.integer 9007199254740993) =
      ValueType.decimal.normalize (.integer 9007199254740992) ∧
    ValueType.integer.normalize (ValueType.decimal.normalize (.integer Int64.minValue)) =
      .decimal (.ofInt (-2 ^ 63)) :=
  ⟨rfl, rfl, rfl⟩

end ValueType

end TableFlow
