import Mathlib.Order.Compare
import TableFlow.Proofs.Decimal.Rounding
import TableFlow.Proofs.Decimal.Shortest

namespace TableFlow.Decimal

def value : Decimal → ℚ
  | .finite negative m e _ => signed negative m * 2 ^ e
  | _ => 0

-- A shift to a smaller exponent leaves the number as it is.
theorem shift_value (x : Int) {e least : Int} (h : least ≤ e) :
    ((x * 2 ^ (e - least).toNat : Int) : ℚ) * 2 ^ least = x * 2 ^ e := by
  push_cast
  rw [mul_assoc, ← zpow_natCast, ← zpow_add₀ (by norm_num), Int.toNat_of_nonneg (by omega),
    Int.sub_add_cancel]

theorem compare?_eq_value {a b : Decimal} (ha : a.isFinite = true) (hb : b.isFinite = true) :
    a.compare? b = some (Ord.compare a.value b.value) := by
  cases a with
  | nan s => cases ha
  | infinite s => cases ha
  | finite s m e hc =>
      cases b with
      | nan s' => cases hb
      | infinite s' => cases hb
      | finite s' m' e' hc' =>
          have hmono : StrictMono fun n : Int => (n : ℚ) * 2 ^ min e e' := fun x y h =>
            mul_lt_mul_of_pos_right (by exact_mod_cast h) (by positivity)
          have hcompare := hmono.cmp_map_eq (signed s m * 2 ^ (e - min e e').toNat)
            (signed s' m' * 2 ^ (e' - min e e').toNat)
          beta_reduce at hcompare
          rw [shift_value _ (min_le_left e e'), shift_value _ (min_le_right e e'), cmp_eq_compare,
            cmp_eq_compare] at hcompare
          exact congrArg some hcompare.symm

theorem roundRatio_mono {n n' : Nat} (d : Nat) (h : n ≤ n') : roundRatio n d ≤ roundRatio n' d := by
  have hdiv : n / d ≤ n' / d := Nat.div_le_div_right h
  rcases Nat.lt_or_eq_of_le hdiv with hlt | heq
  · have hupper := roundRatio_le n d
    have hlower := div_le_roundRatio n' d
    omega
  · have hn := Nat.div_add_mod n d
    have hn' := Nat.div_add_mod n' d
    have hmod : n % d ≤ n' % d := by
      rw [heq] at hn
      omega
    unfold roundRatio
    dsimp only
    rw [heq]
    split_ifs <;> omega

theorem roundRatio_zero (d : Nat) : roundRatio 0 d = 0 := by
  simp [roundRatio]

section Nearest

variable {format : Format} {n n' d : Nat}

theorem scale_value (n : Nat) (hd : d ≠ 0) (e : Int) :
    ((scale n d e).1 : ℚ) = n / d / 2 ^ e * (scale n d e).2 := by
  have hd' : (d : ℚ) ≠ 0 := by exact_mod_cast hd
  rw [scale, zpow_eq_div (by norm_num)]
  push_cast
  field_simp

-- The ratio over the chosen exponent fits the width.
theorem lt_of_chosen (format : Format) (n : Nat) (hd : d ≠ 0) :
    (n / d : ℚ) < 2 ^ format.width * 2 ^ chosen format n d := by
  have hpos := scale_snd_pos n d (chosen format n d) hd
  have hlt := (Nat.div_lt_iff_lt_mul hpos).mp (chosen_lt format n d hd)
  have hcast : ((scale n d (chosen format n d)).1 : ℚ) <
      2 ^ format.width * (scale n d (chosen format n d)).2 := by exact_mod_cast hlt
  rw [scale_value n hd] at hcast
  have hratio := lt_of_mul_lt_mul_right hcast (Nat.cast_nonneg _)
  exact (div_lt_iff₀ (by positivity)).mp hratio

-- And it has this width, unless the exponent is the least one.
theorem le_of_chosen (hw : 0 < format.width) (hn : n ≠ 0) (hd : d ≠ 0)
    (hleast : format.least < chosen format n d) :
    (2 ^ (format.width - 1) * 2 ^ chosen format n d : ℚ) ≤ n / d := by
  have hpos := scale_snd_pos n d (chosen format n d) hd
  have hle := (Nat.le_div_iff_mul_le hpos).mp (le_chosen format n d hw hn hd hleast)
  have hcast : (2 ^ (format.width - 1) * (scale n d (chosen format n d)).2 : ℚ) ≤
      (scale n d (chosen format n d)).1 := by exact_mod_cast hle
  rw [scale_value n hd] at hcast
  have hratio := le_of_mul_le_mul_right hcast (by exact_mod_cast hpos)
  exact (le_div_iff₀ (by positivity)).mp hratio

theorem pow_pred_mul {w : Nat} (hw : 0 < w) (e : Int) :
    (2 ^ (w - 1) * 2 ^ (e + 1) : ℚ) = 2 ^ w * 2 ^ e := by
  obtain ⟨k, rfl⟩ : ∃ k, w = k + 1 := ⟨w - 1, by omega⟩
  rw [zpow_add_one₀ (by norm_num), Nat.add_sub_cancel, pow_succ]
  ring

theorem least_le_chosen (format : Format) (n d : Nat) : format.least ≤ chosen format n d :=
  (le_max_left ..).trans (guess_le_chosen format n d).1

theorem chosen_mono (hw : 0 < format.width) (hn : n ≠ 0) (hd : d ≠ 0) (h : n ≤ n') :
    chosen format n d ≤ chosen format n' d := by
  by_contra hlt
  have hstep : chosen format n' d + 1 ≤ chosen format n d := by omega
  have hleast : format.least < chosen format n d :=
    (least_le_chosen format n' d).trans_lt (by omega)
  refine lt_irrefl (n / d : ℚ) ?_
  calc (n / d : ℚ) ≤ n' / d := by gcongr
    _ < 2 ^ format.width * 2 ^ chosen format n' d := lt_of_chosen format n' hd
    _ = 2 ^ (format.width - 1) * 2 ^ (chosen format n' d + 1) := (pow_pred_mul hw _).symm
    _ ≤ 2 ^ (format.width - 1) * 2 ^ chosen format n d := by gcongr; norm_num
    _ ≤ n / d := le_of_chosen hw hn hd hleast

-- A mantissa that moves to the next exponent denotes the same number there.
theorem nearest_value (hw : 0 < format.width) (n d : Nat) :
    ((nearest format n d).1 : ℚ) * 2 ^ (nearest format n d).2 =
      roundRatio (scale n d (chosen format n d)).1 (scale n d (chosen format n d)).2 *
        2 ^ chosen format n d := by
  rw [nearest_eq]
  dsimp only
  split_ifs with h
  · rw [h]
    push_cast
    exact pow_pred_mul hw _
  · rfl

theorem nearest_mono (hw : 0 < format.width) (hn : n ≠ 0) (hd : d ≠ 0) (h : n ≤ n') :
    ((nearest format n d).1 : ℚ) * 2 ^ (nearest format n d).2 ≤
      (nearest format n' d).1 * 2 ^ (nearest format n' d).2 := by
  rw [nearest_value hw, nearest_value hw]
  have hchosen : chosen format n d ≤ chosen format n' d := chosen_mono hw hn hd h
  rcases hchosen.eq_or_lt with heq | hlt
  · rw [heq]
    gcongr
    exact roundRatio_mono _ (Nat.mul_le_mul_right _ h)
  -- The rounded mantissa is at most one power of two, which the other one reaches a place higher.
  · have hn' : n' ≠ 0 := by omega
    have hupper := (roundRatio_le (scale n d (chosen format n d)).1
      (scale n d (chosen format n d)).2).trans (chosen_lt format n d hd)
    have hlower := (le_chosen format n' d hw hn' hd
      ((least_le_chosen format n d).trans_lt hlt)).trans (div_le_roundRatio ..)
    calc _ ≤ (2 ^ format.width * 2 ^ chosen format n d : ℚ) := by
          gcongr
          exact_mod_cast hupper
      _ = 2 ^ (format.width - 1) * 2 ^ (chosen format n d + 1) := (pow_pred_mul hw _).symm
      _ ≤ 2 ^ (format.width - 1) * 2 ^ chosen format n' d := by
          gcongr
          · norm_num
          · omega
      _ ≤ _ := by
          gcongr
          exact_mod_cast hlower

end Nearest

-- The number to which a natural number is rounded.
def roundedValue (n : Nat) : ℚ := (nearest double n 1).1 * 2 ^ (nearest double n 1).2

theorem roundedValue_nonneg (n : Nat) : 0 ≤ roundedValue n := by
  rw [roundedValue]
  positivity

theorem roundedValue_zero : roundedValue 0 = 0 := by
  rw [roundedValue, nearest_value (by decide), scale, Nat.zero_mul, roundRatio_zero]
  exact zero_mul _

theorem roundedValue_mono {n n' : Nat} (h : n ≤ n') : roundedValue n ≤ roundedValue n' := by
  rcases Nat.eq_zero_or_pos n with rfl | hn
  · rw [roundedValue_zero]
    exact roundedValue_nonneg n'
  · exact nearest_mono (by decide) hn.ne' (by decide) h

theorem value_ofInt (n : Int) (hlt : n.natAbs < 2 ^ 64) :
    (ofInt n).value = if n < 0 then -roundedValue n.natAbs else roundedValue n.natAbs := by
  by_cases hn : n = 0
  · subst hn
    rw [if_neg (by decide), Int.natAbs_zero, roundedValue_zero]
    exact zero_mul _
  · have hne : n.natAbs ≠ 0 := by omega
    obtain ⟨hc, -⟩ := nearest_of_lt n.natAbs hne hlt
    simp only [ofInt, ofRatio, if_neg hne, pack, hc, dif_pos, value, signed, decide_eq_true_eq,
      roundedValue]
    split_ifs
    · push_cast
      ring
    · rfl

theorem value_ofInt64_mono {m n : Int64} (h : m.toInt ≤ n.toInt) :
    (ofInt64 m).value ≤ (ofInt64 n).value := by
  rw [ofInt64, ofInt64, value_ofInt _ (natAbs_toInt_lt m), value_ofInt _ (natAbs_toInt_lt n)]
  have hm := roundedValue_nonneg m.toInt.natAbs
  have hn := roundedValue_nonneg n.toInt.natAbs
  split_ifs with hneg hneg'
  · exact neg_le_neg (roundedValue_mono (by omega))
  · linarith
  · omega
  · exact roundedValue_mono (by omega)

end TableFlow.Decimal
