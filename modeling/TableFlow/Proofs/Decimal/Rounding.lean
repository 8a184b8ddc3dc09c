import Mathlib.Algebra.Order.Group.Nat
import Mathlib.Tactic.Ring
import TableFlow.Decimal.Arithmetic

namespace TableFlow.Decimal

-- The bit lengths of both numbers bound their ratio from above.
theorem scale_lt (n d : Nat) (e : Int) (k : Nat) (hd : d ≠ 0)
    (hk : (n.log2 : Int) + 1 ≤ k + d.log2 + e) :
    (scale n d e).1 < 2 ^ k * (scale n d e).2 := by
  have hn : n < 2 ^ (n.log2 + 1) := Nat.lt_log2_self
  have hlow : 2 ^ d.log2 ≤ d := Nat.log2_self_le hd
  calc n * 2 ^ (-e).toNat < 2 ^ (n.log2 + 1) * 2 ^ (-e).toNat :=
        Nat.mul_lt_mul_of_pos_right hn (Nat.two_pow_pos _)
    _ = 2 ^ (n.log2 + 1 + (-e).toNat) := (Nat.pow_add ..).symm
    _ ≤ 2 ^ (k + d.log2 + e.toNat) := Nat.pow_le_pow_right (by decide) (by omega)
    _ = 2 ^ k * (2 ^ d.log2 * 2 ^ e.toNat) := by rw [Nat.pow_add, Nat.pow_add, Nat.mul_assoc]
    _ ≤ 2 ^ k * (d * 2 ^ e.toNat) :=
        Nat.mul_le_mul_left _ (Nat.mul_le_mul_right _ hlow)

-- And from below.
theorem le_scale (n d : Nat) (e : Int) (k : Nat) (hn : n ≠ 0)
    (hk : (k : Int) + d.log2 + 1 + e ≤ n.log2) :
    2 ^ k * (scale n d e).2 ≤ (scale n d e).1 := by
  have hd : d < 2 ^ (d.log2 + 1) := Nat.lt_log2_self
  have hlow : 2 ^ n.log2 ≤ n := Nat.log2_self_le hn
  calc 2 ^ k * (d * 2 ^ e.toNat) ≤ 2 ^ k * (2 ^ (d.log2 + 1) * 2 ^ e.toNat) :=
        Nat.mul_le_mul_left _ (Nat.mul_le_mul_right _ hd.le)
    _ = 2 ^ (k + (d.log2 + 1) + e.toNat) := by
        rw [Nat.pow_add 2 (k + (d.log2 + 1)), Nat.pow_add 2 k, Nat.mul_assoc]
    _ ≤ 2 ^ (n.log2 + (-e).toNat) := Nat.pow_le_pow_right (by decide) (by omega)
    _ = 2 ^ n.log2 * 2 ^ (-e).toNat := Nat.pow_add ..
    _ ≤ n * 2 ^ (-e).toNat := Nat.mul_le_mul_right _ hlow

-- The next exponent halves the ratio.
theorem le_scale_succ (n d : Nat) (e : Int) (k : Nat)
    (h : 2 ^ (k + 1) * (scale n d e).2 ≤ (scale n d e).1) :
    2 ^ k * (scale n d (e + 1)).2 ≤ (scale n d (e + 1)).1 := by
  simp only [scale] at h ⊢
  by_cases he : 0 ≤ e
  · have hn : (-(e + 1)).toNat = 0 := by omega
    have hn' : (-e).toNat = 0 := by omega
    have hs : (e + 1).toNat = e.toNat + 1 := by omega
    rw [hn'] at h
    rw [hn, hs, Nat.pow_succ]
    calc 2 ^ k * (d * (2 ^ e.toNat * 2)) = 2 ^ (k + 1) * (d * 2 ^ e.toNat) := by ring
      _ ≤ n * 2 ^ 0 := h
  · have hn : (e + 1).toNat = 0 := by omega
    have hn' : e.toNat = 0 := by omega
    have hs : (-e).toNat = (-(e + 1)).toNat + 1 := by omega
    rw [hn', hs, Nat.pow_succ] at h
    rw [hn]
    have : 2 * (2 ^ k * (d * 2 ^ 0)) ≤ 2 * (n * 2 ^ (-(e + 1)).toNat) := by
      calc 2 * (2 ^ k * (d * 2 ^ 0)) = 2 ^ (k + 1) * (d * 2 ^ 0) := by ring
        _ ≤ n * (2 ^ (-(e + 1)).toNat * 2) := h
        _ = 2 * (n * 2 ^ (-(e + 1)).toNat) := by ring
    omega

theorem div_le_roundRatio (n d : Nat) : n / d ≤ roundRatio n d := by
  unfold roundRatio
  dsimp only
  split_ifs <;> omega

theorem roundRatio_le (n d : Nat) : roundRatio n d ≤ n / d + 1 := by
  unfold roundRatio
  dsimp only
  split_ifs <;> omega

-- The first exponent tried, and the one that is used.
def guess (format : Format) (n d : Nat) : Int :=
  max format.least ((n.log2 : Int) - d.log2 - format.width)

def chosen (format : Format) (n d : Nat) : Int :=
  let (a, b) := scale n d (guess format n d)
  if 2 ^ format.width ≤ a / b then guess format n d + 1 else guess format n d

theorem nearest_eq (format : Format) (n d : Nat) :
    nearest format n d =
      let m := roundRatio (scale n d (chosen format n d)).1 (scale n d (chosen format n d)).2
      if m = 2 ^ format.width then (2 ^ (format.width - 1), chosen format n d + 1)
      else (m, chosen format n d) := rfl

theorem scale_snd_pos (n d : Nat) (e : Int) (hd : d ≠ 0) : 0 < (scale n d e).2 :=
  Nat.mul_pos (Nat.pos_of_ne_zero hd) (Nat.two_pow_pos _)

theorem chosen_lt (format : Format) (n d : Nat) (hd : d ≠ 0) :
    (scale n d (chosen format n d)).1 / (scale n d (chosen format n d)).2 < 2 ^ format.width := by
  unfold chosen
  dsimp only
  split_ifs with h
  · rw [Nat.div_lt_iff_lt_mul (scale_snd_pos n d _ hd)]
    apply scale_lt n d _ _ hd
    simp only [guess]
    omega
  · omega

theorem le_chosen (format : Format) (n d : Nat) (hw : 0 < format.width) (hn : n ≠ 0) (hd : d ≠ 0)
    (hleast : format.least < chosen format n d) :
    2 ^ (format.width - 1) ≤
      (scale n d (chosen format n d)).1 / (scale n d (chosen format n d)).2 := by
  rw [Nat.le_div_iff_mul_le (scale_snd_pos n d _ hd)]
  unfold chosen at hleast ⊢
  dsimp only at hleast ⊢
  split_ifs at hleast ⊢ with h
  · apply le_scale_succ
    rw [Nat.sub_add_cancel hw]
    exact (Nat.le_div_iff_mul_le (scale_snd_pos n d _ hd)).mp h
  · apply le_scale n d _ _ hn
    simp only [guess] at hleast ⊢
    omega

theorem guess_le_chosen (format : Format) (n d : Nat) :
    guess format n d ≤ chosen format n d ∧ chosen format n d ≤ guess format n d + 1 := by
  unfold chosen
  dsimp only
  split_ifs <;> omega

-- What `nearest` returns is in canonical form, apart from a bound on the exponent.
theorem nearest_canonical (format : Format) (n d : Nat) (hw : 0 < format.width) (hn : n ≠ 0)
    (hd : d ≠ 0) :
    (nearest format n d).1 < 2 ^ format.width ∧
    guess format n d ≤ (nearest format n d).2 ∧ (nearest format n d).2 ≤ guess format n d + 2 ∧
    (2 ^ (format.width - 1) ≤ (nearest format n d).1 ∨ (nearest format n d).2 = format.least) := by
  have hlt := chosen_lt format n d hd
  have hround := roundRatio_le (scale n d (chosen format n d)).1 (scale n d (chosen format n d)).2
  have hfloor :=
    div_le_roundRatio (scale n d (chosen format n d)).1 (scale n d (chosen format n d)).2
  have hguess := guess_le_chosen format n d
  rw [nearest_eq]
  dsimp only
  split_ifs with h
  · refine ⟨Nat.pow_lt_pow_right (by decide) (by omega), by omega, by omega, .inl le_rfl⟩
  · refine ⟨by omega, hguess.1, by omega, ?_⟩
    by_cases hleast : format.least < chosen format n d
    · exact .inl ((le_chosen format n d hw hn hd hleast).trans hfloor)
    · have : format.least ≤ guess format n d := le_max_left _ _
      exact .inr (by omega)

-- A magnitude of at most 64 bits rounds to a decimal of full width.
theorem nearest_of_lt (n : Nat) (hn : n ≠ 0) (hlt : n < 2 ^ 64) :
    Canonical (nearest double n 1).1 (nearest double n 1).2 ∧ 2 ^ 52 ≤ (nearest double n 1).1 := by
  obtain ⟨hm, hlow, hhigh, hfull⟩ :=
    nearest_canonical double n 1 (by decide) hn (by decide)
  have hlog : n.log2 < 64 := (Nat.log2_lt hn).mpr hlt
  have hone : Nat.log2 1 = 0 := by decide
  simp only [guess, hone, double] at hm hlow hhigh hfull ⊢
  have hwide : 2 ^ 52 ≤ (nearest ⟨53, -1074, 971⟩ n 1).1 := by
    rcases hfull with h | h
    · exact h
    · omega
  exact ⟨⟨hm, by omega, by omega, .inl hwide⟩, hwide⟩

theorem ofInt_of_ne_zero (n : Int) (hn : n ≠ 0) (hlt : n.natAbs < 2 ^ 64) :
    ∃ m e canonical, ofInt n = .finite (decide (n < 0)) m e canonical ∧ m ≠ 0 := by
  have hne : n.natAbs ≠ 0 := by omega
  obtain ⟨hc, hm⟩ := nearest_of_lt n.natAbs hne hlt
  refine ⟨_, _, hc, ?_, by omega⟩
  simp only [ofInt, ofRatio, hne, if_false, pack, hc, dif_pos]

theorem ofInt_isFinite (n : Int) (hlt : n.natAbs < 2 ^ 64) : (ofInt n).isFinite = true := by
  by_cases hn : n = 0
  · subst n
    decide
  · obtain ⟨m, e, hc, he, -⟩ := ofInt_of_ne_zero n hn hlt
    rw [he]
    rfl

theorem natAbs_toInt_lt (n : Int64) : n.toInt.natAbs < 2 ^ 64 := by
  have h := Integer.toInt_bounds n
  omega

theorem ofInt64_isFinite (n : Int64) : (ofInt64 n).isFinite = true :=
  ofInt_isFinite n.toInt (natAbs_toInt_lt n)

end TableFlow.Decimal
