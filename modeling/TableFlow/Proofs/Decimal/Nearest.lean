import TableFlow.Proofs.Decimal.NonFinite
import TableFlow.Proofs.Decimal.Value

namespace TableFlow.Decimal

variable {m n d : Nat} {e : Int}

-- Rounding goes at most half a step, and by half a step only to an even number.
theorem roundRatio_le_half (a : Nat) {b : Nat} (hb : 0 < b) :
    2 * (roundRatio a b * b) ≤ 2 * a + b ∧ 2 * a ≤ 2 * (roundRatio a b * b) + b ∧
      (roundRatio a b % 2 = 1 →
        2 * (roundRatio a b * b) < 2 * a + b ∧ 2 * a < 2 * (roundRatio a b * b) + b) := by
  have ha := Nat.div_add_mod a b
  have hrest := Nat.mod_lt a hb
  rw [Nat.mul_comm] at ha
  unfold roundRatio
  dsimp only
  generalize a / b = q at *
  have hsucc : (q + 1) * b = q * b + b := Nat.succ_mul q b
  split_ifs with hless hmore
  · omega
  · rw [hsucc]
    omega
  · rcases Nat.mod_two_eq_zero_or_one q with hq | hq <;> rw [hq]
    · rw [Nat.add_zero]
      omega
    · rw [hsucc]
      omega

theorem roundRatio_bounds (a : Nat) {b : Nat} (hb : 0 < b) :
    (roundRatio a b - 1 / 2 : ℚ) ≤ a / b ∧ (a / b : ℚ) ≤ roundRatio a b + 1 / 2 ∧
      (roundRatio a b % 2 = 1 →
        (roundRatio a b - 1 / 2 : ℚ) < a / b ∧ (a / b : ℚ) < roundRatio a b + 1 / 2) := by
  have hb' : (0 : ℚ) < b := by exact_mod_cast hb
  obtain ⟨hlow, hhigh, hodd⟩ := roundRatio_le_half a hb
  have hlow' : (2 * (roundRatio a b * b) : ℚ) ≤ 2 * a + b := by exact_mod_cast hlow
  have hhigh' : (2 * a : ℚ) ≤ 2 * (roundRatio a b * b) + b := by exact_mod_cast hhigh
  rw [le_div_iff₀ hb', div_le_iff₀ hb', lt_div_iff₀ hb', div_lt_iff₀ hb']
  refine ⟨by linarith, by linarith, fun h => ?_⟩
  have hlow'' : (2 * (roundRatio a b * b) : ℚ) < 2 * a + b := by exact_mod_cast (hodd h).1
  have hhigh'' : (2 * a : ℚ) < 2 * (roundRatio a b * b) + b := by exact_mod_cast (hodd h).2
  constructor <;> linarith

theorem normalized_nearest (hn : n ≠ 0) (hd : d ≠ 0) :
    Normalized (nearest double n d).1 (nearest double n d).2 := by
  obtain ⟨hm, hguess, -, hfull⟩ := nearest_canonical double n d (by decide) hn hd
  have hleast : (-1074 : Int) ≤ guess double n d := le_max_left ..
  exact ⟨hm, by omega, hfull⟩

-- A ratio lies in the neighbourhood of the number to which it is rounded.
theorem holds_nearest (hn : n ≠ 0) (hd : d ≠ 0) :
    (neighbourhood double (nearest double n d).1 (nearest double n d).2).Holds (n / d) := by
  have hpos := scale_snd_pos n d (chosen double n d) hd
  have hratio : (n / d : ℚ) = (scale n d (chosen double n d)).1 /
      (scale n d (chosen double n d)).2 * 2 ^ chosen double n d := by
    have hpos' : (0 : ℚ) < (scale n d (chosen double n d)).2 := by exact_mod_cast hpos
    rw [scale_value n hd]
    field_simp
  have hleast := least_le_chosen double n d
  have hfit := lt_of_chosen double n hd
  have hwide (hleast : double.least < chosen double n d) :
      (2 ^ (double.width - 1) * 2 ^ chosen double n d : ℚ) ≤ n / d :=
    le_of_chosen (by decide) hn hd hleast
  obtain ⟨hlow, hhigh, hodd⟩ := roundRatio_bounds (scale n d (chosen double n d)).1 hpos
  have hu : (0 : ℚ) < 2 ^ chosen double n d := by positivity
  rw [nearest_eq]
  dsimp only
  rw [hratio] at hfit hwide ⊢
  generalize roundRatio (scale n d (chosen double n d)).1 (scale n d (chosen double n d)).2 = m at *
  have hq : (0 : ℚ) ≤ (scale n d (chosen double n d)).1 / (scale n d (chosen double n d)).2 := by
    positivity
  generalize ((scale n d (chosen double n d)).1 / (scale n d (chosen double n d)).2 : ℚ) = q at *
  generalize chosen double n d = c at *
  have hlt : q < 2 ^ 53 := lt_of_mul_lt_mul_right hfit hu.le
  split_ifs with hm
  -- The mantissa has become the next power of two, below which the steps are smaller.
  · have hm' : (m : ℚ) = 2 ^ 53 := by
      rw [hm]
      norm_num [double]
    have hdouble : (2 : ℚ) ^ (c + 1) = 2 * 2 ^ c := by
      rw [zpow_add_one₀ (by norm_num), mul_comm]
    show (neighbourhood double (2 ^ 52) (c + 1)).Holds (q * 2 ^ c)
    refine holds_of_le (by positivity) ?_ ?_ fun h => absurd h (by decide)
    · rw [if_pos ⟨rfl, Int.lt_add_one_of_le hleast⟩, hdouble, ← mul_assoc]
      refine mul_le_mul_of_nonneg_right ?_ hu.le
      push_cast
      linarith
    · rw [hdouble, ← mul_assoc]
      refine mul_le_mul_of_nonneg_right ?_ hu.le
      push_cast
      linarith
  · refine holds_of_le (by positivity) ?_ (mul_le_mul_of_nonneg_right hhigh hu.le) fun h =>
      ⟨mul_lt_mul_of_pos_right (hodd h).1 hu, mul_lt_mul_of_pos_right (hodd h).2 hu⟩
    refine mul_le_mul_of_nonneg_right ?_ hu.le
    split
    next hnarrow =>
      have hfull : (2 : ℚ) ^ 52 ≤ q := le_of_mul_le_mul_right (hwide hnarrow.2) hu
      rw [hnarrow.1]
      push_cast
      linarith
    next => exact hlow

variable {p q : Decimal} {x : ℚ}

-- The number is rounded to the decimal.
def RoundsTo (x : ℚ) : Decimal → Prop
  | .finite negative m e _ => (neighbourhood double m e).Holds (if negative then -x else x)
  | _ => False

theorem value_finite (negative : Bool) (m : Nat) (e : Int) (hc : Canonical m e) :
    (finite negative m e hc).value = if negative then -(m * 2 ^ e : ℚ) else m * 2 ^ e := by
  cases negative <;> simp [value, signed]

theorem value_neg (p : Decimal) : p.neg.value = -p.value := by
  cases p with
  | nan negative => simp [neg, value]
  | infinite negative => simp [neg, value]
  | finite negative m e hc =>
      rw [neg, value_finite, value_finite]
      cases negative <;> simp

@[simp]
theorem value_zero (negative : Bool) : (zero negative).value = 0 := by
  simp [zero, value, signed]

theorem exists_finite (hp : p.isFinite = true) : ∃ s m e hc, p = finite s m e hc := by
  cases p with
  | nan negative => cases hp
  | infinite negative => cases hp
  | finite s m e hc => exact ⟨s, m, e, hc, rfl⟩

namespace RoundsTo

theorem isFinite (h : RoundsTo x p) : p.isFinite = true := by
  cases p <;> first | rfl | exact h.elim

theorem neg (h : RoundsTo x p) : RoundsTo (-x) p.neg := by
  obtain ⟨s, m, e, hc, rfl⟩ := exists_finite h.isFinite
  cases s <;> simpa [RoundsTo, Decimal.neg] using h

theorem value_le (h : RoundsTo x p) (hq : q.isFinite = true) (hle : x ≤ q.value) :
    p.value ≤ q.value := by
  obtain ⟨s, m, e, hc, rfl⟩ := exists_finite h.isFinite
  obtain ⟨s', m', e', hc', rfl⟩ := exists_finite hq
  have hx := Neighbourhood.Holds.nonneg h
  have hp : (0 : ℚ) ≤ m * 2 ^ e := by positivity
  have hq : (0 : ℚ) ≤ m' * 2 ^ e' := by positivity
  rw [value_finite] at hle ⊢
  rw [value_finite]
  cases s with
  | false =>
      rw [if_neg Bool.false_ne_true] at hx ⊢
      have hle' : x ≤ m' * 2 ^ e' := by split_ifs at hle <;> linarith
      have hmul := (mul_le_of_holds hc.normalized hc'.normalized h hle').1
      split_ifs at hle ⊢ <;> linarith
  | true =>
      rw [if_pos rfl] at hx ⊢
      split_ifs at hle ⊢
      · have hge := le_mul_of_holds hc.normalized hc'.normalized h (le_neg_of_le_neg hle)
        linarith
      · linarith

theorem le_value (h : RoundsTo x p) (hq : q.isFinite = true) (hle : q.value ≤ x) :
    q.value ≤ p.value := by
  have hneg := h.neg.value_le ((isFinite_neg q).trans hq) (by rw [value_neg]; linarith)
  rw [value_neg, value_neg] at hneg
  linarith

theorem value_eq (h : RoundsTo q.value p) (hq : q.isFinite = true) : p.value = q.value :=
  le_antisymm (h.value_le hq le_rfl) (h.le_value hq le_rfl)

end RoundsTo

theorem roundsTo_value (hp : p.isFinite = true) : RoundsTo p.value p := by
  obtain ⟨s, m, e, hc, rfl⟩ := exists_finite hp
  rw [value_finite]
  cases s
  · exact holds_self m e
  · rw [RoundsTo, if_pos rfl, if_pos rfl, neg_neg]
    exact holds_self m e

section Operations

variable {s : Bool} {a b : Decimal}

theorem ofRatio_of_holds (hc : Canonical m e) (hn : n ≠ 0) (hd : d ≠ 0)
    (h : (neighbourhood double m e).Holds (n / d)) : ofRatio s n d = .finite s m e hc := by
  obtain ⟨hm, he⟩ := (normalized_nearest hn hd).eq_of_holds hc.normalized (holds_nearest hn hd) h
  rw [ofRatio, if_neg hn]
  dsimp only
  rw [hm, he, pack, dif_pos hc]

-- Only the decimal to which a number other than zero is rounded is the result.
theorem ofRatio_of_roundsTo (hn : n ≠ 0) (hd : d ≠ 0)
    (h : RoundsTo (if s then -(n / d : ℚ) else n / d) p) : ofRatio s n d = p := by
  have hpos : (0 : ℚ) < n / d := by positivity
  obtain ⟨s', m, e, hc, rfl⟩ := exists_finite h.isFinite
  have hx := Neighbourhood.Holds.nonneg h
  cases s <;> cases s' <;> simp only [if_true, if_false, Bool.false_eq_true] at hx
  · exact ofRatio_of_holds hc hn hd h
  · linarith
  · linarith
  · exact ofRatio_of_holds hc hn hd (by simpa [RoundsTo] using h)

-- Between decimals there is a decimal to which a number is rounded.
theorem exists_roundsTo_of_pos (hx : 0 < x) (hq : q.isFinite = true) (hle : x ≤ q.value) :
    ∃ p, RoundsTo x p := by
  have hn : x.num.natAbs ≠ 0 := by
    have hnum := Rat.num_pos.mpr hx
    omega
  have hratio : (x.num.natAbs / x.den : ℚ) = x := by
    rw [Nat.cast_natAbs, abs_of_pos (Rat.num_pos.mpr hx), Rat.num_div_den]
  have h := holds_nearest hn x.den_ne_zero
  rw [hratio] at h
  obtain ⟨s, m, e, hc, rfl⟩ := exists_finite hq
  have hmagnitude : x ≤ m * 2 ^ e := by
    rw [value_finite] at hle
    have hnonneg : (0 : ℚ) ≤ m * 2 ^ e := by positivity
    split_ifs at hle <;> linarith
  have hnormalized := normalized_nearest hn x.den_ne_zero
  have hexponent := (mul_le_of_holds hnormalized hc.normalized h hmagnitude).2
  have hgreatest := hc.2.2.1
  obtain ⟨hwidth, hleast, hfull⟩ := hnormalized
  exact ⟨.finite false _ _ ⟨hwidth, hleast, by omega, hfull⟩, h⟩

theorem exists_roundsTo (hp : p.isFinite = true) (hq : q.isFinite = true) (hle : p.value ≤ x)
    (hle' : x ≤ q.value) : ∃ r, RoundsTo x r := by
  rcases lt_trichotomy x 0 with hx | rfl | hx
  · obtain ⟨r, hr⟩ := exists_roundsTo_of_pos (neg_pos.mpr hx) ((isFinite_neg p).trans hp)
      (by rw [value_neg]; linarith)
    have hneg := hr.neg
    rw [neg_neg] at hneg
    exact ⟨_, hneg⟩
  · exact ⟨zero false, by simpa using roundsTo_value (p := zero false) rfl⟩
  · exact exists_roundsTo_of_pos hx hq hle'

theorem ofScaled_of_roundsTo {z : Int} (hz : z ≠ 0) (h : RoundsTo (z * 2 ^ e) p) :
    ofScaled (z < 0) z.natAbs e = p := by
  refine ofRatio_of_roundsTo (by positivity) (by positivity) ?_
  have hratio : ((z.natAbs * 2 ^ e.toNat : ℕ) / (2 ^ (-e).toNat : ℕ) : ℚ) = |(z : ℚ)| * 2 ^ e := by
    rw [zpow_eq_div (by norm_num)]
    push_cast
    rw [Nat.cast_natAbs, Int.cast_abs, mul_div_assoc]
  rw [hratio]
  simp only [decide_eq_true_eq]
  split_ifs with hneg
  · rwa [abs_of_neg (by exact_mod_cast hneg), neg_mul, neg_neg]
  · rwa [abs_of_nonneg (by exact_mod_cast not_lt.mp hneg)]

-- A sum denotes what the exact sum is rounded to.
theorem value_add (ha : a.isFinite = true) (hb : b.isFinite = true)
    (h : RoundsTo (a.value + b.value) p) :
    (a.add b).isFinite = true ∧ (a.add b).value = p.value := by
  obtain ⟨s, m, e, hc, rfl⟩ := exists_finite ha
  obtain ⟨s', m', e', hc', rfl⟩ := exists_finite hb
  have hsum : (finite s m e hc).value + (finite s' m' e' hc').value =
      ((align (signed s m) e (signed s' m') e').1 + (align (signed s m) e (signed s' m') e').2 : Int) *
        2 ^ min e e' := by
    simp only [value, align]
    rw [Int.cast_add, add_mul, shift_value _ (min_le_left e e'), shift_value _ (min_le_right e e')]
  rw [hsum] at h
  rw [add]
  dsimp only
  generalize (align (signed s m) e (signed s' m') e').1 + (align (signed s m) e (signed s' m') e').2 =
    z at *
  split_ifs with hz
  · subst hz
    rw [Int.cast_zero, zero_mul, ← value_zero (s && s')] at h
    exact ⟨rfl, (h.value_eq rfl).symm⟩
  · rw [ofScaled_of_roundsTo hz h]
    exact ⟨h.isFinite, rfl⟩

theorem roundsTo_ofInt {n : Int} (hlt : n.natAbs < 2 ^ 64) : RoundsTo n (ofInt n) := by
  by_cases hn : n = 0
  · subst hn
    rw [Int.cast_zero, ← value_zero false]
    exact roundsTo_value rfl
  · have hne : n.natAbs ≠ 0 := by omega
    obtain ⟨hc, -⟩ := nearest_of_lt n.natAbs hne hlt
    have h := holds_nearest hne one_ne_zero
    simp only [ofInt, ofRatio, if_neg hne, pack, hc, dif_pos, RoundsTo, decide_eq_true_eq]
    rw [Nat.cast_one, div_one, Nat.cast_natAbs, Int.cast_abs] at h
    split_ifs with hneg
    · rwa [abs_of_neg (by exact_mod_cast hneg)] at h
    · rwa [abs_of_nonneg (by exact_mod_cast not_lt.mp hneg)] at h

end Operations

-- A mantissa that does not have its full width is doubled until it has, or until the exponent is
-- the least one.
theorem exists_canonical_of_lt (k : Nat) (hm : m < 2 ^ 53) (he : e = k - 1074)
    (hgreatest : e ≤ 971) : ∃ m' e', Canonical m' e' ∧ (m' * 2 ^ e' : ℚ) = m * 2 ^ e := by
  induction k generalizing m e with
  | zero => exact ⟨m, e, ⟨hm, by omega, hgreatest, .inr (by omega)⟩, rfl⟩
  | succ k ih =>
      by_cases hfull : 2 ^ 52 ≤ m
      · exact ⟨m, e, ⟨hm, by omega, hgreatest, .inl hfull⟩, rfl⟩
      · obtain ⟨m', e', hc, hvalue⟩ := ih (m := 2 * m) (e := e - 1) (by omega) (by omega) (by omega)
        refine ⟨m', e', hc, hvalue.trans ?_⟩
        rw [zpow_sub_one₀ (by norm_num)]
        push_cast
        ring

theorem exists_canonical (hm : m ≤ 2 ^ 53) (hleast : -1074 ≤ e) (hgreatest : e ≤ 970) :
    ∃ m' e', Canonical m' e' ∧ (m' * 2 ^ e' : ℚ) = m * 2 ^ e := by
  rcases Nat.lt_or_eq_of_le hm with hlt | rfl
  · exact exists_canonical_of_lt (e + 1074).toNat hlt (by omega) (by omega)
  · refine ⟨2 ^ 52, e + 1, ⟨by decide, by omega, by omega, .inl le_rfl⟩, ?_⟩
    rw [zpow_add_one₀ (by norm_num)]
    push_cast
    ring

theorem exists_value {n : Int} (hn : n.natAbs ≤ 2 ^ 53) (hleast : -1074 ≤ e) (hgreatest : e ≤ 970) :
    ∃ p : Decimal, p.isFinite = true ∧ p.value = n * 2 ^ e := by
  obtain ⟨m, e', hc, hvalue⟩ := exists_canonical hn hleast hgreatest
  refine ⟨.finite (decide (n < 0)) m e' hc, rfl, ?_⟩
  rw [value_finite, hvalue, Nat.cast_natAbs, Int.cast_abs]
  split_ifs with hneg
  · rw [abs_of_neg (by exact_mod_cast of_decide_eq_true hneg), neg_mul, neg_neg]
  · rw [abs_of_nonneg (by exact_mod_cast not_lt.mp fun h => hneg (decide_eq_true h))]

section Distance

variable {m' : Nat} {e' : Int} {q : Decimal}

-- The next greater number is at least a step away.
theorem add_step_le (hc : Normalized m e) (hc' : Normalized m' e')
    (hlt : (m * 2 ^ e : ℚ) < m' * 2 ^ e') : ((m + 1) * 2 ^ e : ℚ) ≤ m' * 2 ^ e' := by
  have hexponent : e ≤ e' := by
    by_contra hlt'
    exact lt_asymm hlt
      (lt_of_holds_of_exponent hc' hc (not_le.mp hlt') (holds_self m' e') (holds_self m e))
  have hu : (0 : ℚ) < 2 ^ e := by positivity
  have hshift := shift_value m' hexponent
  rw [Int.cast_natCast] at hshift
  rw [← hshift] at hlt ⊢
  refine mul_le_mul_of_nonneg_right ?_ hu.le
  have hmantissa := lt_of_mul_lt_mul_right hlt hu.le
  exact_mod_cast hmantissa

-- So is the next smaller one, or half a step where the steps below are smaller.
theorem le_sub_step (hc : Normalized m e) (hc' : Normalized m' e')
    (hlt : (m' * 2 ^ e' : ℚ) < m * 2 ^ e) :
    (m' * 2 ^ e' : ℚ) ≤ (m - if m = 2 ^ 52 ∧ -1074 < e then 1 / 2 else 1) * 2 ^ e := by
  have hu : (0 : ℚ) < 2 ^ e := by positivity
  have hexponent : e' ≤ e := by
    by_contra hlt'
    exact lt_asymm hlt
      (lt_of_holds_of_exponent hc hc' (not_le.mp hlt') (holds_self m e) (holds_self m' e'))
  rcases hexponent.eq_or_lt with rfl | hless
  · refine mul_le_mul_of_nonneg_right ?_ hu.le
    have hmantissa := lt_of_mul_lt_mul_right hlt hu.le
    have hsucc : (m' : ℚ) + 1 ≤ m := by exact_mod_cast hmantissa
    split_ifs <;> linarith
  · have hwidth : (m' : ℚ) ≤ 2 ^ 53 - 1 := by
      rw [le_sub_iff_add_le]
      exact_mod_cast hc'.1
    have hleast := hc'.2.1
    have hfull : 2 ^ 52 ≤ m := hc.2.2.resolve_right (by omega)
    have hpow : 2 * (2 : ℚ) ^ e' ≤ 2 ^ e := by
      rw [mul_comm, ← zpow_add_one₀ (by norm_num)]
      exact zpow_le_zpow_right₀ (by norm_num) hless
    calc (m' * 2 ^ e' : ℚ) ≤ (2 ^ 53 - 1) * 2 ^ e' :=
          mul_le_mul_of_nonneg_right hwidth (by positivity)
      _ = (2 ^ 52 - 1 / 2) * (2 * 2 ^ e') := by ring
      _ ≤ (2 ^ 52 - 1 / 2) * 2 ^ e := mul_le_mul_of_nonneg_left hpow (by norm_num)
      _ ≤ _ := by
          refine mul_le_mul_of_nonneg_right ?_ hu.le
          by_cases hfirst : m = 2 ^ 52
          · rw [if_pos ⟨hfirst, by omega⟩, hfirst]
            norm_num
          · have hm : (2 : ℚ) ^ 52 + 1 ≤ m := by exact_mod_cast (by omega : 2 ^ 52 + 1 ≤ m)
            rw [if_neg fun hnarrow => hfirst hnarrow.1]
            linarith

-- No number is nearer than the one in whose neighbourhood it is.
theorem abs_sub_le_of_holds (hc : Normalized m e) (hc' : Normalized m' e')
    (h : (neighbourhood double m e).Holds x) :
    |x - m * 2 ^ e| ≤ |x - m' * 2 ^ e'| := by
  have hge := h.ge.1
  have hle := h.le.1
  have hu : (0 : ℚ) < 2 ^ e := by positivity
  rcases lt_trichotomy (m * 2 ^ e : ℚ) (m' * 2 ^ e') with hlt | heq | hgt
  · have hstep := add_step_le hc hc' hlt
    rw [abs_sub_comm x (m' * 2 ^ e')]
    refine le_trans (abs_le.mpr ⟨?_, ?_⟩) (le_abs_self _)
    · linarith
    · linarith
  · rw [heq]
  · have hstep := le_sub_step hc hc' hgt
    refine le_trans (abs_le.mpr ⟨?_, ?_⟩) (le_abs_self _)
    · split_ifs at hge hstep <;> linarith
    · linarith

theorem RoundsTo.abs_sub_le (h : RoundsTo x p) (hq : q.isFinite = true) :
    |x - p.value| ≤ |x - q.value| := by
  obtain ⟨s, m, e, hc, rfl⟩ := exists_finite h.isFinite
  obtain ⟨s', m', e', hc', rfl⟩ := exists_finite hq
  have hmagnitude : |(|x| - m * 2 ^ e)| = |x - (finite s m e hc).value| ∧
      (neighbourhood double m e).Holds |x| := by
    have hx := Neighbourhood.Holds.nonneg h
    rw [value_finite]
    cases s with
    | false =>
        rw [if_neg Bool.false_ne_true] at hx ⊢
        rw [abs_of_nonneg hx]
        exact ⟨rfl, h⟩
    | true =>
        rw [if_pos rfl] at hx ⊢
        rw [abs_of_nonpos (neg_nonneg.mp hx), ← abs_neg]
        exact ⟨by ring_nf, h⟩
  have hvalue : |(finite s' m' e' hc').value| = m' * 2 ^ e' := by
    have hnonneg : (0 : ℚ) ≤ m' * 2 ^ e' := by positivity
    rw [value_finite]
    split_ifs
    · rw [abs_neg, abs_of_nonneg hnonneg]
    · rw [abs_of_nonneg hnonneg]
  calc |x - (finite s m e hc).value| = |(|x| - m * 2 ^ e)| := hmagnitude.1.symm
    _ ≤ |(|x| - m' * 2 ^ e')| := abs_sub_le_of_holds hc.normalized hc'.normalized hmagnitude.2
    _ = |(|x| - |(finite s' m' e' hc').value|)| := by rw [hvalue]
    _ ≤ |x - (finite s' m' e' hc').value| := abs_abs_sub_abs_le_abs_sub _ _

-- A number other than zero has the sign of the decimal to which it is rounded, and that decimal is
-- the only one; zero is rounded to both zeros.
theorem RoundsTo.eq (h : RoundsTo x p) (h' : RoundsTo x q) (hsign : p.isNegative = q.isNegative) :
    p = q := by
  obtain ⟨s, m, e, hc, rfl⟩ := exists_finite h.isFinite
  obtain ⟨s', m', e', hc', rfl⟩ := exists_finite h'.isFinite
  obtain rfl : s = s' := hsign
  obtain ⟨rfl, rfl⟩ := eq_of_holds hc hc' h h'
  rfl

end Distance

-- The middle between the greatest decimal and the power of two behind it.
def overflow : ℚ := 2 ^ 1024 - 2 ^ 970

theorem overflow_eq : overflow = (2 ^ 53 - 1 / 2) * 2 ^ (971 : Int) := by
  have hpow : (2 : ℚ) ^ 1024 = 2 ^ 53 * 2 ^ 971 := pow_add 2 53 971
  have hhalf : (2 : ℚ) ^ 971 = 2 ^ 970 * 2 := pow_succ 2 970
  rw [overflow, zpow_ofNat, hpow, hhalf]
  generalize (2 : ℚ) ^ 970 = step
  ring

theorem overflow_eq_next : overflow = (2 ^ 52 - 1 / 4) * 2 ^ (972 : Int) := by
  have hnext : (2 : ℚ) ^ (972 : Int) = 2 ^ (971 : Int) * 2 := zpow_add_one₀ (by norm_num) 971
  rw [overflow_eq, hnext]
  ring

-- What is rounded to a number of the format is below the middle exactly if that number is a decimal.
theorem canonical_iff_lt_overflow (hc : Normalized m e) (h : (neighbourhood double m e).Holds x) :
    Canonical m e ↔ x < overflow := by
  obtain ⟨hwidth, hleast, hfull⟩ := hc
  constructor
  · rintro ⟨-, -, hgreatest, -⟩
    refine (lt_of_normalized ⟨hwidth, hleast, hfull⟩ h).trans_le ?_
    rw [overflow_eq]
    exact mul_le_mul_of_nonneg_left (zpow_le_zpow_right₀ (by norm_num) hgreatest) (by norm_num)
  · intro hx
    refine ⟨hwidth, hleast, ?_, hfull⟩
    by_contra hgreatest
    refine hx.not_ge ?_
    rw [overflow_eq_next]
    refine le_trans ?_ (le_of_normalized ⟨hwidth, hleast, hfull⟩ (by omega) h)
    exact mul_le_mul_of_nonneg_left (zpow_le_zpow_right₀ (by norm_num) (by omega)) (by norm_num)

theorem RoundsTo.abs_lt_overflow (h : RoundsTo x p) : |x| < overflow := by
  obtain ⟨s, m, e, hc, rfl⟩ := exists_finite h.isFinite
  have hx := Neighbourhood.Holds.nonneg h
  have hlt := (canonical_iff_lt_overflow hc.normalized h).mp hc
  cases s with
  | false =>
      rw [if_neg Bool.false_ne_true] at hx hlt
      rwa [abs_of_nonneg hx]
  | true =>
      rw [if_pos rfl] at hx hlt
      rwa [← abs_neg, abs_of_nonneg hx]

end TableFlow.Decimal
