import TableFlow.Proofs.Decimal.Order

namespace TableFlow.Decimal

theorem isFinite_neg (d : Decimal) : d.neg.isFinite = d.isFinite := by
  cases d <;> rfl

theorem isFinite_add (x y : Decimal) (h : x.isFinite = false ∨ y.isFinite = false) :
    (x.add y).isFinite = false := by
  cases x <;> cases y <;> simp [isFinite] at h <;> simp only [add] <;> try rfl
  split <;> rfl

theorem isFinite_sub (x y : Decimal) (h : x.isFinite = false ∨ y.isFinite = false) :
    (x.sub y).isFinite = false := by
  cases y with
  | nan s => exact isFinite_add x _ (.inr rfl)
  | infinite s => exact isFinite_add x _ (.inr rfl)
  | finite s m e hc => exact isFinite_add x _ (h.imp_right fun h => (by cases h))

theorem isFinite_mul (x y : Decimal) (h : x.isFinite = false ∨ y.isFinite = false) :
    (x.mul y).isFinite = false := by
  cases x <;> cases y <;> simp [isFinite] at h <;> simp only [mul] <;> try rfl
  all_goals split <;> rfl

theorem isFinite_sqrt (d : Decimal) (h : d.isFinite = false) : d.sqrt.isFinite = false := by
  cases d with
  | nan s => rfl
  | infinite s => cases s <;> rfl
  | finite s m e hc => cases h

-- A number below zero has no root, be it finite or not.
theorem isFinite_sqrt_of_lt (d : Decimal) (h : d.compare? (zero false) = some .lt) :
    d.sqrt.isFinite = false := by
  cases d with
  | nan s => rfl
  | infinite s => cases s <;> rfl
  | finite s m e hc =>
      obtain ⟨rfl, hm⟩ := (compare?_zero_eq_lt s m e hc).mp h
      simp only [sqrt, if_neg hm, if_true]
      rfl

theorem exists_of_isZero {d : Decimal} (h : d.isZero = true) :
    ∃ s e hc, d = .finite s 0 e hc := by
  cases d with
  | nan s => simp [isZero, same, compare?] at h
  | infinite s => cases s <;> simp [isZero, same, zero, compare?] at h
  | finite s m e hc =>
      obtain rfl := (isZero_finite s m e hc).mp h
      exact ⟨s, e, hc, rfl⟩

theorem isFinite_div_zero (x y : Decimal) (h : y.isZero = true) : (x.div y).isFinite = false := by
  obtain ⟨s, e, hc, rfl⟩ := exists_of_isZero h
  cases x with
  | nan s' => rfl
  | infinite s' => rfl
  | finite s' m' e' hc' =>
      simp only [div, if_true]
      split <;> rfl

theorem isFinite_rem_zero (x y : Decimal) (h : y.isZero = true) : (x.rem y).isFinite = false := by
  obtain ⟨s, e, hc, rfl⟩ := exists_of_isZero h
  cases x <;> rfl

theorem floor?_eq_none (d : Decimal) (h : d.isFinite = false) : d.floor? = none := by
  cases d <;> first | rfl | cases h

theorem ceil?_eq_none (d : Decimal) (h : d.isFinite = false) : d.ceil? = none := by
  cases d <;> first | rfl | cases h

theorem round?_eq_none (d : Decimal) (h : d.isFinite = false) : d.round? = none :=
  floor?_eq_none _ (isFinite_add d half (.inl h))

end TableFlow.Decimal
