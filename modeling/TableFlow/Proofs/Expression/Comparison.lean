import TableFlow.Proofs.Expression.Operators
import TableFlow.Proofs.Formula.Length

namespace TableFlow

namespace Decimal

variable {x y : Decimal}

theorem compare?_of_oppositeZeros (h : OppositeZeros x y) : x.compare? y = some .eq := by
  obtain ⟨hx, hy, -⟩ := h
  obtain ⟨s, e, hc, rfl⟩ := exists_of_isZero hx
  obtain ⟨s', e', hc', rfl⟩ := exists_of_isZero hy
  cases s <;> cases s' <;> simp [compare?, align, signed]

theorem totalCompare_of_oppositeZeros (h : OppositeZeros x y) :
    x.totalCompare y = if x.isNegative then .lt else .gt := by
  obtain ⟨hx, hy, hsigns⟩ := h
  obtain ⟨s, e, hc, rfl⟩ := exists_of_isZero hx
  obtain ⟨s', e', hc', rfl⟩ := exists_of_isZero hy
  -- A zero has the least exponent, so nothing but its sign is left of its bit pattern.
  obtain rfl : e = -1074 := hc.2.2.2.resolve_left (by decide)
  obtain rfl : e' = -1074 := hc'.2.2.2.resolve_left (by decide)
  cases s <;> cases s' <;> first | rfl | exact absurd rfl hsigns

end Decimal

namespace Value

variable {a b : Value}

def isNegative (v : Value) : Bool := v.number?.any Decimal.isNegative

-- Two finite values of one scalar type, or two finite numbers.
def Comparable (a b : Value) : Prop :=
  a.isFinite = true ∧ b.isFinite = true ∧ ∃ σ τ, a.scalarType? = some σ ∧
    b.scalarType? = some τ ∧ (σ = τ ∨ (σ.isNumeric = true ∧ τ.isNumeric = true))

-- An integer is never the negative zero.
theorem OppositeZeros.not_integers {m n : Int64} : ¬ OppositeZeros (integer m) (integer n) := by
  rintro ⟨x, y, hx, hy, hm, hn, hsigns⟩
  cases hx
  cases hy
  rw [Decimal.isZero_ofInt64] at hm hn
  rw [Decimal.ofInt64, Decimal.ofInt64, hm, hn] at hsigns
  exact hsigns rfl

end Value

namespace Operator

variable {a b : Value}

-- Zeros of opposite sign are not both integers, so that they are compared as decimals.
theorem exists_decimals_of_oppositeZeros (h : a.OppositeZeros b) :
    ∃ x y : Decimal, x.OppositeZeros y ∧ compare? a b = x.compare? y ∧
      Formula.cellOrder? a b = some (x.totalCompare y) ∧ a.isNegative = x.isNegative := by
  obtain ⟨x, y, hx, hy, hzeros⟩ := id h
  refine ⟨x, y, hzeros, ?_⟩
  cases a <;> cases hx <;> cases b <;> cases hy
  · exact absurd h Value.OppositeZeros.not_integers
  all_goals exact ⟨rfl, rfl, rfl⟩

end Operator

namespace BinaryOp

variable {op : BinaryOp} {a b : Value}

-- The orders of the operands under which a comparison holds.
def accepts : BinaryOp → Ordering → Bool
  | .less => Ordering.isLT
  | .lessEqual => Ordering.isLE
  | .greater => Ordering.isGT
  | .greaterEqual => Ordering.isGE
  | .equal => Ordering.isEq
  | .notEqual => Ordering.isNe
  | _ => fun _ => false

theorem apply_of_isComparison (hop : op.isComparison = true) (a b : Value) :
    op.apply a b = Operator.test op.symbol op.accepts a b := by
  cases op <;> cases hop <;> rfl

theorem onCells_of_isComparison (hop : op.isComparison = true) (a b : Value) :
    op.onCells a b = Formula.comparedCells op.accepts a b := by
  cases op <;> cases hop <;> rfl

theorem type?_of_isComparison {σ τ : ScalarType} (hop : op.isComparison = true)
    (hcomparable : σ = τ ∨ (σ.isNumeric = true ∧ τ.isNumeric = true)) :
    op.type? σ τ = some .boolean := by
  cases op <;> cases hop <;> exact if_pos hcomparable

-- Comparisons that make a difference between zeros of opposite sign, given whether the first one is
-- negative.
def tellsZeros : BinaryOp → Bool → Bool
  | .equal, _ | .notEqual, _ => true
  | .less, negativeFirst | .greaterEqual, negativeFirst => negativeFirst
  | .lessEqual, negativeFirst | .greater, negativeFirst => !negativeFirst
  | _, _ => false

theorem accepts_eq_iff (hop : op.isComparison = true) (negativeFirst : Bool) :
    op.accepts .eq = op.accepts (if negativeFirst then .lt else .gt) ↔
      ¬ op.tellsZeros negativeFirst = true := by
  cases op <;> cases hop <;> cases negativeFirst <;> decide

-- A comparison has a result on values and on cells, and the two are the same unless it is one of
-- zeros that it tells apart.
theorem comparison_agrees (hop : op.isComparison = true) (h : a.Comparable b) :
    ∃ p q, op.apply a b = .ok (.boolean p) ∧ op.onCells a b = some (.boolean q) ∧
      (p = q ↔ ¬ (a.OppositeZeros b ∧ op.tellsZeros a.isNegative = true)) := by
  obtain ⟨ha, hb, σ, τ, hσ, hτ, hcomparable⟩ := h
  simp only [apply_of_isComparison hop, onCells_of_isComparison hop, Operator.test,
    Formula.comparedCells]
  by_cases hzeros : a.OppositeZeros b
  · obtain ⟨x, y, hxy, hcompare, horder, hnegative⟩ :=
      Operator.exists_decimals_of_oppositeZeros hzeros
    rw [hcompare, horder, Decimal.compare?_of_oppositeZeros hxy,
      Decimal.totalCompare_of_oppositeZeros hxy, ← hnegative]
    refine ⟨_, _, rfl, rfl, (accepts_eq_iff hop _).trans ?_⟩
    simp only [hzeros, true_and]
  · obtain ⟨order, horder⟩ := Operator.exists_order hσ hτ ha hb hcomparable
    rw [← Operator.compare?_eq_cellOrder? hσ hτ ha hb hzeros, horder]
    refine ⟨_, _, rfl, rfl, ?_⟩
    simp only [hzeros, false_and, not_false_eq_true]

end BinaryOp

namespace Formula

-- A row of a series has the cell of the operand.
theorem Operand.value?_toSeries {x : Operand} {rows row : Nat} (hrow : row < rows) :
    (x.toSeries rows).value? row = x.value? row := by
  obtain ⟨type, datum⟩ := x
  cases datum with
  | constant cell =>
      rw [toSeries, Series.value?, Datum.expand, List.getElem?_replicate_of_lt hrow]
      rfl
  | column cells => rfl

end Formula

namespace Frame

variable {f : Frame} {x y : String} {row : Nat} {a b : Value}

-- A value in a row of the column of that name, whose cells are of the type of the value.
def Stores (f : Frame) (name : String) (row : Nat) (v : Value) : Prop :=
  ∃ series σ, f.series? name = some series ∧ series.type = σ.dataType ∧
    v.scalarType? = some σ ∧ series.value? row = some v

theorem Stores.row_lt (hf : ∀ c ∈ f.columns, c.length = f.rowCount) (h : f.Stores x row a) :
    row < f.rowCount := by
  obtain ⟨series, -, hseries, -, -, hvalue⟩ := h
  obtain ⟨cell, hcell, -⟩ := Option.bind_eq_some_iff.mp hvalue
  obtain ⟨cell', hcell', -⟩ := Option.bind_eq_some_iff.mp hcell
  rw [← f.length_of_series? hf x series hseries]
  exact (List.getElem?_eq_some_iff.mp hcell').1

theorem Stores.exists_operand (hf : ∀ c ∈ f.columns, c.length = f.rowCount) {σ : ScalarType}
    (h : f.Stores x row a) (hσ : a.scalarType? = some σ) :
    ∃ z, f.evaluate (.column x) = .ok z ∧ z.Fits f.rowCount σ ∧ z.value? row = some a := by
  obtain ⟨series, σ', hseries, htype, hσ', hvalue⟩ := h
  obtain rfl : σ' = σ := Option.some.inj (hσ'.symm.trans hσ)
  refine ⟨.ofSeries series, by rw [evaluate, Formula.evaluate, hseries], ⟨htype, ?_⟩, hvalue⟩
  exact f.length_of_series? hf x series hseries

-- The comparison of two columns has the same result as that of the values in their rows, unless
-- these are zeros of opposite sign.
theorem comparison_agrees_iff (hf : ∀ c ∈ f.columns, c.length = f.rowCount) {op : BinaryOp}
    (hop : op.isComparison = true) (hx : f.Stores x row a) (hy : f.Stores y row b)
    (hcomparable : a.Comparable b) :
    ∃ formula series p q,
      op.applySymbolic (.column (.column x)) (.column (.column y)) = .ok (.column formula) ∧
      f.evaluateSeries formula = .ok series ∧
      op.apply a b = .ok (.boolean p) ∧ series.value? row = some (.boolean q) ∧
      (p = q ↔ ¬ (a.OppositeZeros b ∧ op.tellsZeros a.isNegative = true)) := by
  obtain ⟨p, q, hp, hq, hagrees⟩ := BinaryOp.comparison_agrees hop hcomparable
  obtain ⟨-, -, σ, τ, hσ, hτ, htypes⟩ := hcomparable
  have htype := BinaryOp.type?_of_isComparison hop htypes
  obtain ⟨u, hu, hufits, huvalue⟩ := hx.exists_operand hf hσ
  obtain ⟨v, hv, hvfits, hvvalue⟩ := hy.exists_operand hf hτ
  obtain ⟨form, hform, hformtype⟩ := Option.bind_eq_some_iff.mp htype
  obtain ⟨z, hz, -, hzvalue⟩ := Formula.evaluateBinary_of_type? hformtype hufits hvfits
  have hformula : f.evaluate (.binary form (.column x) (.column y)) = .ok z := by
    rw [evaluate] at hu hv
    rw [evaluate, Formula.evaluate, hu, hv]
    exact hz
  refine ⟨.binary form (.column x) (.column y), z.toSeries f.rowCount, p, q, ?_, ?_, hp, ?_,
    hagrees⟩
  · cases op <;> cases hop <;> cases hform <;> rfl
  · rw [evaluateSeries, hformula]
    rfl
  · rw [Formula.Operand.value?_toSeries (hx.row_lt hf), hzvalue, huvalue, hvvalue]
    rwa [BinaryOp.onCells, hform] at hq

-- Zeros that were reached from below and from above.
def levels : Frame :=
  ⟨[⟨"below", ⟨.float64, [some (.zero true), some (.zero true)]⟩⟩,
    ⟨"above", ⟨.float64, [some (.zero false), some (.zero true)]⟩⟩], 2⟩

theorem comparison_agrees_iff_levels :
    (∃ formula series p q,
      BinaryOp.greaterEqual.applySymbolic (.column (.column "below")) (.column (.column "above")) =
        .ok (.column formula) ∧
      levels.evaluateSeries formula = .ok series ∧
      BinaryOp.greaterEqual.apply (.decimal (.zero true)) (.decimal (.zero false)) =
        .ok (.boolean p) ∧
      series.value? 0 = some (.boolean q) ∧ p ≠ q) ∧
    ∃ formula series p q,
      BinaryOp.greaterEqual.applySymbolic (.column (.column "below")) (.column (.column "above")) =
        .ok (.column formula) ∧
      levels.evaluateSeries formula = .ok series ∧
      BinaryOp.greaterEqual.apply (.decimal (.zero true)) (.decimal (.zero true)) =
        .ok (.boolean p) ∧
      series.value? 1 = some (.boolean q) ∧ p = q := by
  have hlevels : ∀ c ∈ levels.columns, c.length = levels.rowCount := by decide
  have hop : BinaryOp.greaterEqual.isComparison = true := rfl
  constructor
  · obtain ⟨formula, series, p, q, hformula, hseries, hp, hq, hagrees⟩ :=
      comparison_agrees_iff hlevels hop
        (⟨_, .decimal, rfl, rfl, rfl, rfl⟩ : levels.Stores "below" 0 (.decimal (.zero true)))
        (⟨_, .decimal, rfl, rfl, rfl, rfl⟩ : levels.Stores "above" 0 (.decimal (.zero false)))
        ⟨rfl, rfl, .decimal, .decimal, rfl, rfl, .inl rfl⟩
    refine ⟨formula, series, p, q, hformula, hseries, hp, hq, fun h => hagrees.mp h ⟨?_, rfl⟩⟩
    exact ⟨_, _, rfl, rfl, by decide, by decide, by decide⟩
  · obtain ⟨formula, series, p, q, hformula, hseries, hp, hq, hagrees⟩ :=
      comparison_agrees_iff hlevels hop
        (⟨_, .decimal, rfl, rfl, rfl, rfl⟩ : levels.Stores "below" 1 (.decimal (.zero true)))
        (⟨_, .decimal, rfl, rfl, rfl, rfl⟩ : levels.Stores "above" 1 (.decimal (.zero true)))
        ⟨rfl, rfl, .decimal, .decimal, rfl, rfl, .inl rfl⟩
    refine ⟨formula, series, p, q, hformula, hseries, hp, hq, hagrees.mpr ?_⟩
    rintro ⟨⟨x, y, hx, hy, -, -, hsigns⟩, -⟩
    cases hx
    cases hy
    exact hsigns rfl

-- The zeros are equal, and the columns find them different.
theorem equal_zeros_differ :
    BinaryOp.equal.apply (.decimal (.zero true)) (.decimal (.zero false)) = .ok (.boolean true) ∧
    BinaryOp.equal.applySymbolic (.column (.column "below")) (.column (.column "above")) =
      .ok (.column (.binary .equal (.column "below") (.column "above"))) ∧
    levels.evaluateSeries (.binary .equal (.column "below") (.column "above")) =
      .ok ⟨.boolean, [some false, some true]⟩ :=
  ⟨rfl, rfl, rfl⟩

end Frame

end TableFlow
