import TableFlow.Proofs.Decimal.NonFinite
import TableFlow.Evaluation.Operator
import TableFlow.Proofs.Formula.Cells

namespace TableFlow

namespace UnaryOp

-- The operator of formulas that stands for the operator on columns.
def form? : UnaryOp → Option Formula.UnaryOp
  | .not => some .not
  | .minus => some .negate
  | .sqrt => some .sqrt
  | .floor => some .floor
  | .ceil => some .ceil
  | .round => some .round
  | .lowercase => some .lowercase
  | .uppercase => some .uppercase
  | .plus | .asText | .asDecimal | .asInteger | .asBoolean => none

-- The type of the result, for operators that have a form for columns.
def type? (op : UnaryOp) (σ : ScalarType) : Option ScalarType :=
  if op = .plus then if σ.isNumeric then some σ else none
  else op.form?.bind (·.type? σ)

-- What the operator makes of a cell that is not null.
def onCell (op : UnaryOp) (v : Value) : Option Value :=
  if op = .plus then some v else op.form?.bind (·.onCell v)

end UnaryOp

namespace BinaryOp

def form? (op : BinaryOp) : Option Formula.BinaryOp :=
  match op.columnForm with
  | .elementwise form _ => some form
  | .exponent form => some form
  | .unsupported => none

def type? (op : BinaryOp) (σ τ : ScalarType) : Option ScalarType := op.form?.bind (·.type? σ τ)

def onCells (op : BinaryOp) (a b : Value) : Option Value := op.form?.bind (·.onCells a b)

-- The operators that take a number on the right, and not a column.
def takesExponent : BinaryOp → Bool
  | .pow | .root => true
  | _ => false

def isComparison : BinaryOp → Bool
  | .less | .lessEqual | .greater | .greaterEqual | .equal | .notEqual => true
  | _ => false

-- The operators that can give a finite result for an operand that is not finite.
def absorbs : BinaryOp → Bool
  | .divide | .modulo | .pow | .root => true
  | op => op.isComparison

end BinaryOp

namespace Value

-- Numbers that denote zeros of different signs.
def OppositeZeros (a b : Value) : Prop :=
  ∃ x y, a.number? = some x ∧ b.number? = some y ∧ x.OppositeZeros y

def isZero (v : Value) : Bool := v.number?.any Decimal.isZero

end Value

-- A null, an infinity or a NaN.
def isLost (cell : Option Value) : Bool := !cell.any Value.isFinite

-- A result on values beside a result on cells.
def Agrees (ρ : ScalarType) (result : Except EvalError Value) (cell : Option Value) : Prop :=
  match result with
  | .ok w => w.scalarType? = some ρ ∧ w.isFinite = true ∧ cell = some w
  | .error e => e.code = .arithmetic ∧ isLost cell = true

namespace Agrees

variable {ρ : ScalarType} {r : Except EvalError Value} {cell : Option Value}

theorem typed (h : Agrees ρ r cell) {w : Value} (hw : r = .ok w) :
    w.scalarType? = some ρ ∧ w.isFinite = true := by
  subst hw
  exact ⟨h.1, h.2.1⟩

theorem cell_eq (h : Agrees ρ r cell) {w : Value} (hw : r = .ok w) : cell = some w := by
  subst hw
  exact h.2.2

theorem code_eq (h : Agrees ρ r cell) {e : EvalError} (he : r = .error e) :
    e.code = .arithmetic := by
  subst he
  exact h.1

theorem isLost_cell (h : Agrees ρ r cell) (hnone : r.toOption = none) : isLost cell = true := by
  cases r with
  | ok w => cases hnone
  | error e => exact h.2

end Agrees

namespace Operator

open Formula

variable {σ τ ρ : ScalarType} {a b : Value}

-- A finite number is an integer or a finite decimal.
theorem exists_number {v : Value} (hv : v.scalarType? = some σ) (hfinite : v.isFinite = true)
    (hσ : σ.isNumeric = true) : ∃ x, v.number? = some x ∧ x.isFinite = true := by
  cases v with
  | integer n => exact ⟨_, rfl, Decimal.ofInt64_isFinite n⟩
  | decimal d => exact ⟨_, rfl, hfinite⟩
  | boolean b => cases hv; cases hσ
  | text s => cases hv; cases hσ
  | _ => cases hv

theorem isLost_decimal (d : Decimal) : isLost (some (.decimal d)) = !d.isFinite := rfl

theorem agrees_integerResult (n : Option Int64) :
    Agrees .integer (integerResult n) (n.map .integer) := by
  cases n with
  | none => exact ⟨rfl, rfl⟩
  | some n => exact ⟨rfl, rfl, rfl⟩

theorem agrees_finiteResult (reason : ArithmeticError) (d : Decimal) :
    Agrees .decimal (finiteResult reason d) (some (.decimal d)) := by
  unfold finiteResult
  split
  next h => exact ⟨rfl, h, rfl⟩
  next h => exact ⟨rfl, by simpa [isLost, Value.isFinite] using h⟩

theorem numbers_eq (symbol : String) {x y : Decimal} (hx : a.number? = some x)
    (hy : b.number? = some y) : numbers symbol a b = .ok (x, y) := by
  simp only [numbers, hx, hy]

theorem exists_numbers (ha : a.scalarType? = some σ) (hb : b.scalarType? = some τ)
    (hnumeric : σ.isNumeric = true ∧ τ.isNumeric = true) :
    ∃ x y, a.number? = some x ∧ b.number? = some y := by
  obtain ⟨hσ, hτ⟩ := hnumeric
  cases a <;> cases ha <;> cases hσ <;> cases b <;> cases hb <;> cases hτ <;>
    exact ⟨_, _, rfl, rfl⟩

theorem agrees_arithmetic (symbol : String) (f : Int64 → Int64 → Option Int64)
    (g : Decimal → Decimal → Decimal) (htype : numberType? σ τ = some ρ)
    (ha : a.scalarType? = some σ) (hb : b.scalarType? = some τ) :
    Agrees ρ (arithmetic symbol f g a b) (numberCells f g a b) := by
  cases σ <;> cases τ <;> cases htype <;> cases a <;> cases ha <;> cases b <;> cases hb
  · exact agrees_integerResult _
  all_goals exact agrees_finiteResult _ _

-- On cells a remainder by zero is null or not finite.
theorem isLost_rem (ha : a.scalarType? = some σ) (hb : b.scalarType? = some τ)
    (htype : numberType? σ τ = some ρ) (hzero : b.isZero = true) :
    isLost (numberCells Integer.rem? Decimal.rem a b) = true := by
  cases σ <;> cases τ <;> cases htype <;> cases a <;> cases ha <;> cases b <;> cases hb
  case integer.integer.refl.integer.refl.integer.refl m n =>
    have hn : n.toInt = 0 := (Decimal.isZero_ofInt64 n).mp hzero
    simp [numberCells, Integer.rem?, hn, isLost]
  all_goals exact (isLost_decimal _).trans (by rw [Decimal.isFinite_rem_zero _ _ hzero]; rfl)

-- Values of types that are compared have an order of either kind.
theorem exists_order (ha : a.scalarType? = some σ) (hb : b.scalarType? = some τ)
    (hfinite : a.isFinite = true) (hfinite' : b.isFinite = true)
    (htype : σ = τ ∨ (σ.isNumeric = true ∧ τ.isNumeric = true)) :
    ∃ order, compare? a b = some order := by
  have hdecimals {x y : Decimal} (hx : x.isFinite = true) (hy : y.isFinite = true) :
      ∃ order, x.compare? y = some order := by
    cases x <;> cases hx
    cases y <;> cases hy
    exact ⟨_, rfl⟩
  cases σ <;> cases τ <;> simp [ScalarType.isNumeric] at htype <;>
    cases a <;> cases ha <;> cases b <;> cases hb
  · exact ⟨_, rfl⟩
  · exact ⟨_, rfl⟩
  · exact hdecimals (Decimal.ofInt64_isFinite _) hfinite'
  · exact hdecimals hfinite (Decimal.ofInt64_isFinite _)
  · exact hdecimals hfinite hfinite'
  · exact ⟨_, rfl⟩

theorem exists_cellOrder (ha : a.scalarType? = some σ) (hb : b.scalarType? = some τ)
    (htype : σ = τ ∨ (σ.isNumeric = true ∧ τ.isNumeric = true)) :
    ∃ order, cellOrder? a b = some order := by
  cases σ <;> cases τ <;> simp [ScalarType.isNumeric] at htype <;>
    cases a <;> cases ha <;> cases b <;> cases hb <;> exact ⟨_, rfl⟩

-- Finite values are compared alike, apart from zeros of different signs.
theorem compare?_eq_cellOrder? (ha : a.scalarType? = some σ) (hb : b.scalarType? = some τ)
    (hfinite : a.isFinite = true) (hfinite' : b.isFinite = true)
    (hzeros : ¬ Value.OppositeZeros a b) : compare? a b = cellOrder? a b := by
  have hdecimals {x y : Decimal} (hx : a.number? = some x) (hy : b.number? = some y)
      (hxfinite : x.isFinite = true) (hyfinite : y.isFinite = true) :
      x.compare? y = some (x.totalCompare y) :=
    Decimal.compare?_eq_totalCompare hxfinite hyfinite fun h => hzeros ⟨x, y, hx, hy, h⟩
  cases a <;> cases ha <;> cases b <;> cases hb <;> try rfl
  · exact hdecimals rfl rfl (Decimal.ofInt64_isFinite _) hfinite'
  · exact hdecimals rfl rfl hfinite (Decimal.ofInt64_isFinite _)
  · exact hdecimals rfl rfl hfinite hfinite'

-- Values that are compared alike agree under every test of their order.
theorem agrees_test (symbol : String) (test : Ordering → Bool) (ha : a.scalarType? = some σ)
    (hb : b.scalarType? = some τ) (hfinite : a.isFinite = true) (hfinite' : b.isFinite = true)
    (hcomparable : σ = τ ∨ (σ.isNumeric = true ∧ τ.isNumeric = true))
    (hzeros : ¬ Value.OppositeZeros a b) :
    Agrees .boolean (Operator.test symbol test a b) (comparedCells test a b) := by
  obtain ⟨order, horder⟩ := exists_order ha hb hfinite hfinite' hcomparable
  have hcells := compare?_eq_cellOrder? ha hb hfinite hfinite' hzeros
  simp only [Operator.test, comparedCells, ← hcells, horder]
  exact ⟨rfl, rfl, rfl⟩

-- What agrees on the numbers of two operands agrees on the operands.
theorem agrees_decimals (symbol : String) (f : Decimal → Decimal → Except EvalError Value)
    (g : Decimal → Decimal → Decimal)
    (htype : (if σ.isNumeric ∧ τ.isNumeric then some .decimal else none) = some ρ)
    (ha : a.scalarType? = some σ) (hb : b.scalarType? = some τ)
    (hagrees : ∀ x y, b.number? = some y → Agrees .decimal (f x y) (some (.decimal (g x y)))) :
    Agrees ρ (numbers symbol a b >>= fun p => f p.1 p.2) (decimalCells g a b) := by
  obtain ⟨hnumeric, hρ⟩ := Option.ite_none_right_eq_some.mp htype
  obtain rfl := Option.some.inj hρ
  obtain ⟨x, y, hx, hy⟩ := exists_numbers ha hb hnumeric
  have hcells : decimalCells g a b = some (.decimal (g x y)) := by
    simp only [decimalCells, hx, hy, Option.bind_some, Option.map_some]
  rw [numbers_eq _ hx hy, hcells]
  exact hagrees x y hy

theorem agrees_truths {f : Bool → Bool → Bool} {r : Except EvalError Value}
    (htype : (if σ = .boolean ∧ τ = .boolean then some .boolean else none) = some ρ)
    (ha : a.scalarType? = some σ) (hb : b.scalarType? = some τ)
    (hr : ∀ p q, a = .boolean p → b = .boolean q → r = .ok (.boolean (f p q))) :
    Agrees ρ r (truthCells f a b) := by
  obtain ⟨⟨rfl, rfl⟩, hρ⟩ := Option.ite_none_right_eq_some.mp htype
  obtain rfl := Option.some.inj hρ
  cases a <;> cases ha
  cases b <;> cases hb
  rw [hr _ _ rfl rfl]
  exact ⟨rfl, rfl, rfl⟩

-- What `isBelowZero` refuses has no finite square root.
theorem isLost_sqrt {d : Decimal} (h : isBelowZero d = true) :
    isLost (some (.decimal d.sqrt)) = true := by
  rw [isLost_decimal, Decimal.isFinite_sqrt_of_lt d (by simpa [isBelowZero] using h)]
  rfl

end Operator

open Operator

variable {σ τ ρ : ScalarType}

theorem UnaryOp.apply_agrees {op : UnaryOp} (htype : op.type? σ = some τ) {v : Value}
    (hv : v.scalarType? = some σ) (hfinite : v.isFinite = true) :
    Agrees τ (op.apply v) (op.onCell v) := by
  have hround (symbol : String) (round : Decimal → Option Int)
      (h : (if σ.isNumeric then some .integer else none) = some τ) :
      Agrees τ (Operator.round symbol round v) (Formula.roundCell round v) := by
    obtain ⟨hnumeric, hτ⟩ := Option.ite_none_right_eq_some.mp h
    obtain rfl := Option.some.inj hτ
    cases v with
    | integer n => exact ⟨rfl, rfl, rfl⟩
    | decimal d => exact agrees_integerResult _
    | boolean b => cases hv; cases hnumeric
    | text s => cases hv; cases hnumeric
    | _ => cases hv
  cases op with
  | not =>
    cases σ <;> cases htype
    cases v <;> cases hv
    exact ⟨rfl, rfl, rfl⟩
  | plus =>
    cases σ <;> cases htype <;> cases v <;> cases hv <;> exact ⟨rfl, hfinite, rfl⟩
  | minus =>
    cases σ <;> cases htype <;> cases v <;> cases hv
    · exact agrees_integerResult _
    · exact ⟨rfl, (Decimal.isFinite_neg _).trans hfinite, rfl⟩
  | sqrt =>
    obtain ⟨hnumeric, hτ⟩ := Option.ite_none_right_eq_some.mp htype
    obtain rfl := Option.some.inj hτ
    obtain ⟨d, hd, -⟩ := exists_number hv hfinite hnumeric
    have hcell : UnaryOp.sqrt.onCell v = some (.decimal d.sqrt) := by
      simp [onCell, form?, Formula.UnaryOp.onCell, hd]
    simp only [UnaryOp.apply, hd, hcell]
    split
    next h => exact ⟨rfl, isLost_sqrt h⟩
    next => exact agrees_finiteResult _ _
  | floor => exact hround _ _ htype
  | ceil => exact hround _ _ htype
  | round => exact hround _ _ htype
  | lowercase =>
    cases σ <;> cases htype
    cases v <;> cases hv
    exact ⟨rfl, rfl, rfl⟩
  | uppercase =>
    cases σ <;> cases htype
    cases v <;> cases hv
    exact ⟨rfl, rfl, rfl⟩
  | _ => cases htype

-- What is lost stays lost under an operator with one operand.
theorem UnaryOp.isLost_onCell {op : UnaryOp} (htype : op.type? σ = some τ) {v : Value}
    (hv : v.scalarType? = some σ) (hlost : v.isFinite = false) :
    isLost (op.onCell v) = true := by
  obtain ⟨d, rfl⟩ : ∃ d, v = .decimal d := by
    cases v <;> first | exact ⟨_, rfl⟩ | cases hlost
  cases hv
  have hd : d.isFinite = false := hlost
  have hround {round : Option Int} (h : round = none) :
      isLost ((Formula.roundedInteger? round).map .integer) = true := by
    rw [h]
    rfl
  cases op <;> cases htype
  · simpa [onCell, isLost_decimal] using hd
  · exact (isLost_decimal _).trans (by rw [Decimal.isFinite_neg, hd]; rfl)
  · exact (isLost_decimal _).trans (by rw [Decimal.isFinite_sqrt d hd]; rfl)
  · exact hround (Decimal.floor?_eq_none d hd)
  · exact hround (Decimal.ceil?_eq_none d hd)
  · exact hround (Decimal.round?_eq_none d hd)

theorem UnaryOp.scalarType?_onCell {op : UnaryOp} (htype : op.type? σ = some τ) {v w : Value}
    (hv : v.scalarType? = some σ) (hw : op.onCell v = some w) : w.scalarType? = some τ := by
  have hround {n : Option Int64} (h : n.map Value.integer = some w) :
      w.scalarType? = some .integer := by
    obtain ⟨m, -, rfl⟩ := Option.map_eq_some_iff.mp h
    rfl
  cases op <;> cases σ <;> cases htype <;> cases v <;> cases hv <;> first
    | exact hround hw
    | (cases hw; rfl)

-- Comparisons take two values of one type or two numbers.
theorem BinaryOp.comparable_of_type? {op : BinaryOp} (hop : op.isComparison = true)
    (htype : op.type? σ τ = some ρ) :
    (σ = τ ∨ (σ.isNumeric = true ∧ τ.isNumeric = true)) ∧ ρ = .boolean := by
  have hinversion (h : (if σ = τ ∨ (σ.isNumeric ∧ τ.isNumeric) then some .boolean else none) =
      some ρ) : (σ = τ ∨ (σ.isNumeric = true ∧ τ.isNumeric = true)) ∧ ρ = .boolean := by
    obtain ⟨hcomparable, hρ⟩ := Option.ite_none_right_eq_some.mp h
    exact ⟨hcomparable, (Option.some.inj hρ).symm⟩
  cases op <;> cases hop <;> exact hinversion htype

theorem BinaryOp.apply_agrees {op : BinaryOp} (htype : op.type? σ τ = some ρ) {a b : Value}
    (ha : a.scalarType? = some σ) (hb : b.scalarType? = some τ) (hfinite : a.isFinite = true)
    (hfinite' : b.isFinite = true) (hzeros : op.isComparison = true → ¬ Value.OppositeZeros a b)
    (hdegree : op = .root → b.isZero = false) :
    Agrees ρ (op.apply a b) (op.onCells a b) := by
  have htest (symbol : String) (test : Ordering → Bool) (hop : op.isComparison = true) :
      Agrees ρ (Operator.test symbol test a b) (Formula.comparedCells test a b) := by
    obtain ⟨hcomparable, rfl⟩ := op.comparable_of_type? hop htype
    exact agrees_test symbol test ha hb hfinite hfinite' hcomparable (hzeros hop)
  cases op with
  | multiply => exact agrees_arithmetic _ _ _ htype ha hb
  | add => exact agrees_arithmetic _ _ _ htype ha hb
  | subtract => exact agrees_arithmetic _ _ _ htype ha hb
  | modulo =>
    obtain ⟨x, y, hx, hy⟩ := exists_numbers ha hb (Formula.isNumeric_of_numberType? htype)
    have happly : BinaryOp.modulo.apply a b =
        if y.isZero then fail .moduloByZero
        else arithmetic BinaryOp.modulo.symbol Integer.rem? Decimal.rem a b := by
      rw [BinaryOp.apply, numbers_eq _ hx hy]
      rfl
    rw [happly]
    split
    next hzero =>
      have hb' : b.isZero = true := by rw [Value.isZero, hy]; exact hzero
      exact ⟨rfl, isLost_rem ha hb htype hb'⟩
    next => exact agrees_arithmetic _ _ _ htype ha hb
  | divide =>
    refine agrees_decimals _ Operator.divide Decimal.div htype ha hb fun x y _ => ?_
    unfold Operator.divide
    split
    next hzero => exact ⟨rfl, by rw [isLost_decimal, Decimal.isFinite_div_zero x y hzero]; rfl⟩
    next => exact agrees_finiteResult _ _
  | pow =>
    refine agrees_decimals _ power Decimal.pow htype ha hb fun x y _ => ?_
    exact agrees_finiteResult _ _
  | root =>
    refine agrees_decimals _ Operator.root Decimal.root htype ha hb fun x y hy => ?_
    have hzero : y.isZero = false := by simpa [Value.isZero, hy] using hdegree rfl
    simp only [Operator.root, hzero, Bool.false_eq_true, if_false]
    exact agrees_finiteResult _ _
  | less => exact htest _ _ rfl
  | lessEqual => exact htest _ _ rfl
  | greater => exact htest _ _ rfl
  | greaterEqual => exact htest _ _ rfl
  | equal => exact htest _ _ rfl
  | notEqual => exact htest _ _ rfl
  | xor => exact agrees_truths htype ha hb fun p q hp hq => by rw [hp, hq]; rfl
  | and => exact agrees_truths htype ha hb fun p q hp hq => by rw [hp, hq]; rfl
  | or => exact agrees_truths htype ha hb fun p q hp hq => by rw [hp, hq]; rfl
  | _ => cases htype

-- A comparison always has a result, on values and on cells.
theorem BinaryOp.exists_apply_of_isComparison {op : BinaryOp} (hop : op.isComparison = true)
    (htype : op.type? σ τ = some ρ) {a b : Value} (ha : a.scalarType? = some σ)
    (hb : b.scalarType? = some τ) (hfinite : a.isFinite = true) (hfinite' : b.isFinite = true) :
    ρ = .boolean ∧ ∃ r, op.apply a b = .ok (.boolean r) := by
  obtain ⟨hcomparable, hρ⟩ := op.comparable_of_type? hop htype
  obtain ⟨order, horder⟩ := exists_order ha hb hfinite hfinite' hcomparable
  have htest (symbol : String) (test : Ordering → Bool) :
      ∃ r, Operator.test symbol test a b = .ok (.boolean r) :=
    ⟨test order, by simp only [Operator.test, horder]⟩
  cases op <;> cases hop <;> exact ⟨hρ, htest _ _⟩

theorem BinaryOp.exists_onCells_of_isComparison {op : BinaryOp} (hop : op.isComparison = true)
    (htype : op.type? σ τ = some ρ) {a b : Value} (ha : a.scalarType? = some σ)
    (hb : b.scalarType? = some τ) : ∃ s, op.onCells a b = some (.boolean s) := by
  obtain ⟨hcomparable, -⟩ := op.comparable_of_type? hop htype
  obtain ⟨order, horder⟩ := exists_cellOrder ha hb hcomparable
  have htest (test : Ordering → Bool) :
      ∃ s, Formula.comparedCells test a b = some (.boolean s) :=
    ⟨test order, by simp only [Formula.comparedCells, horder, Option.map_some]⟩
  cases op <;> cases hop <;> exact htest _

-- The result has the type that is expected, and all failures are arithmetic.
theorem BinaryOp.apply_sound {op : BinaryOp} (htype : op.type? σ τ = some ρ) {a b : Value}
    (ha : a.scalarType? = some σ) (hb : b.scalarType? = some τ) (hfinite : a.isFinite = true)
    (hfinite' : b.isFinite = true) :
    (∀ w, op.apply a b = .ok w → w.scalarType? = some ρ ∧ w.isFinite = true) ∧
      ∀ e, op.apply a b = .error e → e.code = .arithmetic := by
  by_cases hcomparison : op.isComparison = true
  · obtain ⟨rfl, r, hr⟩ := exists_apply_of_isComparison hcomparison htype ha hb hfinite hfinite'
    rw [hr]
    exact ⟨fun w hw => by cases hw; exact ⟨rfl, rfl⟩, fun e he => by cases he⟩
  · by_cases hdegree : op = .root ∧ b.isZero = true
    · obtain ⟨rfl, hzero⟩ := hdegree
      obtain ⟨x, y, hx, hy⟩ := exists_numbers ha hb (Option.ite_none_right_eq_some.mp htype).1
      have hy' : y.isZero = true := by simpa [Value.isZero, hy] using hzero
      have happly : BinaryOp.root.apply a b = fail .degreeZero := by
        rw [BinaryOp.apply, numbers_eq _ hx hy]
        exact if_pos hy'
      rw [happly]
      exact ⟨fun w hw => (by cases hw), fun e he => by cases he; rfl⟩
    · have hagrees := op.apply_agrees htype ha hb hfinite hfinite'
        (fun h => absurd h hcomparison) (fun h => by simpa [h] using hdegree)
      exact ⟨fun w hw => hagrees.typed hw, fun e he => hagrees.code_eq he⟩

theorem BinaryOp.scalarType?_onCells {op : BinaryOp} (htype : op.type? σ τ = some ρ) {a b w : Value}
    (ha : a.scalarType? = some σ) (hb : b.scalarType? = some τ) (hw : op.onCells a b = some w) :
    w.scalarType? = some ρ := by
  have hinteger {n : Option Int64} (h : n.map Value.integer = some w) :
      w.scalarType? = some .integer := by
    obtain ⟨m, -, rfl⟩ := Option.map_eq_some_iff.mp h
    rfl
  cases op <;> cases σ <;> cases τ <;> cases htype <;> cases a <;> cases ha <;> cases b <;>
    cases hb <;> first
    | exact hinteger hw
    | (cases hw; rfl)

-- Sums, differences and products of what is lost are lost.
theorem BinaryOp.isLost_onCells {op : BinaryOp} (htype : op.type? σ τ = some ρ) {a b : Value}
    (ha : a.scalarType? = some σ) (hb : b.scalarType? = some τ) (habsorbs : op.absorbs = false)
    (hlost : a.isFinite = false ∨ b.isFinite = false) : isLost (op.onCells a b) = true := by
  have hnumbers (f : Int64 → Int64 → Option Int64) {g : Decimal → Decimal → Decimal}
      (hg : ∀ x y : Decimal, x.isFinite = false ∨ y.isFinite = false → (g x y).isFinite = false)
      (h : Formula.numberType? σ τ = some ρ) : isLost (Formula.numberCells f g a b) = true := by
    cases σ <;> cases τ <;> cases h <;> cases a <;> cases ha <;> cases b <;> cases hb
    · simp [Value.isFinite] at hlost
    · refine (isLost_decimal _).trans ?_
      rw [hg _ _ (.inr (by simpa [Value.isFinite] using hlost))]
      rfl
    · refine (isLost_decimal _).trans ?_
      rw [hg _ _ (.inl (by simpa [Value.isFinite] using hlost))]
      rfl
    · exact (isLost_decimal _).trans (by rw [hg _ _ hlost]; rfl)
  -- Truth values are never lost.
  have htruths (h : (if σ = .boolean ∧ τ = .boolean then some .boolean else none) = some ρ) :
      isLost (op.onCells a b) = true := by
    obtain ⟨⟨rfl, rfl⟩, -⟩ := Option.ite_none_right_eq_some.mp h
    cases a <;> cases ha
    cases b <;> cases hb
    simp [Value.isFinite] at hlost
  cases op with
  | add => exact hnumbers _ Decimal.isFinite_add htype
  | subtract => exact hnumbers _ Decimal.isFinite_sub htype
  | multiply => exact hnumbers _ Decimal.isFinite_mul htype
  | xor => exact htruths htype
  | and => exact htruths htype
  | or => exact htruths htype
  | «matches» => cases htype
  | isIn => cases htype
  | _ => cases habsorbs

theorem UnaryOp.onCell_boolean {op : UnaryOp} (htype : op.type? .boolean = some τ) (b : Bool) :
    τ = .boolean ∧ (∃ r, op.apply (.boolean b) = .ok (.boolean r)) ∧
      ∃ s, op.onCell (.boolean b) = some (.boolean s) := by
  cases op <;> cases htype
  exact ⟨rfl, ⟨_, rfl⟩, ⟨_, rfl⟩⟩

-- Every operator that takes truth values has a result for them.
theorem BinaryOp.onCells_boolean {op : BinaryOp} (htype : op.type? .boolean .boolean = some ρ)
    (p q : Bool) :
    ρ = .boolean ∧ (∃ r, op.apply (.boolean p) (.boolean q) = .ok (.boolean r)) ∧
      ∃ s, op.onCells (.boolean p) (.boolean q) = some (.boolean s) := by
  cases op <;> cases htype <;> exact ⟨rfl, ⟨_, rfl⟩, ⟨_, rfl⟩⟩

-- Only truth values decide alone, and they do so on cells as well.
theorem BinaryOp.shortCircuit?_boolean {op : BinaryOp} {v result : Value}
    (h : op.shortCircuit? v = some result) (htype : op.type? σ τ = some ρ) :
    σ = .boolean ∧ τ = .boolean ∧ ρ = .boolean ∧ ∃ b, v = .boolean b ∧ result = .boolean b ∧
      ∀ q, op.onCells (.boolean b) (.boolean q) = some (.boolean b) := by
  have htruth (h : (if σ = .boolean ∧ τ = .boolean then some .boolean else none) = some ρ) :
      σ = .boolean ∧ τ = .boolean ∧ ρ = .boolean := by
    obtain ⟨⟨hσ, hτ⟩, hρ⟩ := Option.ite_none_right_eq_some.mp h
    exact ⟨hσ, hτ, (Option.some.inj hρ).symm⟩
  unfold shortCircuit? at h
  split at h
  · cases h
    obtain ⟨hσ, hτ, hρ⟩ := htruth htype
    exact ⟨hσ, hτ, hρ, false, rfl, rfl, fun q => rfl⟩
  · cases h
    obtain ⟨hσ, hτ, hρ⟩ := htruth htype
    exact ⟨hσ, hτ, hρ, true, rfl, rfl, fun q => rfl⟩
  · cases h

end TableFlow
