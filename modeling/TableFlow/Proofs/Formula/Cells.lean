import TableFlow.Formula.Eval
import TableFlow.Proofs.Scalar

namespace TableFlow.Formula

def roundCell (round : Decimal → Option Int) : Value → Option Value
  | .integer n => some (.integer n)
  | .decimal d => (roundedInteger? (round d)).map .integer
  | _ => none

def decimalCells (f : Decimal → Decimal → Decimal) (a b : Value) : Option Value :=
  a.number?.bind fun x => b.number?.map fun y => .decimal (f x y)

def numberCells (f : Int64 → Int64 → Option Int64) (g : Decimal → Decimal → Decimal) :
    Value → Value → Option Value
  | .integer m, .integer n => (f m n).map .integer
  | a, b => decimalCells g a b

-- The order in which two cells are compared.
def cellOrder? : Value → Value → Option Ordering
  | .integer m, .integer n => some (Ord.compare m.toInt n.toInt)
  | .boolean a, .boolean b => some (Ord.compare a b)
  | .text a, .text b => some (Ord.compare a b)
  | a, b => a.number?.bind fun x => b.number?.map fun y => x.totalCompare y

def comparedCells (test : Ordering → Bool) (a b : Value) : Option Value :=
  (cellOrder? a b).map fun order => .boolean (test order)

def truthCells (f : Bool → Bool → Bool) : Value → Value → Option Value
  | .boolean a, .boolean b => some (.boolean (f a b))
  | _, _ => none

-- What an operator makes of a cell that is not null.
def UnaryOp.onCell : UnaryOp → Value → Option Value
  | .not, .boolean b => some (.boolean !b)
  | .negate, .integer n => (Integer.neg? n).map .integer
  | .negate, .decimal d => some (.decimal d.neg)
  | .sqrt, v => v.number?.map fun d => .decimal d.sqrt
  | .floor, v => roundCell Decimal.floor? v
  | .ceil, v => roundCell Decimal.ceil? v
  | .round, v => roundCell Decimal.round? v
  | .lowercase, .text s => some (.text (Text.toLower s))
  | .uppercase, .text s => some (.text (Text.toUpper s))
  | _, _ => none

-- What an operator makes of two cells that are not null.
def BinaryOp.onCells : BinaryOp → Value → Value → Option Value
  | .add => numberCells Integer.add? Decimal.add
  | .subtract => numberCells Integer.sub? Decimal.sub
  | .multiply => numberCells Integer.mul? Decimal.mul
  | .divide => decimalCells Decimal.div
  | .modulo => numberCells Integer.rem? Decimal.rem
  | .pow => decimalCells Decimal.pow
  | .root => decimalCells Decimal.root
  | .equal => comparedCells Ordering.isEq
  | .notEqual => comparedCells Ordering.isNe
  | .less => comparedCells Ordering.isLT
  | .lessEqual => comparedCells Ordering.isLE
  | .greater => comparedCells Ordering.isGT
  | .greaterEqual => comparedCells Ordering.isGE
  | .and => truthCells Bool.and
  | .or => truthCells Bool.or
  | .xor => truthCells Bool.xor

-- The type of the result for an operand of the type, for suitable types.
def UnaryOp.type? : UnaryOp → ScalarType → Option ScalarType
  | .not, .boolean => some .boolean
  | .negate, .integer => some .integer
  | .negate, .decimal => some .decimal
  | .sqrt, σ => if σ.isNumeric then some .decimal else none
  | .floor, σ | .ceil, σ | .round, σ => if σ.isNumeric then some .integer else none
  | .lowercase, .text => some .text
  | .uppercase, .text => some .text
  | _, _ => none

-- Two integers give an integer, any other pair of numbers a decimal.
def numberType? : ScalarType → ScalarType → Option ScalarType
  | .integer, .integer => some .integer
  | σ, τ => if σ.isNumeric ∧ τ.isNumeric then some .decimal else none

def BinaryOp.type? (op : BinaryOp) (σ τ : ScalarType) : Option ScalarType :=
  match op with
  | .add | .subtract | .multiply | .modulo => numberType? σ τ
  | .divide | .pow | .root => if σ.isNumeric ∧ τ.isNumeric then some .decimal else none
  | .equal | .notEqual | .less | .lessEqual | .greater | .greaterEqual =>
    if σ = τ ∨ (σ.isNumeric ∧ τ.isNumeric) then some .boolean else none
  | .and | .or | .xor => if σ = .boolean ∧ τ = .boolean then some .boolean else none

namespace Datum

variable {α β γ : Type}

theorem lift_none_right (f : α → β → Option γ) (a : Option α) : lift f a none = none := by
  cases a <;> rfl

-- The cell of a row.
def cell? (row : Nat) : Datum α → Option α
  | .constant cell => cell
  | .column cells => cells[row]?.join

theorem cell?_map (f : α → Option β) (d : Datum α) (row : Nat) :
    (d.map f).cell? row = (d.cell? row).bind f := by
  cases d with
  | constant cell => rfl
  | column cells =>
      simp only [map, cell?, List.getElem?_map]
      cases cells[row]? <;> rfl

-- Behind the end of a column the result has no cell either.
theorem cell?_zipWith (f : α → β → Option γ) (a : Datum α) (b : Datum β) (row : Nat) :
    (zipWith f a b).cell? row = lift f (a.cell? row) (b.cell? row) := by
  cases a with
  | constant a =>
      cases b with
      | constant b => rfl
      | column bs =>
          simp only [zipWith, cell?, List.getElem?_map]
          cases bs[row]? with
          | none => exact (lift_none_right f a).symm
          | some b => rfl
  | column as =>
      cases b with
      | constant b =>
          simp only [zipWith, cell?, List.getElem?_map]
          cases as[row]? <;> rfl
      | column bs =>
          simp only [zipWith, cell?, List.getElem?_zipWith]
          cases as[row]? with
          | none => rfl
          | some a =>
              cases bs[row]? with
              | none => exact (lift_none_right f a).symm
              | some b => rfl

theorem map_map (f : α → Option β) (g : β → Option γ) (d : Datum α) :
    (d.map f).map g = d.map fun a => (f a).bind g := by
  cases d with
  | constant cell => cases cell <;> rfl
  | column cells =>
      simp only [map, List.map_map]
      congr 2
      funext cell
      cases cell <;> rfl

theorem zipWith_map_left {δ : Type} (f : α → Option β) (g : β → γ → Option δ) (a : Datum α)
    (b : Datum γ) : zipWith g (a.map f) b = zipWith (fun x y => (f x).bind (g · y)) a b := by
  have hcell (x : Option α) (y : Option γ) :
      lift g (x.bind f) y = lift (fun x y => (f x).bind (g · y)) x y := by
    cases x with
    | none => rfl
    | some x => cases hf : f x <;> cases y <;> simp [lift, hf]
  cases a <;> cases b <;> simp [zipWith, map, hcell, Function.comp_def, List.zipWith_map_left]

theorem zipWith_map_right {δ : Type} (f : β → Option γ) (g : α → γ → Option δ) (a : Datum α)
    (b : Datum β) : zipWith g a (b.map f) = zipWith (fun x y => (f y).bind (g x)) a b := by
  have hcell (x : Option α) (y : Option β) :
      lift g x (y.bind f) = lift (fun x y => (f y).bind (g x)) x y := by
    cases x <;> cases y <;> rfl
  cases a <;> cases b <;> simp [zipWith, map, hcell, Function.comp_def, List.zipWith_map_right]

end Datum

namespace Operand

-- The cell of a row as a value.
def value? (x : Operand) (row : Nat) : Option Value := (x.datum.cell? row).bind x.type.cellValue?

-- Cells of a scalar type, one for each row.
structure Fits (rows : Nat) (σ : ScalarType) (x : Operand) : Prop where
  type : x.type = σ.dataType
  length : (x.datum.expand rows).length = rows

variable {rows : Nat} {σ τ ρ : ScalarType} {s t u : DataType}

-- An operation on cells that is an operation on the values they stand for.
theorem maps_map {datum : Datum s.Cell} {f : s.Cell → Option t.Cell} {op : Value → Option Value}
    (hx : Fits rows σ ⟨s, datum⟩) (ht : t = τ.dataType)
    (hf : ∀ a, (f a).bind t.cellValue? = (s.cellValue? a).bind op) :
    Fits rows τ ⟨t, datum.map f⟩ ∧
      ∀ row, value? ⟨t, datum.map f⟩ row = (value? ⟨s, datum⟩ row).bind op := by
  refine ⟨⟨ht, by simpa only [Datum.expand_map, List.length_map] using hx.length⟩, fun row => ?_⟩
  simp only [value?, Datum.cell?_map]
  cases datum.cell? row with
  | none => rfl
  | some a => exact hf a

theorem zips_zipWith {a : Datum s.Cell} {b : Datum t.Cell} {f : s.Cell → t.Cell → Option u.Cell}
    {op : Value → Value → Option Value} (hx : Fits rows σ ⟨s, a⟩) (hy : Fits rows τ ⟨t, b⟩)
    (hu : u = ρ.dataType)
    (hf : ∀ m n, (f m n).bind u.cellValue? = Datum.lift op (s.cellValue? m) (t.cellValue? n)) :
    Fits rows ρ ⟨u, Datum.zipWith f a b⟩ ∧
      ∀ row, value? ⟨u, Datum.zipWith f a b⟩ row =
        Datum.lift op (value? ⟨s, a⟩ row) (value? ⟨t, b⟩ row) := by
  refine ⟨⟨hu, ?_⟩, fun row => ?_⟩
  · have ha := hx.length
    have hb := hy.length
    simp only at ha hb
    rw [Datum.expand_zipWith rows f a b ha hb, List.length_zipWith, ha, hb, Nat.min_self]
  · simp only [value?, Datum.cell?_zipWith]
    cases a.cell? row with
    | none => rfl
    | some m =>
        cases b.cell? row with
        | none => exact (Datum.lift_none_right op _).symm
        | some n => exact hf m n

end Operand

open Operand

variable {rows : Nat} {σ τ ρ : ScalarType}

private theorem bind_cellValue?_integer (n : Option Int64) :
    n.bind DataType.int64.cellValue? = n.map .integer := by
  cases n <;> rfl

private theorem toDecimals_integers (datum : Datum Int64) :
    (Numbers.integers datum).toDecimals = datum.map fun n => some (.ofInt64 n) := rfl

-- The three ways of rounding, and the square root, take numbers of either type.
private theorem rounded_cells {round : Decimal → Option Int} {x : Operand} {n : Numbers}
    (hx : x.Fits rows σ) (hn : x.numbers? = some n) :
    (rounded round n).Fits rows .integer ∧
      ∀ row, (rounded round n).value? row = (x.value? row).bind (roundCell round) := by
  obtain ⟨type, datum⟩ := x
  cases type <;> cases hn
  · refine ⟨⟨rfl, hx.length⟩, fun row => ?_⟩
    simp only [rounded, value?]
    cases datum.cell? row <;> rfl
  · exact maps_map hx rfl fun d => bind_cellValue?_integer _

theorem evaluateUnary_of_type? {op : UnaryOp} {x : Operand} (htype : op.type? σ = some τ)
    (hx : x.Fits rows σ) :
    ∃ z, evaluateUnary op x = .ok z ∧ z.Fits rows τ ∧
      ∀ row, z.value? row = (x.value? row).bind op.onCell := by
  obtain ⟨type, datum⟩ := x
  obtain ⟨rfl, -⟩ := id hx
  cases op with
  | not =>
    cases σ <;> cases htype
    exact ⟨_, rfl, maps_map hx rfl fun b => rfl⟩
  | negate =>
    cases σ <;> cases htype
    · exact ⟨_, rfl, maps_map hx rfl fun n => bind_cellValue?_integer _⟩
    · exact ⟨_, rfl, maps_map hx rfl fun d => rfl⟩
  | sqrt =>
    cases σ <;> cases htype
    · refine ⟨⟨.float64, (Numbers.integers datum).toDecimals.map fun d => some d.sqrt⟩, rfl, ?_⟩
      rw [toDecimals_integers, Datum.map_map]
      exact maps_map hx rfl fun n => rfl
    · exact ⟨_, rfl, maps_map hx rfl fun d => rfl⟩
  | floor => cases σ <;> cases htype <;> exact ⟨_, rfl, rounded_cells hx rfl⟩
  | ceil => cases σ <;> cases htype <;> exact ⟨_, rfl, rounded_cells hx rfl⟩
  | round => cases σ <;> cases htype <;> exact ⟨_, rfl, rounded_cells hx rfl⟩
  | lowercase =>
    cases σ <;> cases htype
    exact ⟨_, rfl, maps_map hx rfl fun s => rfl⟩
  | uppercase =>
    cases σ <;> cases htype
    exact ⟨_, rfl, maps_map hx rfl fun s => rfl⟩

private theorem exists_numbers {x : Operand} (hx : x.Fits rows σ) (hσ : σ.isNumeric = true) :
    ∃ n, x.numbers? = some n ∧ ∀ operator, numbers operator x = .ok n := by
  obtain ⟨type, datum⟩ := x
  obtain ⟨rfl, -⟩ := hx
  cases σ <;> cases hσ <;> exact ⟨_, rfl, fun operator => rfl⟩

private theorem onDecimals_cells (f : Decimal → Decimal → Decimal) {x y : Operand} {m n : Numbers}
    (hx : x.Fits rows σ) (hy : y.Fits rows τ) (hm : x.numbers? = some m)
    (hn : y.numbers? = some n) :
    (onDecimals f m n).Fits rows .decimal ∧
      ∀ row, (onDecimals f m n).value? row =
        Datum.lift (decimalCells f) (x.value? row) (y.value? row) := by
  obtain ⟨s, a⟩ := x
  obtain ⟨t, b⟩ := y
  cases s <;> cases hm <;> cases t <;> cases hn <;>
    simp only [onDecimals, Numbers.toDecimals, Datum.zipWith_map_left, Datum.zipWith_map_right] <;>
    exact zips_zipWith hx hy rfl fun m n => rfl

private theorem onNumbers_cells (f : Int64 → Int64 → Option Int64)
    (g : Decimal → Decimal → Decimal) {x y : Operand} {m n : Numbers} (hx : x.Fits rows σ)
    (hy : y.Fits rows τ) (hm : x.numbers? = some m) (hn : y.numbers? = some n)
    (htype : numberType? σ τ = some ρ) :
    (onNumbers f g m n).Fits rows ρ ∧
      ∀ row, (onNumbers f g m n).value? row =
        Datum.lift (numberCells f g) (x.value? row) (y.value? row) := by
  have hdecimals := onDecimals_cells g hx hy hm hn
  obtain ⟨s, a⟩ := x
  obtain ⟨t, b⟩ := y
  obtain ⟨rfl, -⟩ := id hx
  obtain ⟨rfl, -⟩ := id hy
  cases σ <;> cases hm <;> cases τ <;> cases hn <;> cases htype
  · exact zips_zipWith hx hy rfl fun m n => bind_cellValue?_integer _
  all_goals
    refine ⟨hdecimals.1, fun row => (hdecimals.2 row).trans ?_⟩
    simp only [value?]
    cases a.cell? row <;> cases b.cell? row <;> rfl

private theorem compareOperands_cells (test : Ordering → Bool) {x y : Operand}
    (hx : x.Fits rows σ) (hy : y.Fits rows τ)
    (htype : σ = τ ∨ (σ.isNumeric = true ∧ τ.isNumeric = true)) :
    ∃ z, compareOperands test x y = .ok z ∧ z.Fits rows .boolean ∧
      ∀ row, z.value? row = Datum.lift (comparedCells test) (x.value? row) (y.value? row) := by
  obtain ⟨s, a⟩ := x
  obtain ⟨t, b⟩ := y
  obtain ⟨rfl, -⟩ := id hx
  obtain ⟨rfl, -⟩ := id hy
  cases σ <;> cases τ <;> simp [ScalarType.isNumeric] at htype
  · exact ⟨_, rfl, zips_zipWith hx hy rfl fun m n => rfl⟩
  · exact ⟨_, rfl, zips_zipWith hx hy rfl fun m n => rfl⟩
  · refine ⟨⟨.boolean, Datum.zipWith (fun d e => some (test (d.totalCompare e)))
      (Numbers.integers a).toDecimals b⟩, rfl, ?_⟩
    rw [toDecimals_integers, Datum.zipWith_map_left]
    exact zips_zipWith hx hy rfl fun m n => rfl
  · refine ⟨⟨.boolean, Datum.zipWith (fun d e => some (test (d.totalCompare e)))
      a (Numbers.integers b).toDecimals⟩, rfl, ?_⟩
    rw [toDecimals_integers, Datum.zipWith_map_right]
    exact zips_zipWith hx hy rfl fun m n => rfl
  · exact ⟨_, rfl, zips_zipWith hx hy rfl fun m n => rfl⟩
  · exact ⟨_, rfl, zips_zipWith hx hy rfl fun m n => rfl⟩

private theorem truths_cells (f : Bool → Bool → Bool) {x y : Operand} (hx : x.Fits rows .boolean)
    (hy : y.Fits rows .boolean) :
    ∃ a b, (∀ operator, truths operator x = .ok a) ∧ (∀ operator, truths operator y = .ok b) ∧
      (onTruths f a b).Fits rows .boolean ∧
      ∀ row, (onTruths f a b).value? row =
        Datum.lift (truthCells f) (x.value? row) (y.value? row) := by
  obtain ⟨s, a⟩ := x
  obtain ⟨t, b⟩ := y
  obtain ⟨rfl, -⟩ := id hx
  obtain ⟨rfl, -⟩ := id hy
  exact ⟨a, b, fun _ => rfl, fun _ => rfl, zips_zipWith hx hy rfl fun m n => rfl⟩

theorem isNumeric_of_numberType? (htype : numberType? σ τ = some ρ) :
    σ.isNumeric = true ∧ τ.isNumeric = true := by
  cases σ <;> cases τ <;> cases htype <;> exact ⟨rfl, rfl⟩

private theorem numbers_cells (f : Int64 → Int64 → Option Int64)
    (g : Decimal → Decimal → Decimal) (operator : String) {x y : Operand} (hx : x.Fits rows σ)
    (hy : y.Fits rows τ) (htype : numberType? σ τ = some ρ) :
    ∃ m n, numbers operator x = .ok m ∧ numbers operator y = .ok n ∧
      (onNumbers f g m n).Fits rows ρ ∧
      ∀ row, (onNumbers f g m n).value? row =
        Datum.lift (numberCells f g) (x.value? row) (y.value? row) := by
  have hnumeric := isNumeric_of_numberType? htype
  obtain ⟨m, hm, hm'⟩ := exists_numbers hx hnumeric.1
  obtain ⟨n, hn, hn'⟩ := exists_numbers hy hnumeric.2
  exact ⟨m, n, hm' _, hn' _, onNumbers_cells f g hx hy hm hn htype⟩

private theorem decimals_cells (f : Decimal → Decimal → Decimal) (operator : String) {x y : Operand}
    (hx : x.Fits rows σ) (hy : y.Fits rows τ)
    (htype : (if σ.isNumeric ∧ τ.isNumeric then some .decimal else none) = some ρ) :
    ∃ m n, numbers operator x = .ok m ∧ numbers operator y = .ok n ∧
      (onDecimals f m n).Fits rows ρ ∧
      ∀ row, (onDecimals f m n).value? row =
        Datum.lift (decimalCells f) (x.value? row) (y.value? row) := by
  obtain ⟨hnumeric, hρ⟩ := Option.ite_none_right_eq_some.mp htype
  obtain rfl := Option.some.inj hρ
  obtain ⟨m, hm, hm'⟩ := exists_numbers hx hnumeric.1
  obtain ⟨n, hn, hn'⟩ := exists_numbers hy hnumeric.2
  exact ⟨m, n, hm' _, hn' _, onDecimals_cells f hx hy hm hn⟩

theorem evaluateBinary_of_type? {op : BinaryOp} {x y : Operand} (htype : op.type? σ τ = some ρ)
    (hx : x.Fits rows σ) (hy : y.Fits rows τ) :
    ∃ z, evaluateBinary op x y = .ok z ∧ z.Fits rows ρ ∧
      ∀ row, z.value? row = Datum.lift op.onCells (x.value? row) (y.value? row) := by
  have harithmetic (f : Int64 → Int64 → Option Int64) (g : Decimal → Decimal → Decimal)
      (h : numberType? σ τ = some ρ) :
      ∃ z, (do return onNumbers f g (← numbers op.symbol x) (← numbers op.symbol y)) =
          Except.ok z ∧ z.Fits rows ρ ∧
        ∀ row, z.value? row = Datum.lift (numberCells f g) (x.value? row) (y.value? row) := by
    obtain ⟨m, n, hm, hn, hz⟩ := numbers_cells f g op.symbol hx hy h
    exact ⟨_, by rw [hm, hn]; rfl, hz⟩
  have hdecimal (f : Decimal → Decimal → Decimal)
      (h : (if σ.isNumeric ∧ τ.isNumeric then some .decimal else none) = some ρ) :
      ∃ z, (do return onDecimals f (← numbers op.symbol x) (← numbers op.symbol y)) =
          Except.ok z ∧ z.Fits rows ρ ∧
        ∀ row, z.value? row = Datum.lift (decimalCells f) (x.value? row) (y.value? row) := by
    obtain ⟨m, n, hm, hn, hz⟩ := decimals_cells f op.symbol hx hy h
    exact ⟨_, by rw [hm, hn]; rfl, hz⟩
  have hcompared (test : Ordering → Bool)
      (h : (if σ = τ ∨ (σ.isNumeric ∧ τ.isNumeric) then some .boolean else none) = some ρ) :
      ∃ z, compareOperands test x y = .ok z ∧ z.Fits rows ρ ∧
        ∀ row, z.value? row = Datum.lift (comparedCells test) (x.value? row) (y.value? row) := by
    obtain ⟨hnumeric, hρ⟩ := Option.ite_none_right_eq_some.mp h
    obtain rfl := Option.some.inj hρ
    exact compareOperands_cells test hx hy hnumeric
  have htruth (f : Bool → Bool → Bool)
      (h : (if σ = .boolean ∧ τ = .boolean then some .boolean else none) = some ρ) :
      ∃ z, (do return onTruths f (← truths op.symbol x) (← truths op.symbol y)) =
          Except.ok z ∧ z.Fits rows ρ ∧
        ∀ row, z.value? row = Datum.lift (truthCells f) (x.value? row) (y.value? row) := by
    obtain ⟨⟨rfl, rfl⟩, hρ⟩ := Option.ite_none_right_eq_some.mp h
    obtain rfl := Option.some.inj hρ
    obtain ⟨a, b, ha, hb, hz⟩ := truths_cells f hx hy
    exact ⟨_, by rw [ha, hb]; rfl, hz⟩
  cases op with
  | add => exact harithmetic _ _ htype
  | subtract => exact harithmetic _ _ htype
  | multiply => exact harithmetic _ _ htype
  | divide => exact hdecimal _ htype
  | modulo => exact harithmetic _ _ htype
  | pow => exact hdecimal _ htype
  | root => exact hdecimal _ htype
  | equal => exact hcompared _ htype
  | notEqual => exact hcompared _ htype
  | less => exact hcompared _ htype
  | lessEqual => exact hcompared _ htype
  | greater => exact hcompared _ htype
  | greaterEqual => exact hcompared _ htype
  | and => exact htruth _ htype
  | or => exact htruth _ htype
  | xor => exact htruth _ htype

end TableFlow.Formula
