import TableFlow.Formula.Operand

namespace TableFlow.Formula

attribute [local instance (10000)] instPowNat

open Operand

-- The integer that a rounded decimal denotes, for magnitudes below `2 ^ 63`.
def roundedInteger? (n : Option Int) : Option Int64 :=
  n.bind fun n => if n.natAbs < 2 ^ (63 : Nat) then Integer.ofInt? n else none

-- Integers stay as they are; decimals become integers.
def rounded (round : Decimal → Option Int) : Numbers → Operand
  | .integers datum => ⟨.int64, datum⟩
  | .decimals datum => ⟨.int64, datum.map fun d => roundedInteger? (round d)⟩

def negated : Numbers → Operand
  | .integers datum => ⟨.int64, datum.map Integer.neg?⟩
  | .decimals datum => ⟨.float64, datum.map fun d => some d.neg⟩

def evaluateUnary (op : UnaryOp) (x : Operand) : Except FormulaError Operand :=
  match op with
  | .not => do return ⟨.boolean, (← truths op.symbol x).map fun b => some !b⟩
  | .negate => do return negated (← numbers op.symbol x)
  | .sqrt => do
    return ⟨.float64, (← numbers op.symbol x).toDecimals.map fun d => some d.sqrt⟩
  | .floor => do return rounded Decimal.floor? (← numbers op.symbol x)
  | .ceil => do return rounded Decimal.ceil? (← numbers op.symbol x)
  | .round => do return rounded Decimal.round? (← numbers op.symbol x)
  | .lowercase => do
    return ⟨.utf8, (← texts op.symbol x).map fun s => some (Text.toLower s)⟩
  | .uppercase => do
    return ⟨.utf8, (← texts op.symbol x).map fun s => some (Text.toUpper s)⟩

def onDecimals (f : Decimal → Decimal → Decimal) (x y : Numbers) : Operand :=
  ⟨.float64, Datum.zipWith (fun a b => some (f a b)) x.toDecimals y.toDecimals⟩

-- Two integers give an integer, any other pair of numbers a decimal.
def onNumbers (f : Int64 → Int64 → Option Int64) (g : Decimal → Decimal → Decimal) :
    Numbers → Numbers → Operand
  | .integers a, .integers b => ⟨.int64, Datum.zipWith f a b⟩
  | x, y => onDecimals g x y

def onTruths (f : Bool → Bool → Bool) (x y : Datum Bool) : Operand :=
  ⟨.boolean, Datum.zipWith (fun a b => some (f a b)) x y⟩

-- Compares cells of one type, if they have an order.
def compareAlike (test : Ordering → Bool) (x y : Operand) : Except FormulaError Operand :=
  match x.type.compareCells? with
  | some compare =>
    if h : y.type = x.type then
      .ok ⟨.boolean, Datum.zipWith (fun a b => some (test (compare a b))) x.datum (h ▸ y.datum)⟩
    else .error (.incomparable x.type y.type)
  | none => .error (.incomparable x.type y.type)

-- Two series of numbers are compared as integers if both are, and as decimals otherwise. All others
-- have to be of one type.
def compareOperands (test : Ordering → Bool) (x y : Operand) : Except FormulaError Operand :=
  match x.numbers?, y.numbers? with
  | some (.integers a), some (.integers b) =>
    .ok ⟨.boolean, Datum.zipWith (fun m n => some (test (Ord.compare m.toInt n.toInt))) a b⟩
  | some a, some b =>
    .ok ⟨.boolean,
      Datum.zipWith (fun d e => some (test (d.totalCompare e))) a.toDecimals b.toDecimals⟩
  | _, _ => compareAlike test x y

def evaluateBinary (op : BinaryOp) (x y : Operand) : Except FormulaError Operand :=
  let both (f : Numbers → Numbers → Operand) : Except FormulaError Operand := do
    return f (← numbers op.symbol x) (← numbers op.symbol y)
  let bothTruths (f : Bool → Bool → Bool) : Except FormulaError Operand := do
    return onTruths f (← truths op.symbol x) (← truths op.symbol y)
  match op with
  | .add => both (onNumbers Integer.add? Decimal.add)
  | .subtract => both (onNumbers Integer.sub? Decimal.sub)
  | .multiply => both (onNumbers Integer.mul? Decimal.mul)
  | .divide => both (onDecimals Decimal.div)
  | .modulo => both (onNumbers Integer.rem? Decimal.rem)
  | .pow => both (onDecimals Decimal.pow)
  | .root => both (onDecimals Decimal.root)
  | .equal => compareOperands Ordering.isEq x y
  | .notEqual => compareOperands Ordering.isNe x y
  | .less => compareOperands Ordering.isLT x y
  | .lessEqual => compareOperands Ordering.isLE x y
  | .greater => compareOperands Ordering.isGT x y
  | .greaterEqual => compareOperands Ordering.isGE x y
  | .and => bothTruths and
  | .or => bothTruths or
  | .xor => bothTruths xor

-- Evaluates a formula, given the columns by name. The left operand is evaluated first.
def evaluate (column? : String → Option Series) : Formula → Except FormulaError Operand
  | .column name =>
    match column? name with
    | some series => .ok (ofSeries series)
    | none => .error (.missingColumn name)
  | .literal value => ofLiteral value
  | .unary op operand => do evaluateUnary op (← operand.evaluate column?)
  | .binary op left right => do
    let x ← left.evaluate column?
    let y ← right.evaluate column?
    evaluateBinary op x y
  | .cast operand type => do (← operand.evaluate column?).cast type

end TableFlow.Formula
