import TableFlow.Evaluation.Error
import TableFlow.Evaluation.Scope
import TableFlow.Formula.Eval

namespace TableFlow

open EvalError

namespace Operator

def fail {α : Type} (error : ArithmeticError) : Except EvalError α := .error (.arithmetic error)

def mismatch {α : Type} (symbol : String) (operands : List Value) : Except EvalError α :=
  .error (.typeMismatch symbol (operands.map Value.kind))

-- The result of an integer operation, which is missing where it is not a word.
def integerResult : Option Int64 → Except EvalError Value
  | some n => .ok (.integer n)
  | none => fail .unknown

-- The result of an operation on decimals, which fails for the given reason if it is not finite.
def finiteResult (reason : ArithmeticError) (d : Decimal) : Except EvalError Value :=
  if d.isFinite then .ok (.decimal d) else fail reason

def isBelowZero (d : Decimal) : Bool := d.compare? (Decimal.zero false) = some .lt

-- Rounds a decimal to an integer, and leaves integers as they are.
def round (symbol : String) (toInt? : Decimal → Option Int) : Value → Except EvalError Value
  | .integer n => .ok (.integer n)
  | .decimal d => integerResult (Formula.roundedInteger? (toInt? d))
  | value => mismatch symbol [value]

-- Reads a text as a value of a primitive type with literals.
def readAs (symbol : String) (type : Primitive) : Value → Except EvalError Value
  | .text s =>
    match type.literal? s with
    | some value => .ok value
    | none => .error (.unreadable s type)
  | value => mismatch symbol [value]

-- The order of two values: of integers, texts or booleans with one another, and of any other two
-- numbers as decimals.
def compare? : Value → Value → Option Ordering
  | .integer a, .integer b => some (Ord.compare a.toInt b.toInt)
  | .text a, .text b => some (Ord.compare a b)
  | .boolean a, .boolean b => some (Ord.compare a b)
  | a, b => a.number?.bind fun x => b.number?.bind fun y => x.compare? y

def numbers (symbol : String) (a b : Value) : Except EvalError (Decimal × Decimal) :=
  match a.number?, b.number? with
  | some x, some y => .ok (x, y)
  | _, _ => mismatch symbol [a, b]

def truths (symbol : String) (a b : Value) : Except EvalError (Bool × Bool) :=
  match a, b with
  | .boolean x, .boolean y => .ok (x, y)
  | a, b => mismatch symbol [a, b]

-- Two integers give an integer, any other pair of numbers a decimal.
def arithmetic (symbol : String) (onIntegers : Int64 → Int64 → Option Int64)
    (onDecimals : Decimal → Decimal → Decimal) (a b : Value) : Except EvalError Value :=
  match a, b with
  | .integer m, .integer n => integerResult (onIntegers m n)
  | a, b => do
    let (x, y) ← numbers symbol a b
    finiteResult .unknown (onDecimals x y)

def divide (x y : Decimal) : Except EvalError Value :=
  if y.isZero then fail .divisionByZero else finiteResult .unknown (x.div y)

def power (base exponent : Decimal) : Except EvalError Value :=
  finiteResult (if base.isZero ∧ isBelowZero exponent then .zeroToNegative else .unknown)
    (base.pow exponent)

def root (radicand degree : Decimal) : Except EvalError Value :=
  if degree.isZero then fail .degreeZero
  else
    finiteResult
      (if radicand.isZero ∧ isBelowZero degree then .zeroRootNegative
        else if isBelowZero radicand then .degreeRootOfNegative else .unknown)
      (radicand.root degree)

def test (symbol : String) (accepts : Ordering → Bool) (a b : Value) : Except EvalError Value :=
  match compare? a b with
  | some order => .ok (.boolean (accepts order))
  | none => mismatch symbol [a, b]

-- Whether a value may be looked for in a collection.
def isSearchable : Value → Bool
  | .text _ | .integer _ | .decimal _ => true
  | _ => false

end Operator

open Operator

-- Applies an operator to a value.
def UnaryOp.apply (op : UnaryOp) (operand : Value) : Except EvalError Value :=
  match op with
  | .not =>
    match operand with
    | .boolean b => .ok (.boolean !b)
    | _ => mismatch op.symbol [operand]
  | .plus => if operand.isNumeric then .ok operand else mismatch op.symbol [operand]
  | .minus =>
    match operand with
    | .integer n => integerResult (Integer.neg? n)
    | .decimal d => .ok (.decimal d.neg)
    | _ => mismatch op.symbol [operand]
  | .sqrt =>
    match operand.number? with
    | some d => if isBelowZero d then fail .rootOfNegative else finiteResult .unknown d.sqrt
    | none => mismatch op.symbol [operand]
  | .floor => Operator.round op.symbol Decimal.floor? operand
  | .ceil => Operator.round op.symbol Decimal.ceil? operand
  | .round => Operator.round op.symbol Decimal.round? operand
  | .lowercase =>
    match operand with
    | .text s => .ok (.text (Text.toLower s))
    | _ => mismatch op.symbol [operand]
  | .uppercase =>
    match operand with
    | .text s => .ok (.text (Text.toUpper s))
    | _ => mismatch op.symbol [operand]
  | .asText =>
    match operand with
    | .boolean _ | .integer _ | .decimal _ | .text _ => .ok (.text operand.render)
    | _ => mismatch op.symbol [operand]
  | .asDecimal => readAs op.symbol .decimal operand
  | .asInteger => readAs op.symbol .integer operand
  | .asBoolean => readAs op.symbol .boolean operand

-- Applies an operator to two values.
def BinaryOp.apply (op : BinaryOp) (a b : Value) : Except EvalError Value :=
  match op with
  | .pow => do
    let (x, y) ← numbers op.symbol a b
    power x y
  | .root => do
    let (x, y) ← numbers op.symbol a b
    Operator.root x y
  | .multiply => arithmetic op.symbol Integer.mul? Decimal.mul a b
  | .divide => do
    let (x, y) ← numbers op.symbol a b
    Operator.divide x y
  | .modulo => do
    let (_, y) ← numbers op.symbol a b
    if y.isZero then fail .moduloByZero else arithmetic op.symbol Integer.rem? Decimal.rem a b
  | .add => arithmetic op.symbol Integer.add? Decimal.add a b
  | .subtract => arithmetic op.symbol Integer.sub? Decimal.sub a b
  | .matches =>
    match a, b with
    | .text s, .regex r => .ok (.boolean (r.isMatch s))
    | _, _ => mismatch op.symbol [a, b]
  | .isIn =>
    match b with
    | .collection items =>
      if isSearchable a then
        .ok (.boolean (items.any fun item => compare? a item = some .eq))
      else mismatch op.symbol [a, b]
    | _ => mismatch op.symbol [a, b]
  | .less => test op.symbol Ordering.isLT a b
  | .lessEqual => test op.symbol Ordering.isLE a b
  | .greater => test op.symbol Ordering.isGT a b
  | .greaterEqual => test op.symbol Ordering.isGE a b
  | .equal => test op.symbol Ordering.isEq a b
  | .notEqual => test op.symbol Ordering.isNe a b
  | .xor => do
    let (x, y) ← truths op.symbol a b
    return .boolean (x != y)
  | .and => do
    let (x, y) ← truths op.symbol a b
    return .boolean (x && y)
  | .or => do
    let (x, y) ← truths op.symbol a b
    return .boolean (x || y)

-- Applies an operator to three values.
def TernaryOp.apply (op : TernaryOp) (a b c : Value) : Except EvalError Value :=
  match op with
  | .replace =>
    match a, b, c with
    | .text s, .regex r, .text replacement => .ok (.text (r.replaceAll s replacement))
    | _, _, _ => mismatch op.symbol [a, b, c]

-- The result that the left operand alone decides.
def BinaryOp.shortCircuit? (op : BinaryOp) (left : Value) : Option Value :=
  match op, left with
  | .and, .boolean false => some (.boolean false)
  | .or, .boolean true => some (.boolean true)
  | _, _ => none

-- What an operator makes of a column, if it has a form for columns.
def UnaryOp.onColumn? (op : UnaryOp) (operand : Formula) : Option Formula :=
  match op with
  | .not => some (.unary .not operand)
  | .plus => some operand
  | .minus => some (.unary .negate operand)
  | .sqrt => some (.unary .sqrt operand)
  | .floor => some (.unary .floor operand)
  | .ceil => some (.unary .ceil operand)
  | .round => some (.unary .round operand)
  | .lowercase => some (.unary .lowercase operand)
  | .uppercase => some (.unary .uppercase operand)
  | .asText | .asDecimal | .asInteger | .asBoolean => none

-- How an operator with two operands works on columns.
inductive ColumnForm where
  -- Either operand may be a column; a value beside it has to pass a test.
  | elementwise (op : Formula.BinaryOp) (accepts : Value → Bool)
  -- The right operand has to be a number.
  | exponent (op : Formula.BinaryOp)
  | unsupported

namespace BinaryOp

def isTruth : Value → Bool
  | .boolean _ => true
  | _ => false

def isComparable : Value → Bool
  | .boolean _ | .integer _ | .decimal _ | .text _ => true
  | _ => false

def columnForm : BinaryOp → ColumnForm
  | .pow => .exponent .pow
  | .root => .exponent .root
  | .multiply => .elementwise .multiply Value.isNumeric
  | .divide => .elementwise .divide Value.isNumeric
  | .modulo => .elementwise .modulo Value.isNumeric
  | .add => .elementwise .add Value.isNumeric
  | .subtract => .elementwise .subtract Value.isNumeric
  | .matches => .unsupported
  | .isIn => .unsupported
  | .less => .elementwise .less isComparable
  | .lessEqual => .elementwise .lessEqual isComparable
  | .greater => .elementwise .greater isComparable
  | .greaterEqual => .elementwise .greaterEqual isComparable
  | .equal => .elementwise .equal isComparable
  | .notEqual => .elementwise .notEqual isComparable
  | .xor => .elementwise .xor isTruth
  | .and => .elementwise .and isTruth
  | .or => .elementwise .or isTruth

end BinaryOp

def UnaryOp.applySymbolic (op : UnaryOp) : Symbolic → Except EvalError Symbolic
  | .scalar value => (op.apply value).map .scalar
  | .column formula =>
    match op.onColumn? formula with
    | some result => .ok (.column result)
    | none => .error (.unsupported op.symbol)

-- A column beside a column or a value.
def BinaryOp.onColumns (op : BinaryOp) (a b : Symbolic) : Except EvalError Symbolic :=
  match op.columnForm with
  | .elementwise form accepts =>
    match [a, b].findSome? fun
      | .scalar value => if accepts value then none else some value
      | .column _ => none with
    | some value => mismatch op.symbol [value]
    | none => .ok (.column (.binary form a.formula b.formula))
  | .exponent form =>
    match a, b with
    | .column base, .scalar exponent =>
      match exponent.number? with
      | some d =>
        if form = .root ∧ d.isZero then fail .degreeZero
        else .ok (.column (.binary form base (.literal exponent)))
      | none => mismatch op.symbol [exponent]
    | _, _ => .error (.unsupported op.symbol)
  | .unsupported => .error (.unsupported op.symbol)

def BinaryOp.applySymbolic (op : BinaryOp) (a b : Symbolic) : Except EvalError Symbolic :=
  match a, b with
  | .scalar x, .scalar y => (op.apply x y).map .scalar
  | _, _ => op.onColumns a b

def TernaryOp.applySymbolic (op : TernaryOp) (a b c : Symbolic) : Except EvalError Symbolic :=
  match a, b, c with
  | .scalar x, .scalar y, .scalar z => (op.apply x y z).map .scalar
  | _, _, _ => .error (.unsupported op.symbol)

end TableFlow
