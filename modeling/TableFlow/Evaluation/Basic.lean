import TableFlow.Evaluation.Operator
import TableFlow.Evaluation.Outcome

namespace TableFlow

-- The lazy strategy stops at the first operand without a value and skips a right operand that
-- cannot change the result; the exhaustive one evaluates every operand, so that all diagnostics
-- are reported.
inductive Strategy where
  | lazy
  | exhaustive
deriving DecidableEq

def Strategy.name : Strategy → String
  | .lazy => "lazy"
  | .exhaustive => "exhaustive"

-- The value of a variable.
def Scope.value (s : Scope) (name : String) : Except EvalError Value :=
  match s.lookup? name with
  | some (.scalar value) => .ok value
  | some (.column _) => .error (.boundToColumn name)
  | none => .error (.undefined name)

-- What a variable stands for.
def Scope.meaning (s : Scope) (name : String) : Except EvalError Symbolic :=
  match s.lookup? name with
  | some meaning => .ok meaning
  | none => .error (.undefined name)

variable (strategy : Strategy) (scope : Scope)

mutual

-- The value of an expression.
def Expr.evaluate (e : Expr) : Outcome Value :=
  match e with
  | .literal value _ => value.evaluate e
  | .var name _ => .report e (scope.value name)
  | .unary op operand _ => do
    let a ← operand.evaluate
    .report e (op.apply a)
  | .binary op left right _ =>
    match strategy with
    | .lazy => do
      let a ← left.evaluate
      match op.shortCircuit? a with
      | some result => return result
      | none =>
        let b ← right.evaluate
        .report e (op.apply a b)
    | .exhaustive => do
      let (a, b) ← left.evaluate.both right.evaluate
      .report e (op.apply a b)
  | .ternary op first second third _ =>
    match strategy with
    | .lazy => do
      let a ← first.evaluate
      let (b, c) ← second.evaluate.both third.evaluate
      .report e (op.apply a b c)
    | .exhaustive => do
      let (a, b, c) ← first.evaluate.both (second.evaluate.both third.evaluate)
      .report e (op.apply a b c)

-- The value of a literal that stands as the expression `e`.
def Literal.evaluate (e : Expr) : Literal → Outcome Value
  | .boolean value => return .boolean value
  | .integer value => return .integer value
  | .decimal value => return .decimal value
  | .text value => return .text value
  | .regex pattern =>
    .report e (((Regex.compile pattern).map Value.regex).mapError (.invalidRegex pattern))
  | .cellRange value => return .cellRange value
  | .constraint value => return .constraint value
  | .assignment value => return .assignment value
  | .transform value => return .transform value
  | .collection items => do
    let values ← Expr.evaluateAll items
    return .collection values

-- Evaluates all items, also behind one that has no value.
def Expr.evaluateAll : List Expr → Outcome (List Value)
  | [] => return []
  | e :: es => do
    let (v, vs) ← e.evaluate.both (Expr.evaluateAll es)
    return v :: vs

end

-- The value or the column of an expression in which variables may stand for columns.
def Expr.evaluateSymbolic (e : Expr) : Outcome Symbolic :=
  match e with
  | .literal .. => do
    let a ← e.evaluate strategy scope
    return .scalar a
  | .var name _ => .report e (scope.meaning name)
  | .unary op operand _ => do
    let a ← operand.evaluateSymbolic
    .report e (op.applySymbolic a)
  | .binary op left right _ =>
    match strategy with
    | .lazy => do
      let a ← left.evaluateSymbolic
      let decided := match a with
        | .scalar value => op.shortCircuit? value
        | .column _ => none
      match decided with
      | some result => return .scalar result
      | none =>
        let b ← right.evaluateSymbolic
        .report e (op.applySymbolic a b)
    | .exhaustive => do
      let (a, b) ← left.evaluateSymbolic.both right.evaluateSymbolic
      .report e (op.applySymbolic a b)
  | .ternary op first second third _ =>
    match strategy with
    | .lazy => do
      let a ← first.evaluateSymbolic
      let (b, c) ← second.evaluateSymbolic.both third.evaluateSymbolic
      .report e (op.applySymbolic a b c)
    | .exhaustive => do
      let (a, b, c) ←
        first.evaluateSymbolic.both (second.evaluateSymbolic.both third.evaluateSymbolic)
      .report e (op.applySymbolic a b c)

end TableFlow
