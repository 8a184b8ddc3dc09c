import TableFlow.Proofs.Expression.Operators
import TableFlow.Evaluation.Basic
import TableFlow.Proofs.Expression.Outcome

namespace TableFlow

-- The literals of scalar types.
def Literal.scalar? : Literal → Option Value
  | .boolean b => some (.boolean b)
  | .integer n => some (.integer n)
  | .decimal d => some (.decimal d)
  | .text s => some (.text s)
  | _ => none

inductive Carried where
  -- No row has a value.
  | failed
  -- A value that was computed for all rows.
  | constant (value : Value)
  | cell (content : Option Value)

namespace Carried

def content : Carried → Option Value
  | .failed => none
  | .constant v => some v
  | .cell c => c

-- An infinity or a NaN.
def isNonFinite (κ : Carried) : Bool := κ.content.any fun v => !v.isFinite

def ofResult : Except EvalError Value → Carried
  | .ok v => .constant v
  | .error _ => .failed

end Carried

def UnaryOp.carry (op : UnaryOp) : Carried → Carried
  | .failed => .failed
  | .constant v => .ofResult (op.apply v)
  | .cell c => .cell (c.bind op.onCell)

-- A root of degree zero is noticed before it is computed.
def BinaryOp.carryCells (op : BinaryOp) (a b : Option Value) : Carried :=
  if op = .root ∧ b.any Value.isZero then .failed else .cell (Formula.Datum.lift op.onCells a b)

def BinaryOp.carry (op : BinaryOp) : Carried → Carried → Carried
  | .failed, _ => .failed
  | _, .failed => .failed
  | .constant v, .constant w => .ofResult (op.apply v w)
  | κ, μ => op.carryCells κ.content μ.content

namespace Expr

-- Only a constant on the left can keep the right operand from being evaluated.
def carried (cells : String → Option Value) : Expr → Carried
  | .literal l _ => match l.scalar? with | some v => .constant v | none => .failed
  | .var name _ => .cell (cells name)
  | .unary op operand _ => op.carry (operand.carried cells)
  | .binary op left right _ =>
    match left.carried cells with
    | .constant v =>
      match op.shortCircuit? v with
      | some result => .constant result
      | none => op.carry (.constant v) (right.carried cells)
    | κ => op.carry κ (right.carried cells)
  | .ternary .. => .failed

-- Expressions over operators with a form for columns, applied to operands of suitable types. An
-- exponent or a degree mentions no variable.
inductive Typed : (String → Option ScalarType) → Expr → ScalarType → Prop where
  | literal {Γ l location v σ} (hl : l.scalar? = some v) (hv : v.scalarType? = some σ)
      (hfinite : v.isFinite = true) : Typed Γ (.literal l location) σ
  | var {Γ name location σ} (h : Γ name = some σ) : Typed Γ (.var name location) σ
  | unary {Γ op operand location σ τ} (h : Typed Γ operand σ) (htype : op.type? σ = some τ) :
      Typed Γ (.unary op operand location) τ
  | binary {Γ op left right location σ τ ρ} (h : Typed Γ left σ) (h' : Typed Γ right τ)
      (hop : op.takesExponent = false) (htype : op.type? σ τ = some ρ) :
      Typed Γ (.binary op left right location) ρ
  | exponent {Γ op left right location σ τ ρ} (h : Typed Γ left σ)
      (h' : Typed (fun _ => none) right τ) (hop : op.takesExponent = true)
      (htype : op.type? σ τ = some ρ) : Typed Γ (.binary op left right location) ρ

-- Some part of an expression has a property, be it the whole.
inductive HasPart (P : Expr → Prop) : Expr → Prop where
  | here {e} (h : P e) : HasPart P e
  | operand {op operand location} (h : HasPart P operand) : HasPart P (.unary op operand location)
  | left {op left right location} (h : HasPart P left) : HasPart P (.binary op left right location)
  | right {op left right location} (h : HasPart P right) :
    HasPart P (.binary op left right location)

-- An operator makes something finite of an operand that is not.
def Absorbs (cells : String → Option Value) : Expr → Prop
  | .binary op left right location =>
    op.absorbs = true ∧
      ((left.carried cells).isNonFinite = true ∨ (right.carried cells).isNonFinite = true) ∧
      isLost ((Expr.binary op left right location).carried cells).content = false
  | _ => False

-- The left operand decides the result in a row where the right one is null.
def SkipsNull (scope : Scope) (cells : String → Option Value) : Expr → Prop
  | .binary op left right _ =>
    (∃ a, (left.evaluate .lazy scope).value = some a ∧ (op.shortCircuit? a).isSome = true) ∧
      right.carried cells = .cell none
  | _ => False

-- Zeros of different signs are compared.
def ComparesZeros (cells : String → Option Value) : Expr → Prop
  | .binary op left right _ =>
    op.isComparison = true ∧ ∃ a b, (left.carried cells).content = some a ∧
      (right.carried cells).content = some b ∧ a.OppositeZeros b
  | _ => False

theorem carried_binary {op : BinaryOp} {left right : Expr} {location : Location}
    {cells : String → Option Value}
    (h : ∀ v, left.carried cells = .constant v → op.shortCircuit? v = none) :
    (Expr.binary op left right location).carried cells =
      op.carry (left.carried cells) (right.carried cells) := by
  rw [carried]
  split
  next v hv => rw [h v hv, hv]
  next => rfl

theorem carried_binary_of_decided {op : BinaryOp} {left right : Expr} {location : Location}
    {cells : String → Option Value} {v result : Value} (hv : left.carried cells = .constant v)
    (h : op.shortCircuit? v = some result) :
    (Expr.binary op left right location).carried cells = .constant result := by
  rw [carried, hv]
  simp only [h]

theorem evaluate_literal {l : Literal} {v : Value} {scope : Scope} (hl : l.scalar? = some v)
    (location : Location) :
    (Expr.literal l location).evaluate .lazy scope = Outcome.pure v := by
  rw [Expr.evaluate]
  cases l <;> cases hl <;> rfl

end Expr

end TableFlow
