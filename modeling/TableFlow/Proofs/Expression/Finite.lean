import TableFlow.Proofs.Expression.Strategies
import TableFlow.Proofs.Decimal.NonFinite
import TableFlow.Proofs.Except
import TableFlow.Proofs.ValueType

namespace TableFlow

namespace Value

mutual

-- The decimals in a value, in collections at any depth.
def decimals : Value → List Decimal
  | .decimal d => [d]
  | .collection items => decimalsOfAll items
  | _ => []

def decimalsOfAll : List Value → List Decimal
  | [] => []
  | v :: vs => v.decimals ++ decimalsOfAll vs

end

-- There is neither an infinity nor a NaN in a value.
def AllFinite (v : Value) : Prop := ∀ d ∈ v.decimals, d.isFinite = true

instance (v : Value) : Decidable v.AllFinite :=
  inferInstanceAs (Decidable (∀ d ∈ v.decimals, d.isFinite = true))

variable {d : Decimal}

@[simp]
theorem allFinite_boolean (b : Bool) : (boolean b).AllFinite := fun _ hd => nomatch hd

@[simp]
theorem allFinite_integer (n : Int64) : (integer n).AllFinite := fun _ hd => nomatch hd

@[simp]
theorem allFinite_text (s : String) : (text s).AllFinite := fun _ hd => nomatch hd

@[simp]
theorem allFinite_decimal : (decimal d).AllFinite ↔ d.isFinite = true := List.forall_mem_singleton

end Value

-- A value of a primitive type is no collection, and a decimal of the type is finite.
theorem Primitive.allFinite_of_represents {p : Primitive} {v : Value} (h : p.represents v = true) :
    v.AllFinite := by
  cases v with
  | decimal d =>
      cases p <;> first | cases h | exact Value.allFinite_decimal.mpr h
  | collection items => cases p <;> cases h
  | _ => exact fun d hd => nomatch hd

mutual

-- The decimal literals of an expression, also in the items of collections.
def Expr.decimals : Expr → List Decimal
  | .literal value _ => value.decimals
  | .var .. => []
  | .unary _ operand _ => operand.decimals
  | .binary _ left right _ => left.decimals ++ right.decimals
  | .ternary _ first second third _ => first.decimals ++ (second.decimals ++ third.decimals)

def Literal.decimals : Literal → List Decimal
  | .decimal d => [d]
  | .collection items => Expr.decimalsOfAll items
  | _ => []

def Expr.decimalsOfAll : List Expr → List Decimal
  | [] => []
  | e :: es => e.decimals ++ Expr.decimalsOfAll es

end

namespace Operator

variable {a b v w : Value} {symbol : String}

theorem allFinite_integerResult {n : Option Int64} (h : integerResult n = .ok w) :
    w.AllFinite := by
  cases n with
  | none => cases h
  | some n =>
      cases h
      exact Value.allFinite_integer n

theorem allFinite_finiteResult {reason : ArithmeticError} {d : Decimal}
    (h : finiteResult reason d = .ok w) : w.AllFinite := by
  unfold finiteResult at h
  split at h
  next hfinite =>
    cases h
    exact Value.allFinite_decimal.mpr hfinite
  next => cases h

theorem allFinite_round {toInt? : Decimal → Option Int} (h : round symbol toInt? v = .ok w) :
    w.AllFinite := by
  cases v with
  | integer n =>
      cases h
      exact Value.allFinite_integer n
  | decimal d => exact allFinite_integerResult h
  | _ => cases h

-- What a text denotes is of the type that it is read as.
theorem allFinite_readAs {p : Primitive} (h : readAs symbol p v = .ok w) : w.AllFinite := by
  cases v with
  | text s =>
      rw [readAs] at h
      split at h
      next hvalue =>
        cases h
        exact Primitive.allFinite_of_represents (Primitive.represents_of_literal? hvalue)
      next => cases h
  | _ => cases h

theorem allFinite_arithmetic {f : Int64 → Int64 → Option Int64} {g : Decimal → Decimal → Decimal}
    (h : arithmetic symbol f g a b = .ok w) : w.AllFinite := by
  unfold arithmetic at h
  split at h
  · exact allFinite_integerResult h
  · obtain ⟨⟨x, y⟩, -, h⟩ := exists_of_bind h
    exact allFinite_finiteResult h

theorem allFinite_root {x y : Decimal} (h : Operator.root x y = .ok w) : w.AllFinite := by
  unfold root at h
  split at h
  · cases h
  · exact allFinite_finiteResult h

theorem allFinite_divide {x y : Decimal} (h : divide x y = .ok w) : w.AllFinite := by
  unfold divide at h
  split at h
  · cases h
  · exact allFinite_finiteResult h

theorem allFinite_test {accepts : Ordering → Bool} (h : test symbol accepts a b = .ok w) :
    w.AllFinite := by
  unfold test at h
  split at h
  · cases h
    exact Value.allFinite_boolean _
  · cases h

theorem allFinite_truths {f : Bool × Bool → Bool}
    (h : (truths symbol a b >>= fun p => pure (.boolean (f p))) = .ok w) : w.AllFinite := by
  obtain ⟨p, -, h⟩ := exists_of_bind h
  cases h
  exact Value.allFinite_boolean _

end Operator

open Operator

-- The signs hand on the decimal of their operand. Every other result has been looked at or is none.
theorem UnaryOp.allFinite_apply {op : UnaryOp} {v w : Value} (hv : v.AllFinite)
    (h : op.apply v = .ok w) : w.AllFinite := by
  cases op with
  | plus =>
      rw [UnaryOp.apply] at h
      split at h
      · cases h
        exact hv
      · cases h
  | minus =>
      cases v with
      | integer n => exact allFinite_integerResult h
      | decimal d =>
          cases h
          rw [Value.allFinite_decimal] at hv ⊢
          rw [Decimal.isFinite_neg, hv]
      | _ => cases h
  | sqrt =>
      rw [UnaryOp.apply] at h
      split at h
      · split at h
        · cases h
        · exact allFinite_finiteResult h
      · cases h
  | floor => exact allFinite_round h
  | ceil => exact allFinite_round h
  | round => exact allFinite_round h
  | asDecimal => exact allFinite_readAs h
  | asInteger => exact allFinite_readAs h
  | asBoolean => exact allFinite_readAs h
  | not | lowercase | uppercase | asText => cases v <;> cases h <;> simp

-- Whatever the operands are, a result is finite.
theorem BinaryOp.allFinite_apply {op : BinaryOp} {a b w : Value} (h : op.apply a b = .ok w) :
    w.AllFinite := by
  cases op with
  | multiply => exact allFinite_arithmetic h
  | add => exact allFinite_arithmetic h
  | subtract => exact allFinite_arithmetic h
  | modulo =>
      obtain ⟨p, -, h⟩ := exists_of_bind h
      dsimp only at h
      split at h
      · cases h
      · exact allFinite_arithmetic h
  | pow =>
      obtain ⟨p, -, h⟩ := exists_of_bind h
      exact allFinite_finiteResult h
  | root =>
      obtain ⟨p, -, h⟩ := exists_of_bind h
      exact allFinite_root h
  | divide =>
      obtain ⟨p, -, h⟩ := exists_of_bind h
      exact allFinite_divide h
  | «matches» =>
      cases a <;> cases b <;> cases h
      exact Value.allFinite_boolean _
  | isIn =>
      cases b with
      | collection items =>
          rw [BinaryOp.apply] at h
          split at h
          · cases h
            exact Value.allFinite_boolean _
          · cases h
      | _ => cases h
  | less | lessEqual | greater | greaterEqual | equal | notEqual => exact allFinite_test h
  | xor | and | or => exact allFinite_truths h

theorem BinaryOp.allFinite_shortCircuit? {op : BinaryOp} {a w : Value}
    (h : op.shortCircuit? a = some w) : w.AllFinite := by
  unfold shortCircuit? at h
  split at h <;> cases h <;> exact Value.allFinite_boolean _

theorem TernaryOp.allFinite_apply {op : TernaryOp} {a b c w : Value}
    (h : op.apply a b c = .ok w) : w.AllFinite := by
  cases op with
  | replace =>
      simp only [apply] at h
      split at h
      · cases h
        exact Value.allFinite_text _
      · cases h

-- Every value that a variable stands for is finite throughout.
def Scope.AllFinite (s : Scope) : Prop :=
  ∀ name v, s.lookup? name = some (.scalar v) → v.AllFinite

theorem Scope.AllFinite.value {s : Scope} (h : s.AllFinite) {name : String} {v : Value}
    (hv : s.value name = .ok v) : v.AllFinite := by
  unfold Scope.value at hv
  split at hv
  next hlookup =>
    cases hv
    exact h name _ hlookup
  next => cases hv
  next => cases hv

open Outcome

-- By induction on the expression, together with literals and the items of collections. Only the
-- operators with one operand need to know that the operand is finite.
mutual

theorem Expr.allFinite_evaluate {strategy : Strategy} {scope : Scope} (hscope : scope.AllFinite)
    {e : Expr} (h : ∀ d ∈ e.decimals, d.isFinite = true) {v : Value}
    (hv : (e.evaluate strategy scope).value = some v) : v.AllFinite := by
  match e with
  | .literal value location =>
      rw [Expr.evaluate] at hv
      exact value.allFinite_evaluate hscope h hv
  | .var name location =>
      rw [Expr.evaluate] at hv
      exact hscope.value (value_report_eq_some.mp hv)
  | .unary op operand location =>
      rw [Expr.evaluate] at hv
      obtain ⟨a, ha, hv⟩ := value_seq_eq_some.mp hv
      have hoperand := Expr.allFinite_evaluate hscope (e := operand) h ha
      exact op.allFinite_apply hoperand (value_report_eq_some.mp hv)
  | .binary op left right location =>
      cases strategy with
      | lazy =>
          rw [Expr.evaluate] at hv
          obtain ⟨a, -, hv⟩ := value_seq_eq_some.mp hv
          cases hdecided : op.shortCircuit? a with
          | some result =>
              rw [hdecided] at hv
              cases hv
              exact op.allFinite_shortCircuit? hdecided
          | none =>
              rw [hdecided] at hv
              obtain ⟨b, -, hv⟩ := value_seq_eq_some.mp hv
              exact op.allFinite_apply (value_report_eq_some.mp hv)
      | exhaustive =>
          rw [Expr.evaluate] at hv
          obtain ⟨⟨a, b⟩, -, hv⟩ := value_seq_eq_some.mp hv
          exact op.allFinite_apply (value_report_eq_some.mp hv)
  | .ternary op first second third location =>
      cases strategy with
      | lazy =>
          rw [Expr.evaluate] at hv
          obtain ⟨a, -, hv⟩ := value_seq_eq_some.mp hv
          obtain ⟨⟨b, c⟩, -, hv⟩ := value_seq_eq_some.mp hv
          exact op.allFinite_apply (value_report_eq_some.mp hv)
      | exhaustive =>
          rw [Expr.evaluate] at hv
          obtain ⟨⟨a, b, c⟩, -, hv⟩ := value_seq_eq_some.mp hv
          exact op.allFinite_apply (value_report_eq_some.mp hv)

theorem Literal.allFinite_evaluate {strategy : Strategy} {scope : Scope}
    (hscope : scope.AllFinite) {e : Expr} {l : Literal}
    (h : ∀ d ∈ l.decimals, d.isFinite = true) {v : Value}
    (hv : (l.evaluate strategy scope e).value = some v) : v.AllFinite := by
  match l with
  | .decimal d =>
      rw [Literal.evaluate] at hv
      cases hv
      exact h
  | .collection items =>
      rw [Literal.evaluate] at hv
      obtain ⟨vs, hvs, hv⟩ := value_seq_eq_some.mp hv
      cases hv
      exact Expr.allFinite_evaluateAll hscope h hvs
  | .regex pattern =>
      rw [Literal.evaluate] at hv
      obtain ⟨r, -, rfl⟩ : ∃ r, Regex.compile pattern = .ok r ∧ v = .regex r := by
        have hr := value_report_eq_some.mp hv
        cases hcompile : Regex.compile pattern with
        | error error =>
            rw [hcompile] at hr
            cases hr
        | ok r =>
            rw [hcompile] at hr
            cases hr
            exact ⟨r, rfl, rfl⟩
      exact fun d hd => nomatch hd
  | .boolean _ | .integer _ | .text _ | .cellRange _ | .constraint _ | .assignment _
  | .transform _ =>
      rw [Literal.evaluate] at hv
      cases hv
      exact fun d hd => nomatch hd

theorem Expr.allFinite_evaluateAll {strategy : Strategy} {scope : Scope}
    (hscope : scope.AllFinite) {es : List Expr}
    (h : ∀ d ∈ Expr.decimalsOfAll es, d.isFinite = true) {vs : List Value}
    (hvs : (Expr.evaluateAll strategy scope es).value = some vs) :
    ∀ d ∈ Value.decimalsOfAll vs, d.isFinite = true := by
  match es with
  | [] =>
      rw [Expr.evaluateAll] at hvs
      cases hvs
      exact fun d hd => nomatch hd
  | e :: es =>
      rw [Expr.evaluateAll] at hvs
      obtain ⟨⟨v, ws⟩, hparts, hvs⟩ := value_seq_eq_some.mp hvs
      obtain ⟨hv, hws⟩ := value_both_eq_some.mp hparts
      cases hvs
      rw [Expr.decimalsOfAll, List.forall_mem_append] at h
      rw [Value.decimalsOfAll, List.forall_mem_append]
      exact ⟨Expr.allFinite_evaluate hscope h.1 hv, Expr.allFinite_evaluateAll hscope h.2 hws⟩

end

-- An expression whose decimal literals are finite has, in a scope of finite values, no value with
-- an infinity or a NaN in it.
theorem Expr.isFinite_of_mem_decimals {strategy : Strategy} {scope : Scope} {e : Expr}
    (hliterals : ∀ d ∈ e.decimals, d.isFinite = true)
    (hscope : ∀ name v, scope.lookup? name = some (.scalar v) →
      ∀ d ∈ v.decimals, d.isFinite = true)
    {v : Value} (hv : (e.evaluate strategy scope).value = some v) {d : Decimal}
    (hd : d ∈ v.decimals) : d.isFinite = true := Expr.allFinite_evaluate hscope hliterals hv d hd

-- The expression `[xs, [- x, x / 4.0]]`.
def nestedDecimals : Expr :=
  let var (name : String) : Expr := .var name .unknown
  let quarter : Expr :=
    .binary .divide (var "x") (.literal (.decimal (.ofInt 4)) .unknown) .unknown
  .literal (.collection [var "xs",
    .literal (.collection [.unary .minus (var "x") .unknown, quarter]) .unknown]) .unknown

def finiteScope : Scope :=
  ⟨[("x", .scalar (.decimal (.ofInt 2))), ("xs", .scalar (.collection [.decimal (.ofInt 3)])),
    ("c", .column (.column "c"))]⟩

theorem Expr.isFinite_of_mem_decimals_nested :
    ∃ v, (nestedDecimals.evaluate .lazy finiteScope).value = some v ∧ v.decimals.length = 3 ∧
      ∀ d ∈ v.decimals, d.isFinite = true := by
  have hscope : finiteScope.AllFinite := by
    intro name v hv
    obtain ⟨⟨_, _⟩, hfound, rfl⟩ := Option.map_eq_some_iff.mp hv
    have hmem := List.mem_of_find?_eq_some hfound
    simp only [finiteScope, List.mem_cons, List.not_mem_nil, or_false, Prod.mk.injEq] at hmem
    rcases hmem with ⟨-, h⟩ | ⟨-, h⟩ | ⟨-, h⟩ <;> cases h <;> decide
  have hliterals : ∀ d ∈ nestedDecimals.decimals, d.isFinite = true := by decide
  have hcount : (nestedDecimals.evaluate .lazy finiteScope).value.map (·.decimals.length) =
      some 3 := by decide +kernel
  obtain ⟨v, hv, hlength⟩ := Option.map_eq_some_iff.mp hcount
  exact ⟨v, hv, hlength, fun d hd => Expr.isFinite_of_mem_decimals hliterals hscope hv hd⟩

end TableFlow
