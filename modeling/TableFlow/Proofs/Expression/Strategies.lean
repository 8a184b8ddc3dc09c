import TableFlow.Evaluation.Basic
import TableFlow.Proofs.Expression.Outcome

namespace TableFlow

namespace Outcome

variable {α β : Type}

-- If there is a value of the first outcome, the second has the same.
def Within (x y : Outcome α) : Prop := ∀ a, x.value = some a → y.value = some a

theorem Within.refl (x : Outcome α) : x.Within x := fun _ h => h

-- A sequence has a value if its first part has one, and its second part has one then.
theorem value_seq_eq_some {x : Outcome α} {f : α → Outcome β} {b : β} :
    (x >>= f).value = some b ↔ ∃ a, x.value = some a ∧ (f a).value = some b := by
  rw [bind_eq, value_bind, Option.bind_eq_some_iff]

theorem value_both_eq_some {x : Outcome α} {y : Outcome β} {a : α} {b : β} :
    (x.both y).value = some (a, b) ↔ x.value = some a ∧ y.value = some b := by
  simp [both, Option.bind_eq_some_iff]

theorem value_report_eq_some {e : Expr} {r : Except EvalError α} {a : α} :
    (report e r).value = some a ↔ r = .ok a := by
  cases r <;> simp [report]

theorem Within.seq {x y : Outcome α} {f g : α → Outcome β} (hx : x.Within y)
    (hf : ∀ a, (f a).Within (g a)) : (x >>= f).Within (y >>= g) := by
  intro b hb
  obtain ⟨a, ha, hb⟩ := value_seq_eq_some.mp hb
  exact value_seq_eq_some.mpr ⟨a, hx a ha, hf a b hb⟩

theorem Within.both {x y : Outcome α} {x' y' : Outcome β} (hx : x.Within y) (hx' : x'.Within y') :
    (x.both x').Within (y.both y') := by
  rintro ⟨a, b⟩ h
  obtain ⟨ha, hb⟩ := value_both_eq_some.mp h
  exact value_both_eq_some.mpr ⟨hx a ha, hx' b hb⟩

end Outcome

open Outcome

-- What the left operand decides alone is what the operator makes of both, if it makes anything.
theorem BinaryOp.eq_of_shortCircuit? {op : BinaryOp} {a b result v : Value}
    (hdecided : op.shortCircuit? a = some result) (happly : op.apply a b = .ok v) : v = result := by
  unfold shortCircuit? at hdecided
  split at hdecided
  · cases hdecided
    cases b <;> cases happly
    rfl
  · cases hdecided
    cases b <;> cases happly
    rfl
  · cases hdecided

-- Both operands and then the operator, beside the left operand, then the right one unless the left
-- one decides, and then the operator.
theorem BinaryOp.both_within_seq {op : BinaryOp} {e : Expr} {x y x' y' : Outcome Value}
    (hx : x.Within x') (hy : y.Within y') :
    (do
      let (a, b) ← x.both y
      report e (op.apply a b)).Within
    (do
      let a ← x'
      match op.shortCircuit? a with
      | some result => return result
      | none =>
        let b ← y'
        report e (op.apply a b)) := by
  intro v hv
  obtain ⟨⟨a, b⟩, hoperands, hv⟩ := value_seq_eq_some.mp hv
  obtain ⟨ha, hb⟩ := value_both_eq_some.mp hoperands
  refine value_seq_eq_some.mpr ⟨a, hx a ha, ?_⟩
  cases hdecided : op.shortCircuit? a with
  | some result =>
      rw [op.eq_of_shortCircuit? hdecided (value_report_eq_some.mp hv)]
      rfl
  | none => exact value_seq_eq_some.mpr ⟨b, hy b hb, hv⟩

-- All three operands and then the operator, beside the first operand and then the other two.
theorem TernaryOp.both_within_seq {op : TernaryOp} {e : Expr} {x x' : Outcome Value}
    {y y' : Outcome (Value × Value)} (hx : x.Within x') (hy : y.Within y') :
    (do
      let (a, b, c) ← x.both y
      report e (op.apply a b c)).Within
    (do
      let a ← x'
      let (b, c) ← y'
      report e (op.apply a b c)) := by
  intro v hv
  obtain ⟨⟨a, b, c⟩, hoperands, hv⟩ := value_seq_eq_some.mp hv
  obtain ⟨ha, hbc⟩ := value_both_eq_some.mp hoperands
  exact value_seq_eq_some.mpr ⟨a, hx a ha, value_seq_eq_some.mpr ⟨(b, c), hy (b, c) hbc, hv⟩⟩

-- By induction on the expression, together with literals and the items of collections.
mutual

theorem Expr.evaluate_within (scope : Scope) (e : Expr) :
    (e.evaluate .exhaustive scope).Within (e.evaluate .lazy scope) := by
  match e with
  | .literal value location =>
      rw [Expr.evaluate, Expr.evaluate]
      exact value.evaluate_within scope (.literal value location)
  | .var name _ =>
      rw [Expr.evaluate, Expr.evaluate]
      exact .refl _
  | .unary op operand _ =>
      rw [Expr.evaluate, Expr.evaluate]
      exact (operand.evaluate_within scope).seq fun _ => .refl _
  | .binary op left right _ =>
      rw [Expr.evaluate, Expr.evaluate]
      exact op.both_within_seq (left.evaluate_within scope) (right.evaluate_within scope)
  | .ternary op first second third _ =>
      rw [Expr.evaluate, Expr.evaluate]
      exact op.both_within_seq (first.evaluate_within scope)
        ((second.evaluate_within scope).both (third.evaluate_within scope))

theorem Literal.evaluate_within (scope : Scope) (e : Expr) (l : Literal) :
    (l.evaluate .exhaustive scope e).Within (l.evaluate .lazy scope e) := by
  match l with
  | .collection items =>
      rw [Literal.evaluate, Literal.evaluate]
      exact (Expr.evaluateAll_within scope items).seq fun _ => .refl _
  | .boolean _ | .integer _ | .decimal _ | .text _ | .regex _ | .cellRange _ | .constraint _
  | .assignment _ | .transform _ =>
      rw [Literal.evaluate, Literal.evaluate]
      exact .refl _

theorem Expr.evaluateAll_within (scope : Scope) (es : List Expr) :
    (Expr.evaluateAll .exhaustive scope es).Within (Expr.evaluateAll .lazy scope es) := by
  match es with
  | [] =>
      rw [Expr.evaluateAll, Expr.evaluateAll]
      exact .refl _
  | e :: es =>
      rw [Expr.evaluateAll, Expr.evaluateAll]
      exact ((e.evaluate_within scope).both (Expr.evaluateAll_within scope es)).seq fun _ => .refl _

end

-- A value of the exhaustive strategy is the value of the lazy one; so where the lazy one fails, the
-- exhaustive one fails too.
theorem Expr.evaluate_lazy_of_exhaustive (scope : Scope) (e : Expr) :
    (∀ v, (e.evaluate .exhaustive scope).value = some v →
      (e.evaluate .lazy scope).value = some v) ∧
    ((e.evaluate .lazy scope).value = none → (e.evaluate .exhaustive scope).value = none) := by
  have hwithin := e.evaluate_within scope
  refine ⟨hwithin, fun hnone => ?_⟩
  cases hvalue : (e.evaluate .exhaustive scope).value with
  | none => rfl
  | some v => cases hnone.symm.trans (hwithin v hvalue)

-- A collection whose items the lazy strategy finds without their right operands.
def decidedItems : Expr :=
  let truth (b : Bool) : Expr := .literal (.boolean b) .unknown
  .literal (.collection [.binary .and (truth false) (truth true) .unknown,
    .binary .or (truth true) (.unary .not (truth true) .unknown) .unknown]) .unknown

theorem Expr.evaluate_lazy_of_exhaustive_decidedItems :
    (decidedItems.evaluate .exhaustive .empty).value =
        some (.collection [.boolean false, .boolean true]) ∧
      (decidedItems.evaluate .lazy .empty).value =
        some (.collection [.boolean false, .boolean true]) := by
  have hvalue : (decidedItems.evaluate .exhaustive .empty).value =
      some (.collection [.boolean false, .boolean true]) := by rfl
  exact ⟨hvalue, (Expr.evaluate_lazy_of_exhaustive .empty decidedItems).1 _ hvalue⟩

end TableFlow
