import TableFlow.Evaluation.Basic

namespace TableFlow

namespace Outcome

variable {α β : Type}

-- An outcome for somebody who has diagnostics already: the value, and all diagnostics there are.
def onto (x : Outcome α) (sink : List Diagnostic) : Option α × List Diagnostic :=
  (x.value, sink ++ x.diagnostics)

theorem onto_pure (a : α) (sink : List Diagnostic) :
    (pure a : Outcome α).onto sink = (some a, sink) := congrArg (some a, ·) (List.append_nil sink)

-- An error is put behind what there is.
theorem onto_report (e : Expr) (r : Except EvalError α) (sink : List Diagnostic) :
    (report e r).onto sink =
      match r with
      | .ok a => (some a, sink)
      | .error error => (none, sink ++ [error.diagnostic e]) := by
  cases r with
  | ok a => exact onto_pure a sink
  | error error => rfl

-- In a sequence the second part is given what the first part has left.
theorem onto_bind (x : Outcome α) (f : α → Outcome β) (sink : List Diagnostic) :
    (x >>= f).onto sink =
      match x.onto sink with
      | (some a, sink) => (f a).onto sink
      | (none, sink) => (none, sink) := by
  show (x.bind f).onto sink = _
  unfold Outcome.bind onto
  cases x.value with
  | some a => simp
  | none => rfl

-- Side by side the second part is given what the first part has left, be there a value or not.
theorem onto_both (x : Outcome α) (y : Outcome β) (sink : List Diagnostic) :
    (x.both y).onto sink =
      ((x.onto sink).1.bind fun a => (y.onto (x.onto sink).2).1.map fun b => (a, b),
        (y.onto (x.onto sink).2).2) := by
  simp only [onto, both, List.append_assoc]

-- Whatever there is already, only errors are added behind it, and at least one if and only if there
-- is no value.
def AddsErrors (x : Outcome α) : Prop :=
  ∀ sink, ∃ added, (x.onto sink).2 = sink ++ added ∧ (∀ d ∈ added, d.severity = .error) ∧
    ((x.onto sink).1 = none ↔ added ≠ [])

theorem addsErrors_pure (a : α) : (pure a : Outcome α).AddsErrors := by
  intro sink
  rw [onto_pure]
  exact ⟨[], (List.append_nil sink).symm, fun d hd => (nomatch hd), by simp⟩

theorem addsErrors_report (e : Expr) (r : Except EvalError α) : (report e r).AddsErrors := by
  intro sink
  rw [onto_report]
  cases r with
  | ok a => exact ⟨[], (List.append_nil sink).symm, fun d hd => (nomatch hd), by simp⟩
  | error error =>
      refine ⟨[error.diagnostic e], rfl, fun d hd => ?_, by simp⟩
      rw [List.mem_singleton.mp hd]
      rfl

-- Either the first part has added something and is the last one, or it has added nothing.
theorem AddsErrors.seq {x : Outcome α} {f : α → Outcome β} (hx : x.AddsErrors)
    (hf : ∀ a, (f a).AddsErrors) : (x >>= f).AddsErrors := by
  intro sink
  obtain ⟨added, hsink, herrors, hnone⟩ := hx sink
  rw [onto_bind]
  rcases hresult : x.onto sink with ⟨value, sink'⟩
  rw [hresult] at hsink hnone
  cases value with
  | none => exact ⟨added, hsink, herrors, fun _ => hnone.mp rfl, fun _ => rfl⟩
  | some a =>
      cases added with
      | nil =>
          obtain rfl : sink' = sink := hsink.trans (List.append_nil sink)
          exact hf a sink'
      | cons d added => cases hnone.mpr (List.cons_ne_nil d added)

-- What both parts have added stands in a row, and a value is missing if either has none.
theorem AddsErrors.both {x : Outcome α} {y : Outcome β} (hx : x.AddsErrors) (hy : y.AddsErrors) :
    (x.both y).AddsErrors := by
  intro sink
  obtain ⟨added, hsink, herrors, hnone⟩ := hx sink
  obtain ⟨added', hsink', herrors', hnone'⟩ := hy (sink ++ added)
  rw [onto_both, hsink]
  refine ⟨added ++ added', ?_, fun d hd => ?_, ?_⟩
  · rw [hsink', List.append_assoc]
  · exact (List.mem_append.mp hd).elim (herrors d) (herrors' d)
  · have hne : added ++ added' ≠ [] ↔ added ≠ [] ∨ added' ≠ [] := by cases added <;> simp
    rw [hne, ← hnone, ← hnone']
    cases (x.onto sink).1 <;> cases (y.onto (sink ++ added)).1 <;> simp

end Outcome

open Outcome

-- By induction on the expression, together with literals and the items of collections. Operators
-- and variables give a result or one error; all else is put together in sequence or side by side.
mutual

theorem Expr.addsErrors_evaluate (strategy : Strategy) (scope : Scope) (e : Expr) :
    (e.evaluate strategy scope).AddsErrors := by
  match e with
  | .literal value location =>
      rw [Expr.evaluate]
      exact value.addsErrors_evaluate strategy scope (.literal value location)
  | .var name _ =>
      rw [Expr.evaluate]
      exact addsErrors_report _ _
  | .unary op operand _ =>
      rw [Expr.evaluate]
      exact (operand.addsErrors_evaluate strategy scope).seq fun _ => addsErrors_report _ _
  | .binary op left right _ =>
      have hleft := left.addsErrors_evaluate strategy scope
      have hright := right.addsErrors_evaluate strategy scope
      cases strategy with
      | lazy =>
          rw [Expr.evaluate]
          refine hleft.seq fun a => ?_
          cases op.shortCircuit? a with
          | some result => exact addsErrors_pure result
          | none => exact hright.seq fun _ => addsErrors_report _ _
      | exhaustive =>
          rw [Expr.evaluate]
          exact (hleft.both hright).seq fun _ => addsErrors_report _ _
  | .ternary op first second third _ =>
      have hfirst := first.addsErrors_evaluate strategy scope
      have hothers := (second.addsErrors_evaluate strategy scope).both
        (third.addsErrors_evaluate strategy scope)
      cases strategy with
      | lazy =>
          rw [Expr.evaluate]
          exact hfirst.seq fun _ => hothers.seq fun _ => addsErrors_report _ _
      | exhaustive =>
          rw [Expr.evaluate]
          exact (hfirst.both hothers).seq fun _ => addsErrors_report _ _

theorem Literal.addsErrors_evaluate (strategy : Strategy) (scope : Scope) (e : Expr) (l : Literal) :
    (l.evaluate strategy scope e).AddsErrors := by
  match l with
  | .regex pattern =>
      rw [Literal.evaluate]
      exact addsErrors_report _ _
  | .collection items =>
      rw [Literal.evaluate]
      exact (Expr.addsErrors_evaluateAll strategy scope items).seq fun _ => addsErrors_pure _
  | .boolean _ | .integer _ | .decimal _ | .text _ | .cellRange _ | .constraint _ | .assignment _
  | .transform _ =>
      rw [Literal.evaluate]
      exact addsErrors_pure _

theorem Expr.addsErrors_evaluateAll (strategy : Strategy) (scope : Scope) (es : List Expr) :
    (Expr.evaluateAll strategy scope es).AddsErrors := by
  match es with
  | [] =>
      rw [Expr.evaluateAll]
      exact addsErrors_pure _
  | e :: es =>
      rw [Expr.evaluateAll]
      exact ((e.addsErrors_evaluate strategy scope).both
        (Expr.addsErrors_evaluateAll strategy scope es)).seq fun _ => addsErrors_pure _

end

theorem Expr.addsErrors_evaluateSymbolic (strategy : Strategy) (scope : Scope) (e : Expr) :
    (e.evaluateSymbolic strategy scope).AddsErrors := by
  match e with
  | .literal value location =>
      rw [Expr.evaluateSymbolic]
      exact (Expr.addsErrors_evaluate strategy scope (.literal value location)).seq fun _ =>
        addsErrors_pure _
  | .var name _ =>
      rw [Expr.evaluateSymbolic]
      exact addsErrors_report _ _
  | .unary op operand _ =>
      rw [Expr.evaluateSymbolic]
      exact (operand.addsErrors_evaluateSymbolic strategy scope).seq fun _ => addsErrors_report _ _
  | .binary op left right _ =>
      have hleft := left.addsErrors_evaluateSymbolic strategy scope
      have hright := right.addsErrors_evaluateSymbolic strategy scope
      cases strategy with
      | lazy =>
          rw [Expr.evaluateSymbolic]
          refine hleft.seq fun a => ?_
          -- A column decides nothing; a value may.
          dsimp only
          split
          · exact addsErrors_pure _
          · exact hright.seq fun _ => addsErrors_report _ _
      | exhaustive =>
          rw [Expr.evaluateSymbolic]
          exact (hleft.both hright).seq fun _ => addsErrors_report _ _
  | .ternary op first second third _ =>
      have hfirst := first.addsErrors_evaluateSymbolic strategy scope
      have hothers := (second.addsErrors_evaluateSymbolic strategy scope).both
        (third.addsErrors_evaluateSymbolic strategy scope)
      cases strategy with
      | lazy =>
          rw [Expr.evaluateSymbolic]
          exact hfirst.seq fun _ => hothers.seq fun _ => addsErrors_report _ _
      | exhaustive =>
          rw [Expr.evaluateSymbolic]
          exact (hfirst.both hothers).seq fun _ => addsErrors_report _ _

-- Evaluation to a value, and to a value or a column: nothing fails in silence, and nothing is
-- reported about what succeeds.
theorem Expr.evaluate_addsErrors (strategy : Strategy) (scope : Scope) (e : Expr) :
    (e.evaluate strategy scope).AddsErrors ∧ (e.evaluateSymbolic strategy scope).AddsErrors :=
  ⟨e.addsErrors_evaluate strategy scope, e.addsErrors_evaluateSymbolic strategy scope⟩

end TableFlow
