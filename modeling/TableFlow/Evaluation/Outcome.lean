import TableFlow.Evaluation.Error

namespace TableFlow

structure Outcome (α : Type) where
  value : Option α
  diagnostics : List Diagnostic

namespace Outcome

variable {α β : Type}

protected def pure (value : α) : Outcome α := ⟨some value, []⟩

protected def bind (x : Outcome α) (f : α → Outcome β) : Outcome β :=
  match x.value with
  | some value => ⟨(f value).value, x.diagnostics ++ (f value).diagnostics⟩
  | none => ⟨none, x.diagnostics⟩

instance : Monad Outcome where
  pure := Outcome.pure
  bind := Outcome.bind

-- Both outcomes; the diagnostics of the first come first.
def both (x : Outcome α) (y : Outcome β) : Outcome (α × β) :=
  ⟨x.value.bind fun a => y.value.map fun b => (a, b), x.diagnostics ++ y.diagnostics⟩

-- A result of which an error is reported at an expression.
def report (expression : Expr) : Except EvalError α → Outcome α
  | .ok value => ⟨some value, []⟩
  | .error e => ⟨none, [e.diagnostic expression]⟩

end Outcome

end TableFlow
