import TableFlow.Evaluation.Outcome

namespace TableFlow

namespace Outcome

variable {α β : Type}

-- Nothing but arithmetic is reported.
def IsArithmetic (x : Outcome α) : Prop := ∀ d ∈ x.diagnostics, d.code = .arithmetic

theorem bind_eq (x : Outcome α) (f : α → Outcome β) : x >>= f = x.bind f := rfl

theorem IsArithmetic.bind {x : Outcome α} {f : α → Outcome β} (hx : x.IsArithmetic)
    (hf : ∀ a, x.value = some a → (f a).IsArithmetic) : (x.bind f).IsArithmetic := by
  unfold Outcome.bind
  split
  next a ha =>
    intro d hd
    rcases List.mem_append.mp hd with h | h
    · exact hx d h
    · exact hf a ha d h
  next => exact hx

theorem value_bind (x : Outcome α) (f : α → Outcome β) :
    (x.bind f).value = x.value.bind fun a => (f a).value := by
  unfold Outcome.bind
  split
  next a ha => rw [ha]; rfl
  next ha => rw [ha]; rfl

theorem isArithmetic_report (e : Expr) {r : Except EvalError α}
    (h : ∀ error, r = .error error → error.code = .arithmetic) : (report e r).IsArithmetic := by
  cases r with
  | ok a => exact fun d hd => nomatch hd
  | error error =>
      intro d hd
      obtain rfl := List.mem_singleton.mp hd
      exact h error rfl

theorem value_report (e : Expr) (r : Except EvalError α) : (report e r).value = r.toOption := by
  cases r <;> rfl

theorem toOption_eq_some {α ε : Type} {r : Except ε α} {a : α} (h : r.toOption = some a) :
    r = .ok a := by
  cases r with
  | ok b => rw [Option.some.inj h]
  | error e => cases h

end Outcome

end TableFlow
