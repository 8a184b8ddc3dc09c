import TableFlow.Evaluation.Basic
import TableFlow.Violation

namespace TableFlow

-- The value of a property, brought into the form of the type. A runtime parameter that is missing or
-- cannot be read gives no value; a value that is not of the type is a violation.
def Property.evaluate (strategy : Strategy) (scope : Scope) (parameters : Parameters)
    (type : ValueType) (p : Property) : Except Violation (Outcome Value) := do
  let normalized (e : Expr) : Outcome Value := do
    let value ← e.evaluate strategy scope
    return type.normalize value
  let outcome ← match p.value with
    | .runtimeParameter name => (parameters.value? name type).map (⟨·, []⟩)
    | .expression e => .ok (normalized e)
  match outcome.value with
  | some value =>
    if type.represents value then .ok outcome
    else .error (.invalidResult value.render p.name type.name)
  | none => .ok outcome

end TableFlow
