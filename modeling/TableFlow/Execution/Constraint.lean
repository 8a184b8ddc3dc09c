import TableFlow.Execution.Context

namespace TableFlow

attribute [local instance (10000)] instPowNat

namespace ConstraintKind

def texts : ValueType := .collection .text

def allowlist : ConstraintKind where
  name := "AllowlistConstraint"
  properties := [⟨"allowlist", none⟩]
  test site value := do
    let some list ← site.property? "allowlist" texts | return false
    return (list.collection?.map (·.any (·.same value))).getD false

def denylist : ConstraintKind where
  name := "DenylistConstraint"
  properties := [⟨"denylist", none⟩]
  test site value := do
    let some list ← site.property? "denylist" texts | return false
    return (list.collection?.map fun items => !items.any (·.same value)).getD false

-- Some part of the text has to match.
def regex : ConstraintKind where
  name := "RegexConstraint"
  properties := [⟨"regex", none⟩]
  test site value := do
    let some (.regex r) ← site.property? "regex" (.primitive .regex) | return false
    return (value.text?.map r.isMatch).getD false

-- The greatest finite decimal.
def greatest : Decimal := .pack false (2 ^ (53 : Nat) - 1) 971

-- Whether the bounds include them and they are met.
def inRange (d lower upper : Decimal) (lowerInclusive upperInclusive : Bool) : Bool :=
  let above := d.compare? lower
  let below := d.compare? upper
  (above = some .gt || (lowerInclusive && above = some .eq)) &&
    (below = some .lt || (upperInclusive && below = some .eq))

-- Bounds on numbers. Without a bound every finite decimal is within.
def range : ConstraintKind where
  name := "RangeConstraint"
  properties := [⟨"lowerBound", some (.decimal greatest.neg)⟩,
    ⟨"lowerBoundInclusive", some (.boolean true)⟩, ⟨"upperBound", some (.decimal greatest)⟩,
    ⟨"upperBoundInclusive", some (.boolean true)⟩]
  test site value := do
    let some d := value.number? | return false
    let lower := (← site.property? "lowerBound" .decimal).bind Value.number?
    let lowerInclusive := (← site.property? "lowerBoundInclusive" .boolean).bind Value.boolean?
    let upper := (← site.property? "upperBound" .decimal).bind Value.number?
    let upperInclusive := (← site.property? "upperBoundInclusive" .boolean).bind Value.boolean?
    match lower, lowerInclusive, upper, upperInclusive with
    | some lower, some lowerInclusive, some upper, some upperInclusive =>
      return inRange d lower upper lowerInclusive upperInclusive
    | _, _, _, _ => return false

-- Bounds on the number of characters of a text.
def length : ConstraintKind where
  name := "LengthConstraint"
  properties := [⟨"minLength", some (.integer 0)⟩, ⟨"maxLength", some (.integer Int64.maxValue)⟩]
  test site value := do
    let some text := value.text? | return false
    let least := (← site.property? "minLength" .integer).bind Value.integer?
    let most := (← site.property? "maxLength" .integer).bind Value.integer?
    match least, most with
    | some least, some most =>
      return decide (least.toInt ≤ text.length ∧ (text.length : Int) ≤ most.toInt)
    | _, _ => return false

-- The kinds that every run knows.
def standard : List ConstraintKind := [allowlist, denylist, regex, range, length]

end ConstraintKind

namespace Context

-- Whether a value satisfies a constraint, where the context is that of the constraint.
def test (c : Context) (value : Value) : Constraint → Execution Bool
  | .expression _ condition _ => do
    let scope := Scope.empty.insert "value" (.scalar value)
    match ← Execution.ofOutcome c.logger (condition.evaluate .lazy scope) with
    | some (.boolean b) => return b
    | _ => return false
  | .typed _ kind _ _ =>
    match c.constraintKind? kind with
    | some kind => kind.test c.toSite value
    | none => do
      Execution.write [c.logger.error ("Unknown constraint type `" ++ kind ++ "`")]
      return false

def satisfies (c : Context) (value : Value) (constraint : Constraint) : Execution Bool :=
  (c.enter (.constraint constraint)).test value constraint

-- Whether a value satisfies all constraints. Those behind one that is not satisfied are not
-- tested.
def satisfiesAll (c : Context) (value : Value) : List Constraint → Execution Bool
  | [] => return true
  | constraint :: constraints => do
    if ← c.satisfies value constraint then c.satisfiesAll value constraints else return false

-- Whether a value is valid for a type.
def isValid (c : Context) (value : Value) (type : ValueType) : Execution Bool :=
  if type.represents value then c.satisfiesAll value type.constraints else return false

end Context

end TableFlow
