import TableFlow.Program.Basic

namespace TableFlow

def ValueType.same : ValueType → ValueType → Bool
  | .primitive p, .primitive q => p = q
  | .atomic identity _ _ _, .atomic identity' _ _ _ => identity = identity'
  | .collection a, .collection b => a.same b
  | .emptyCollection, .emptyCollection => true
  | _, _ => false

def Port.same : Port → Port → Bool
  | .input name type, .input name' type' => name = name' && type.same type'
  | .output name type, .output name' type' => name = name' && type.same type'
  | _, _ => false

def Port.sameAll : List Port → List Port → Bool
  | [], [] => true
  | p :: ps, q :: qs => p.same q && sameAll ps qs
  | _, _ => false

def Assignment.same (a b : Assignment) : Bool := a.name = b.name && a.type.same b.type

mutual

def Constraint.same : Constraint → Constraint → Bool
  | .expression name e location, .expression name' e' location' =>
    name = name' && e.same e' && location = location'
  | .typed name kind properties location, .typed name' kind' properties' location' =>
    name = name' && kind = kind' && Property.sameAll properties properties' && location = location'
  | _, _ => false

def Property.same : Property → Property → Bool
  | .mk name value location, .mk name' value' location' =>
    name = name' && value.same value' && location = location'

def Property.sameAll : List Property → List Property → Bool
  | [], [] => true
  | p :: ps, q :: qs => p.same q && Property.sameAll ps qs
  | _, _ => false

def PropertyValue.same : PropertyValue → PropertyValue → Bool
  | .expression e, .expression e' => e.same e'
  | .runtimeParameter name, .runtimeParameter name' => name = name'
  | _, _ => false

def Transform.same : Transform → Transform → Bool
  | .mk name ports assigned e location, .mk name' ports' assigned' e' location' =>
    name = name' && Port.sameAll ports ports' && assigned = assigned' && e.same e' &&
      location = location'

def Literal.same : Literal → Literal → Bool
  | .boolean a, .boolean b => a = b
  | .integer a, .integer b => a = b
  | .decimal a, .decimal b => a.same b
  | .text a, .text b => a = b
  | .regex a, .regex b => a = b
  | .cellRange a, .cellRange b => a = b
  | .constraint a, .constraint b => a.same b
  | .assignment a, .assignment b => a.same b
  | .transform a, .transform b => a.same b
  | .collection a, .collection b => Expr.sameAll a b
  | _, _ => false

def Expr.same : Expr → Expr → Bool
  | .literal a location, .literal b location' => a.same b && location = location'
  | .var a location, .var b location' => a = b && location = location'
  | .unary op e location, .unary op' e' location' => op = op' && e.same e' && location = location'
  | .binary op e f location, .binary op' e' f' location' =>
    op = op' && e.same e' && f.same f' && location = location'
  | .ternary op e f g location, .ternary op' e' f' g' location' =>
    op = op' && e.same e' && f.same f' && g.same g' && location = location'
  | _, _ => false

def Expr.sameAll : List Expr → List Expr → Bool
  | [], [] => true
  | e :: es, e' :: es' => e.same e' && Expr.sameAll es es'
  | _, _ => false

end

end TableFlow
