import TableFlow.Decimal.Arithmetic
import TableFlow.Value

namespace TableFlow

attribute [local instance (10000)] instPowNat

namespace Primitive

-- Whether a value is of the primitive type. Decimals have to be finite.
def represents : Primitive → Value → Bool
  | .boolean, .boolean _ => true
  | .integer, .integer _ => true
  | .decimal, .decimal value => value.isFinite
  | .text, .text _ => true
  | .regex, .regex _ => true
  | .cellRange, .cellRange _ => true
  | .constraint, .constraint _ => true
  | .assignment, .assignment _ => true
  | .transform, .transform _ => true
  | _, _ => false

-- Reads `true` or `false`, without regard to case.
def readBoolean? (text : String) : Option Bool :=
  match String.ofList (text.toList.map Text.foldChar) with
  | "true" => some true
  | "false" => some false
  | _ => none

-- The value that a text denotes, for the types whose texts can be read without a violation.
def literal? : Primitive → String → Option Value
  | .boolean, s => (readBoolean? s).map .boolean
  | .integer, s => (Integer.ofText? s).map .integer
  | .decimal, s => (Decimal.ofText? s).map .decimal
  | .text, s => some (.text s)
  | .regex, s => (Regex.compile s).toOption.map .regex
  | .cellRange, _ | .constraint, _ | .assignment, _ | .transform, _ => none

-- The value that a text denotes, for the types whose values can be written as text.
def ofText? : Primitive → String → Except Violation (Option Value)
  | .cellRange, s =>
    match CellRange.parse s with
    | .ok range => .ok (some (.cellRange range))
    | .error (.malformed _) => .ok none
    | .error (.violation violation) => .error violation
  | p, s => .ok (p.literal? s)

-- The integer that a decimal denotes, for magnitudes below `2 ^ 63`.
def wholeNumber? (d : Decimal) : Option Int64 :=
  d.toInt?.bind fun n => if n.natAbs < 2 ^ (63 : Nat) then Integer.ofInt? n else none

-- Turns integers into decimals and whole decimals into integers where the type asks for it.
def normalize : Primitive → Value → Value
  | .decimal, .integer value => .decimal (.ofInt64 value)
  | .integer, .decimal value =>
    match wholeNumber? value with
    | some n => .integer n
    | none => .decimal value
  | _, value => value

end Primitive

namespace ValueType

-- Only atomic types have a supertype.
def supertype? : ValueType → Option ValueType
  | .atomic _ _ supertype _ => some supertype
  | _ => none

-- The supertypes, nearest first.
def supertypes : ValueType → List ValueType
  | .atomic _ _ supertype _ => supertype :: supertype.supertypes
  | _ => []

def isSubtypeOf (t other : ValueType) : Bool := t.supertypes.any (·.same other)

-- The primitive at the end of the chain of supertypes.
def primitive? : ValueType → Option Primitive
  | .primitive p => some p
  | .atomic _ _ supertype _ => supertype.primitive?
  | .collection _ => none
  | .emptyCollection => none

-- Whether values of the first type can stand where the second is asked for: along supertypes, from
-- integers to decimals, from the empty collection to any other, and element by element.
def isConvertibleTo : ValueType → ValueType → Bool
  | .primitive p, .primitive q => p.isConvertibleTo q
  | .atomic identity name supertype constraints, target =>
    (ValueType.atomic identity name supertype constraints).same target ||
      supertype.isConvertibleTo target
  | .collection a, .collection b => a.isConvertibleTo b
  | .emptyCollection, .collection _ => true
  | .emptyCollection, .emptyCollection => true
  | _, _ => false

-- Whether programs may name the type.
def isReferenceable : ValueType → Bool
  | .primitive p => p.isReferenceable
  | .atomic .. => true
  | .collection _ => false
  | .emptyCollection => false

def isRuntimeParameter : ValueType → Bool
  | .primitive p => p.isRuntimeParameter
  | .atomic _ _ supertype _ => supertype.isRuntimeParameter
  | .collection _ => false
  | .emptyCollection => false

def isCollection : ValueType → Bool
  | .collection _ | .emptyCollection => true
  | _ => false

def element? : ValueType → Option ValueType
  | .collection element => some element
  | _ => none

-- Whether a value has the form that the type asks for. Constraints are not looked at.
def represents : ValueType → Value → Bool
  | .primitive p, value => p.represents value
  | .atomic _ _ supertype _, value => supertype.represents value
  | .collection element, .collection items => items.all element.represents
  | .collection _, _ => false
  | .emptyCollection, .collection items => items.isEmpty
  | .emptyCollection, _ => false

-- The value that a text denotes.
def ofText? : ValueType → String → Except Violation (Option Value)
  | .primitive p, s => p.ofText? s
  | .atomic _ _ supertype _, s => supertype.ofText? s
  | .collection _, _ => .ok none
  | .emptyCollection, _ => .ok none

-- Brings numbers into the form that the type asks for, element by element in collections.
def normalize : ValueType → Value → Value
  | .collection element, .collection items => .collection (items.map element.normalize)
  | t, value =>
    match t.primitive? with
    | some p => p.normalize value
    | none => value

-- The constraints of the type and of its supertypes, nearest first.
def constraints : ValueType → List Constraint
  | .atomic _ _ supertype constraints => constraints ++ supertype.constraints
  | _ => []

end ValueType

end TableFlow
