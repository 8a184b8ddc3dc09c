import TableFlow.TypeError
import TableFlow.ValueType.Basic

namespace TableFlow

structure TypeDeclaration where
  name : String
  supertype : String
  constraints : List Constraint

structure TypeRegistry where
  declarations : List TypeDeclaration
  resolved : List (String × ValueType)
  -- The identity of the next type that is resolved.
  next : Nat

namespace TypeRegistry

def empty : TypeRegistry := ⟨[], [], 0⟩

def declaration? (r : TypeRegistry) (name : String) : Option TypeDeclaration :=
  r.declarations.find? (·.name == name)

def resolved? (r : TypeRegistry) (name : String) : Option ValueType :=
  (r.resolved.find? (·.1 == name)).map (·.2)

-- Adds a declaration, unless its name has been declared or is that of a primitive type.
def declare (r : TypeRegistry) (d : TypeDeclaration) : Except TypeError TypeRegistry :=
  if (r.declaration? d.name).isSome ∨ (Primitive.ofName? d.name).isSome then
    .error (.duplicateType d.name)
  else .ok { r with declarations := r.declarations ++ [d] }

-- An unknown name that a declaration extends is reported together with that declaration.
def blame (d : TypeDeclaration) : TypeError → TypeError
  | .unknownType supertype => .unknownSupertype d.name supertype
  | error => error

-- Records the type of a declaration whose supertype has been resolved.
def add (r : TypeRegistry) (d : TypeDeclaration) (supertype : ValueType) :
    ValueType × TypeRegistry :=
  let type := .atomic r.next d.name supertype d.constraints
  (type, { r with resolved := (d.name, type) :: r.resolved, next := r.next + 1 })

-- Resolves a name, where `visited` are the declarations on the way to it. Each round visits another
-- declaration, so as many rounds as there are declarations are enough.
def resolveFrom : Nat → TypeRegistry → List String → String →
    Except TypeError (ValueType × TypeRegistry)
  | fuel, r, visited, name =>
    match Primitive.ofName? name, r.resolved? name, r.declaration? name with
    | some p, _, _ =>
      if p.isReferenceable then .ok (.primitive p, r) else .error (.notReferenceable name)
    | none, some type, _ => .ok (type, r)
    | none, none, none => .error (.unknownType name)
    | none, none, some d =>
      if name ∈ visited then .error (.supertypeCycle name)
      else
        match fuel with
        | 0 => .error (.supertypeCycle name)
        | fuel + 1 =>
          match resolveFrom fuel r (name :: visited) d.supertype with
          | .ok (supertype, r) => .ok (r.add d supertype)
          | .error error => .error (blame d error)

-- The type that a name stands for, and the registry that remembers it.
def resolve (r : TypeRegistry) (name : String) : Except TypeError (ValueType × TypeRegistry) :=
  resolveFrom r.declarations.length r [] name

-- Names in ascending order.
def sortNames (names : List String) : List String := names.mergeSort fun a b => !decide (b < a)

-- Resolves names one after another. The types resolved before a failure are kept.
def resolveNames : TypeRegistry → List String → Except TypeError (List ValueType) × TypeRegistry
  | r, [] => (.ok [], r)
  | r, name :: names =>
    match r.resolve name with
    | .error error => (.error error, r)
    | .ok (type, r) =>
      let (types, r) := resolveNames r names
      (types.map (type :: ·), r)

-- Resolves every declaration, in the order of their names.
def resolveAll (r : TypeRegistry) : Except TypeError (List ValueType) × TypeRegistry :=
  r.resolveNames (sortNames (r.declarations.map (·.name)))

end TypeRegistry

end TableFlow
