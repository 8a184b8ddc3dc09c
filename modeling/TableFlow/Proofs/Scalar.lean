import TableFlow.Series.Cast

namespace TableFlow

inductive ScalarType where
  | boolean
  | integer
  | decimal
  | text
deriving DecidableEq

namespace ScalarType

def primitive : ScalarType → Primitive
  | .boolean => .boolean
  | .integer => .integer
  | .decimal => .decimal
  | .text => .text

def valueType (σ : ScalarType) : ValueType := .primitive σ.primitive

-- The type of the cells that hold the values.
abbrev dataType : ScalarType → DataType
  | .boolean => .boolean
  | .integer => .int64
  | .decimal => .float64
  | .text => .utf8

def isNumeric : ScalarType → Bool
  | .integer | .decimal => true
  | _ => false

end ScalarType

def Primitive.scalarType? : Primitive → Option ScalarType
  | .boolean => some .boolean
  | .integer => some .integer
  | .decimal => some .decimal
  | .text => some .text
  | _ => none

-- The scalar type at the end of the chain of supertypes.
def ValueType.scalarType? (t : ValueType) : Option ScalarType :=
  t.primitive?.bind Primitive.scalarType?

namespace Value

def scalarType? : Value → Option ScalarType
  | .boolean _ => some .boolean
  | .integer _ => some .integer
  | .decimal _ => some .decimal
  | .text _ => some .text
  | _ => none

-- Neither an infinity nor a NaN.
def isFinite : Value → Bool
  | .decimal d => d.isFinite
  | _ => true

end Value

theorem Primitive.scalarType?_eq_some {p : Primitive} {σ : ScalarType}
    (h : p.scalarType? = some σ) : p = σ.primitive := by
  cases p <;> cases h <;> rfl

namespace ValueType

theorem primitive?_of_scalarType? {t : ValueType} {σ : ScalarType} (h : t.scalarType? = some σ) :
    t.primitive? = some σ.primitive := by
  obtain ⟨p, hp, hσ⟩ := Option.bind_eq_some_iff.mp h
  rw [hp, Primitive.scalarType?_eq_some hσ]

-- Values are held, accepted and brought into form as the primitive type asks for it.
theorem dataType?_of_primitive? (t : ValueType) (p : Primitive) (h : t.primitive? = some p) :
    t.dataType? = (ValueType.primitive p).dataType? := by
  fun_induction primitive? t with
  | case1 q => rw [Option.some.inj h]
  | case2 identity name supertype constraints ih => exact ih h
  | case3 element => cases h
  | case4 => cases h

theorem represents_of_primitive? (t : ValueType) (p : Primitive) (h : t.primitive? = some p)
    (v : Value) : t.represents v = p.represents v := by
  fun_induction primitive? t with
  | case1 q => rw [Option.some.inj h, represents]
  | case2 identity name supertype constraints ih => rw [represents, ih h]
  | case3 element => cases h
  | case4 => cases h

theorem dataType_of_scalarType? {t : ValueType} {σ : ScalarType} (h : t.scalarType? = some σ) :
    t.dataType = σ.dataType := by
  rw [dataType, dataType?_of_primitive? t _ (primitive?_of_scalarType? h)]
  cases σ <;> rfl

theorem represents_of_scalarType? {t : ValueType} {σ : ScalarType} (h : t.scalarType? = some σ)
    (v : Value) : t.represents v = true ↔ v.scalarType? = some σ ∧ v.isFinite = true := by
  rw [represents_of_primitive? t _ (primitive?_of_scalarType? h)]
  cases σ <;> cases v <;>
    simp [ScalarType.primitive, Primitive.represents, Value.scalarType?, Value.isFinite]

theorem normalize_of_primitive? (t : ValueType) (p : Primitive) (h : t.primitive? = some p)
    (v : Value) : t.normalize v = p.normalize v := by
  cases t with
  | collection element => cases h
  | primitive q => simp only [normalize, h]
  | atomic identity name supertype constraints => simp only [normalize, h]
  | emptyCollection => cases h

theorem normalize_of_scalarType? {t : ValueType} {σ : ScalarType} (h : t.scalarType? = some σ)
    (v : Value) : t.normalize v = σ.primitive.normalize v :=
  normalize_of_primitive? t _ (primitive?_of_scalarType? h) v

end ValueType

end TableFlow
