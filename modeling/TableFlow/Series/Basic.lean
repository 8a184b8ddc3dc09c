import TableFlow.TypeError
import TableFlow.ValueType.Basic

namespace TableFlow

inductive DataType where
  | boolean
  | int8
  | int16
  | int32
  | int64
  | uint8
  | uint16
  | uint32
  | uint64
  | float32
  | float64
  | utf8
  | largeUtf8
  | binary
  | date32
  | null
  -- Any other type. Its cells have no value, no order and no conversion here.
  | other (name : String)
deriving DecidableEq

namespace DataType

def name : DataType → String
  | .boolean => "Boolean"
  | .int8 => "Int8"
  | .int16 => "Int16"
  | .int32 => "Int32"
  | .int64 => "Int64"
  | .uint8 => "UInt8"
  | .uint16 => "UInt16"
  | .uint32 => "UInt32"
  | .uint64 => "UInt64"
  | .float32 => "Float32"
  | .float64 => "Float64"
  | .utf8 => "Utf8"
  | .largeUtf8 => "LargeUtf8"
  | .binary => "Binary"
  | .date32 => "Date32"
  | .null => "Null"
  | .other name => name

-- The types whose cells are known.
def all : List DataType :=
  [.boolean, .int8, .int16, .int32, .int64, .uint8, .uint16, .uint32, .uint64, .float32, .float64,
    .utf8, .largeUtf8, .binary, .date32, .null]

def ofName? (name : String) : Option DataType := all.find? (·.name == name)

theorem ofName?_name {t : DataType} (h : t ∈ all) : ofName? t.name = some t := by
  cases t with
  | other name => simp [all] at h
  | _ => decide

-- What a cell holds that is not null. Numbers of single precision are kept as decimals, dates as
-- days.
abbrev Cell : DataType → Type
  | .boolean => Bool
  | .int64 => Int64
  | .int8 | .int16 | .int32 | .uint8 | .uint16 | .uint32 | .uint64 | .date32 => Int
  | .float32 | .float64 => Decimal
  | .utf8 | .largeUtf8 => String
  | .binary => List UInt8
  | .null => Empty
  | .other _ => Unit

-- The value type of the cells of a series.
def valueType? : DataType → Except TypeError ValueType
  | .boolean => .ok .boolean
  | .int8 | .int16 | .int32 | .int64 | .uint8 | .uint16 | .uint32 => .ok .integer
  | .float32 | .float64 => .ok .decimal
  | .utf8 | .largeUtf8 => .ok .text
  | t => .error (.unsupportedDataType t.name)

-- A type without a value type is read as text.
def valueType (t : DataType) : ValueType :=
  match t.valueType? with
  | .ok type => type
  | .error _ => .text

-- The order of two cells, in which false comes before true, decimals are totally ordered and texts
-- go by code points.
def compareCells? : (t : DataType) → Option (t.Cell → t.Cell → Ordering)
  | .boolean => some fun a b => Ord.compare a b
  | .int64 => some fun a b => Ord.compare a.toInt b.toInt
  | .int8 | .int16 | .int32 | .uint8 | .uint16 | .uint32 | .uint64 | .date32 =>
    some fun (a b : Int) => Ord.compare a b
  | .float32 | .float64 => some fun (a b : Decimal) => a.totalCompare b
  | .utf8 | .largeUtf8 => some fun (a b : String) => Ord.compare a b
  | .binary => some fun a b => List.compareLex (fun x y => Ord.compare x.toNat y.toNat) a b
  | .null => some nofun
  | .other _ => none

end DataType

-- The machine type that holds the values of a value type.
def ValueType.dataType? : ValueType → Except TypeError DataType
  | .primitive .boolean => .ok .boolean
  | .primitive .integer => .ok .int64
  | .primitive .decimal => .ok .float64
  | .primitive .text => .ok .utf8
  | .primitive p => .error (.noColumnarForm p.name)
  | .atomic _ _ supertype _ => supertype.dataType?
  | .collection element => .error (.noColumnarForm (ValueType.collection element).name)
  | .emptyCollection => .error (.noColumnarForm ValueType.emptyCollection.name)

-- Values without a machine type of their own are kept as text.
def ValueType.dataType (t : ValueType) : DataType :=
  match t.dataType? with
  | .ok type => type
  | .error _ => .utf8

structure Series where
  type : DataType
  cells : List (Option type.Cell)

namespace Series

def length (s : Series) : Nat := s.cells.length

def nulls (type : DataType) (count : Nat) : Series := ⟨type, List.replicate count none⟩

-- The cells in the places that are marked.
def keep {α : Type} : List Bool → List α → List α
  | true :: marks, a :: as => a :: keep marks as
  | false :: marks, _ :: as => keep marks as
  | _, _ => []

def filter (s : Series) (marks : List Bool) : Series := ⟨s.type, keep marks s.cells⟩

-- A series for values of a value type. Values that do not fit become null, except that a series of
-- text holds the text of any value.
def ofValues (type : ValueType) (values : List (Option Value)) : Series :=
  match type.dataType with
  | .boolean => ⟨.boolean, values.map (·.bind Value.boolean?)⟩
  | .int64 => ⟨.int64, values.map (·.bind Value.integer?)⟩
  | .float64 => ⟨.float64, values.map (·.bind Value.number?)⟩
  | _ => ⟨.utf8, values.map (·.map Value.render)⟩

end Series

end TableFlow
